import Mathlib.Data.List.TakeWhile
import SharedSecurity.Proofs.Listing

/-!
# Scans are exact

A scan of the plain store walks a range of its keys: it starts at the first key that does not come
before the stem and ends at the first key that does not begin with it.  `Store.ListsUnder` says that
nothing is lost this way.

* `SortedMap.entries_eq_under` — the range with what the walk skips and what it never looks at.
* `Store.scan_listsUnder` — **a scan lists every entry under its stem**, each once and in key order,
  for every store and every stem.
-/

set_option autoImplicit false
namespace SharedSecurity

namespace SortedMap

variable {ν : Type}

/-- The keys that a scan skips come before the stem, and those it does not reach come after it and
are not under it. -/
theorem entries_eq_under (m : SortedMap Bytes ν) (stem : Bytes) :
    ∃ before after, m.entries = before ++ m.under stem ++ after ∧
      (∀ e ∈ before, Bytes.order e.1 stem = .lt) ∧
      ∀ e ∈ after, Bytes.order stem e.1 = .lt ∧ ¬ stem <+: e.1 := by
  let isBelow (e : Bytes × ν) : Bool := Bytes.order e.1 stem == .lt
  let isUnder (e : Bytes × ν) : Bool := stem.isPrefixOf e.1
  let reached := m.entries.dropWhile isBelow
  have hentries : m.entries =
      m.entries.takeWhile isBelow ++ m.under stem ++ reached.dropWhile isUnder := by
    rw [List.append_assoc, under, List.takeWhile_append_dropWhile, List.takeWhile_append_dropWhile]
  refine ⟨_, _, hentries, fun e he => ?_, fun e he => ?_⟩
  · have hbelow : isBelow e = true := List.mem_takeWhile_imp he
    exact eq_of_beq hbelow
  have hreached : e ∈ reached := (List.dropWhile_sublist _).subset he
  have hnotbelow := order_ne_lt_of_mem_dropWhile m.sorted hreached
  have hnotunder : ¬ stem <+: e.1 := by
    intro hstem
    -- an entry under the stem is in the range, and what is in the range comes before `e`
    have hmem : e ∈ m.entries := (List.dropWhile_sublist _).subset hreached
    have hlisted : e ∈ m.under stem := by
      rw [under_eq_filter]
      exact List.mem_filter.2 ⟨hmem, List.isPrefixOf_iff_prefix.2 hstem⟩
    have hsorted := m.sorted
    rw [hentries] at hsorted
    have hself : KeyBefore e e :=
      (List.pairwise_append.1 hsorted).2.2 e (List.mem_append_right _ hlisted) e he
    simp [KeyBefore, Bytes.order_self] at hself
  refine ⟨?_, hnotunder⟩
  cases horder : Bytes.order e.1 stem with
  | lt => exact absurd horder hnotbelow
  | eq => exact absurd (Bytes.eq_of_order_eq horder ▸ List.prefix_rfl) hnotunder
  | gt => exact Bytes.order_gt_iff.1 horder

end SortedMap

namespace Store

/-- The list is what a store holds under a stem. -/
structure ListsUnder (store : Store) (stem : Bytes) (listed : List (Bytes × Bytes)) : Prop where
  /-- It has the entries whose key begins with the stem, and no others. -/
  mem_iff : ∀ key value, (key, value) ∈ listed ↔ store.get? key = some value ∧ stem <+: key
  /-- Keys ascend strictly. -/
  ascending : listed.Pairwise KeyBefore
  /-- No key is listed twice. -/
  nodup : (listed.map Prod.fst).Nodup
  /-- It is all that the store holds from the first key that does not come before the stem up to the
  first key after that which does not begin with it. -/
  interval : ∃ before after, store.entries = before ++ listed ++ after ∧
    (∀ e ∈ before, Bytes.order e.1 stem = .lt) ∧
    ∀ e ∈ after, Bytes.order stem e.1 = .lt ∧ ¬ stem <+: e.1

/-- **A scan is exact**: it changes nothing and lists what the store holds under the stem. -/
theorem scan_listsUnder (store : Store) (stem : Bytes) : ∃ listed,
    KeyValueStore.answer (.scan stem) store = (.ok listed, store) ∧
      store.ListsUnder stem listed := by
  have hsorted := SortedMap.sorted_under store stem
  refine ⟨store.under stem, rfl, ?_, hsorted, ?_, store.entries_eq_under stem⟩
  · intro key value
    rw [SortedMap.mem_under_iff, List.isPrefixOf_iff_prefix]
  · refine List.pairwise_map.2 (hsorted.imp fun {a b} hbefore heq => ?_)
    rw [KeyBefore, heq, Bytes.order_self] at hbefore
    cases hbefore

/-- Past the last byte of a stem there may be no greater byte to stop at. -/
example : (SortedMap.ofList
    [([0xff], [1]), ([0xff, 0xff], [2]), ([0xfe, 0xff], [3])]).under [0xff] =
      [([0xff], [1]), ([0xff, 0xff], [2])] := by decide

end Store
end SharedSecurity
