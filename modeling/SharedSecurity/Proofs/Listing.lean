import SharedSecurity.Store.Overlay

/-!
# What a range of a sorted map lists

`SortedMap.under` finds the entries under a stem as a range: it skips the keys that come before the
stem and stops at the first key that does not begin with it.  That this is the same as looking at
every key rests on one property of the byte order, `Bytes.not_prefix_of_order`: past the stem, once
a key does not begin with it no later key does.

* `SortedMap.under_eq_filter` — the range holds every entry whose key begins with the stem, in key
  order, and nothing else.
* `Store.get?_applyAll_entries` — what is found after writes that come from the entries of a sorted
  map: what the map says of a key, and the store for the keys it does not mention.
-/

set_option autoImplicit false
namespace SharedSecurity

/-! ## Keys under a stem -/

namespace Bytes

/-- A key that begins with a stem does not come before it. -/
theorem order_ne_lt_of_prefix {stem key : Bytes} (h : stem.isPrefixOf key = true) :
    order key stem ≠ .lt := by
  induction stem generalizing key with
  | nil => cases key <;> simp [order]
  | cons s stem ih => cases key with
    | nil => simp at h
    | cons k key =>
      simp only [List.isPrefixOf, Bool.and_eq_true, beq_iff_eq] at h
      obtain ⟨rfl, hrest⟩ := h
      simpa [order] using ih hrest

/-- **The keys under a stem are an interval.**  Past the stem, what comes after a key that does not
begin with it does not begin with it either. -/
theorem not_prefix_of_order {stem key later : Bytes} (hstem : order key stem ≠ .lt)
    (hkey : stem.isPrefixOf key = false) (hlater : order key later = .lt) :
    stem.isPrefixOf later = false := by
  induction stem generalizing key later with
  | nil => simp at hkey
  | cons s stem ih => cases key with
    | nil => simp [order] at hstem
    | cons k key => cases later with
      | nil => rfl
      | cons l later =>
        simp only [order] at hstem hlater
        by_cases hsl : s = l
        · subst hsl
          have hks : k = s := by
            apply UInt8.toNat_inj.1
            split at hstem
            · exact absurd rfl hstem
            · split at hlater
              · omega
              · split at hlater
                · cases hlater
                · omega
          subst hks
          simp only [Nat.lt_irrefl, if_false] at hstem hlater
          simp only [List.isPrefixOf, beq_self_eq_true, Bool.true_and] at hkey ⊢
          exact ih hstem hkey hlater
        · simp [List.isPrefixOf, hsl]

end Bytes

/-! ## The range is a filter -/

namespace SortedMap

variable {ν : Type}

/-- Once one listed key does not begin with a stem it has passed, the scan for the stem ends where
a filter would end. -/
theorem takeWhile_eq_filter {stem : Bytes} {es : List (Bytes × ν)} (hsorted : es.Pairwise KeyBefore)
    (hpast : ∀ e ∈ es, Bytes.order e.1 stem ≠ .lt) :
    (es.takeWhile fun e => stem.isPrefixOf e.1) = es.filter fun e => stem.isPrefixOf e.1 := by
  induction es with
  | nil => rfl
  | cons x xs ih =>
    have hx := List.pairwise_cons.1 hsorted
    cases hstem : stem.isPrefixOf x.1 with
    | true =>
      simp only [List.takeWhile, List.filter, hstem]
      exact congrArg (x :: ·) (ih hx.2 fun e he => hpast e (List.mem_cons_of_mem _ he))
    | false =>
      have hnone : ∀ e ∈ xs, ¬ stem.isPrefixOf e.1 = true := fun e he => by
        have hlater := Bytes.not_prefix_of_order (hpast x (List.mem_cons_self ..)) hstem (hx.1 e he)
        exact Bool.not_eq_true _ ▸ hlater
      simp only [List.takeWhile, List.filter, hstem]
      exact (List.filter_eq_nil_iff.2 hnone).symm

theorem filter_dropWhile {stem : Bytes} (es : List (Bytes × ν)) :
    ((es.dropWhile fun e => Bytes.order e.1 stem == .lt).filter fun e => stem.isPrefixOf e.1) =
      es.filter fun e => stem.isPrefixOf e.1 := by
  induction es with
  | nil => rfl
  | cons x xs ih =>
    by_cases hx : Bytes.order x.1 stem = .lt
    · have hstem : ¬ stem.isPrefixOf x.1 = true := fun h => Bytes.order_ne_lt_of_prefix h hx
      rw [List.dropWhile_cons_of_pos (by simp [hx]), ih]
      simp only [List.filter, Bool.not_eq_true _ ▸ hstem]
    · rw [List.dropWhile_cons_of_neg (by simp [hx])]

theorem order_ne_lt_of_mem_dropWhile {stem : Bytes} {es : List (Bytes × ν)}
    (hsorted : es.Pairwise KeyBefore) {e : Bytes × ν}
    (he : e ∈ es.dropWhile fun e => Bytes.order e.1 stem == .lt) : Bytes.order e.1 stem ≠ .lt := by
  induction es with
  | nil => cases he
  | cons x xs ih =>
    have hx := List.pairwise_cons.1 hsorted
    by_cases hlt : Bytes.order x.1 stem = .lt
    · rw [List.dropWhile_cons_of_pos (by simp [hlt])] at he
      exact ih hx.2 he
    · rw [List.dropWhile_cons_of_neg (by simp [hlt])] at he
      rcases List.mem_cons.1 he with rfl | he
      · exact hlt
      · exact fun h => hlt (Bytes.order_trans (hx.1 e he) h)

/-- **A range holds every entry under its stem.** -/
theorem under_eq_filter (m : SortedMap Bytes ν) (stem : Bytes) :
    m.under stem = m.entries.filter fun e => stem.isPrefixOf e.1 := by
  rw [under, takeWhile_eq_filter (m.sorted.sublist (List.dropWhile_sublist _))
    fun e he => order_ne_lt_of_mem_dropWhile m.sorted he, filter_dropWhile]

theorem mem_under_iff {m : SortedMap Bytes ν} {stem key : Bytes} {value : ν} :
    (key, value) ∈ m.under stem ↔ m.get? key = some value ∧ stem.isPrefixOf key = true := by
  rw [under_eq_filter, List.mem_filter, get?_eq_some_iff]

theorem sorted_under (m : SortedMap Bytes ν) (stem : Bytes) :
    (m.under stem).Pairwise KeyBefore := by
  rw [under_eq_filter]
  exact m.sorted.sublist List.filter_sublist

theorem find?_cons_of_ne {key : Bytes} {x : Bytes × ν} (h : key ≠ x.1) (es : List (Bytes × ν)) :
    find? key (x :: es) = find? key es := by
  simp only [find?]
  split
  · next heq => exact absurd (Bytes.eq_of_order_eq heq) h
  · rfl
  · rfl

/-- What is found in a range is what is found in the map, for keys under the stem. -/
theorem find?_under (m : SortedMap Bytes ν) (stem key : Bytes) :
    find? key (m.under stem) = if stem.isPrefixOf key then m.get? key else none := by
  cases hfound : find? key (m.under stem) with
  | some value =>
    obtain ⟨hget, hstem⟩ := mem_under_iff.1 (mem_of_find? hfound)
    rw [if_pos hstem, hget]
  | none =>
    split
    · next hstem =>
      cases hget : m.get? key with
      | none => rfl
      | some value =>
        have := find?_of_mem (sorted_under m stem) (mem_under_iff.2 ⟨hget, hstem⟩)
        simp [hfound] at this
    · rfl

end SortedMap

/-! ## Writes made one after the other -/

namespace Store

theorem get?_apply (store : Store) (change : Write) (key : Bytes) :
    (store.apply change).get? key = if key = change.key then change.value? else store.get? key := by
  cases change with
  | put k v => exact SortedMap.get?_insert store k key v
  | delete k => exact SortedMap.get?_erase store k key

theorem key_toWrite (entry : Bytes × Option Bytes) :
    (PendingWrites.toWrite entry).key = entry.1 := by
  obtain ⟨key, _ | value⟩ := entry <;> rfl

theorem value?_toWrite (entry : Bytes × Option Bytes) :
    (PendingWrites.toWrite entry).value? = entry.2 := by
  obtain ⟨key, _ | value⟩ := entry <;> rfl

/-- What is found after the writes of a list of keys in order: what the list says of the key, and
else what was there. -/
theorem get?_applyAll_entries {es : List (Bytes × Option Bytes)} (hsorted : es.Pairwise KeyBefore)
    (store : Store) (key : Bytes) :
    (store.applyAll (es.map PendingWrites.toWrite)).get? key =
      (SortedMap.find? key es).getD (store.get? key) := by
  induction es generalizing store with
  | nil => rfl
  | cons x xs ih =>
    have hx := List.pairwise_cons.1 hsorted
    rw [List.map_cons, applyAll, List.foldl_cons, ← applyAll, ih hx.2, get?_apply, key_toWrite,
      value?_toWrite]
    by_cases hkey : key = x.1
    · rw [hkey, SortedMap.find?_eq_none hx.1, SortedMap.find?_cons_self, if_pos rfl]
      rfl
    · rw [if_neg hkey, SortedMap.find?_cons_of_ne hkey]

end Store
end SharedSecurity
