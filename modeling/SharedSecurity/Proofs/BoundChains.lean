import SharedSecurity.Proofs.KeyLayout
import SharedSecurity.Proofs.Typed

/-!
# The list of bound chains

`Registry.boundChains` goes through a listing and decodes key after key; a key or value of another
form would end it with an error.  On a typed store there is none, and what comes out is the list of
all chains for which a channel is recorded, each once and in byte order.

* `Store.boundChains` — that list, as a function of the store, and `Registry.run_boundChains`.
* `Store.mem_boundChains`, `Store.sorted_boundChains` — what is in it, and in what order.
* `Store.sorted_listing` — what is noted of a listing is in the order of the chains in its keys.
* `Stored.visitList_noteAll` — what is noted on the way through a listing that can be decoded.
-/

set_option autoImplicit false
namespace SharedSecurity

open Transition

/-- A chain comes strictly before another in the byte order of their names. -/
def ChainId.Before (a b : ChainId) : Prop := Bytes.order a.bytes b.bytes = .lt

instance : DecidableRel ChainId.Before := fun a b =>
  inferInstanceAs (Decidable (Bytes.order a.bytes b.bytes = .lt))

theorem ChainId.Before.ne {a b : ChainId} (h : a.Before b) : a ≠ b := by
  rintro rfl
  rw [Before, Bytes.order_self] at h
  cases h

theorem ChainId.Before.asymm {a b : ChainId} (h : a.Before b) : ¬ b.Before a := by
  intro hback
  rw [Before, ← Bytes.order_gt_iff, h] at hback
  cases hback

/-- Lists in the order of the chains that their items are about are the same if they have the same
items. -/
theorem ChainId.eq_of_mem_iff {α : Type} (chainOf : α → ChainId) {first second : List α}
    (hfirst : first.Pairwise fun a b => (chainOf a).Before (chainOf b))
    (hsecond : second.Pairwise fun a b => (chainOf a).Before (chainOf b))
    (h : ∀ item, item ∈ first ↔ item ∈ second) : first = second := by
  have hnodup {items : List α}
      (hitems : items.Pairwise fun a b => (chainOf a).Before (chainOf b)) : items.Nodup :=
    hitems.imp fun hbefore heq => hbefore.ne (congrArg chainOf heq)
  have hperm : first.Perm second :=
    (List.perm_ext_iff_of_nodup (hnodup hfirst) (hnodup hsecond)).2 h
  exact hperm.eq_of_pairwise (fun _ _ _ _ hab hba => absurd hba hab.asymm) hfirst hsecond

/-- What is noted of the entries under a stem is in the order of the chains in their keys. -/
theorem Store.sorted_listing {α : Type} (chainOf : α → ChainId) {store : Store}
    {family : KeyFamily} {noted : Bytes × Bytes → Option α}
    (h : ∀ entry ∈ store.under family.stem, ∀ item, noted entry = some item →
      entry.1 = family.key (chainOf item).bytes) :
    ((store.under family.stem).filterMap noted).Pairwise
      fun a b => (chainOf a).Before (chainOf b) := by
  rw [List.pairwise_filterMap]
  refine (SortedMap.sorted_under store _).imp_of_mem
    fun {entry other} hentry hother hbefore item hitem later hlater => ?_
  have horder : Bytes.order entry.1 other.1 = .lt := hbefore
  rw [h entry hentry item hitem, h other hother later hlater] at horder
  exact (Bytes.order_append_left _ _ _).symm.trans horder

/-- The chain that an entry of the bindings by chain is about. -/
def chainOfEntry (entry : Bytes × Bytes) : Option ChainId :=
  (KeyFamily.channelOfChain.name? entry.1).map ChainId.mk

theorem chainOfEntry_eq_some_iff {entry : Bytes × Bytes} {chain : ChainId} :
    chainOfEntry entry = some chain ↔ entry.1 = (Key.channelOf chain).bytes := by
  obtain ⟨name⟩ := chain
  rw [chainOfEntry, Option.map_eq_some_iff]
  refine ⟨?_, fun h => ⟨name, KeyFamily.name?_eq_some_iff.2 h, rfl⟩⟩
  rintro ⟨found, hname, hchain⟩
  cases hchain
  exact KeyFamily.name?_eq_some_iff.1 hname

namespace Store

variable {store : Store}

/-- The chains for which a channel is recorded, in byte order. -/
def boundChains (store : Store) : List ChainId :=
  (store.under KeyFamily.channelOfChain.stem).filterMap chainOfEntry

/-- An entry of the listing is the binding of a chain. -/
theorem Typed.entry_of_binding (h : store.Typed) {entry : Bytes × Bytes}
    (hentry : entry ∈ store.under KeyFamily.channelOfChain.stem) :
    ∃ chain : ChainId, ∃ channel : ChannelId,
      entry = ((Key.channelOf chain).bytes, Utf8.encode channel.name) := by
  obtain ⟨key, hfamily, record, rfl⟩ := h.listed hentry
  cases key <;> cases hfamily
  exact ⟨_, record, rfl⟩

/-- **The listed chains are the bound ones.** -/
theorem mem_boundChains (h : store.Typed) {chain : ChainId} :
    chain ∈ store.boundChains ↔ (store.channel? chain).isSome := by
  rw [boundChains, List.mem_filterMap, channel?,
    ← (h.sound (.channelOf chain) fun _ => trivial).isSome_get?, Option.isSome_iff_exists]
  constructor
  · rintro ⟨entry, hentry, hchain⟩
    refine ⟨entry.2, ?_⟩
    rw [← chainOfEntry_eq_some_iff.1 hchain]
    exact (SortedMap.mem_under_iff.1 hentry).1
  · rintro ⟨value, hvalue⟩
    refine ⟨((Key.channelOf chain).bytes, value), SortedMap.mem_under_iff.2 ⟨hvalue, ?_⟩,
      chainOfEntry_eq_some_iff.2 rfl⟩
    rw [Key.stem_isPrefixOf_bytes]
    rfl

/-- The bound chains are listed in byte order. -/
theorem sorted_boundChains (store : Store) : store.boundChains.Pairwise ChainId.Before :=
  sorted_listing (fun chain => chain) fun _ _ _ hchain => chainOfEntry_eq_some_iff.1 hchain

theorem nodup_boundChains (store : Store) : store.boundChains.Nodup :=
  store.sorted_boundChains.imp ChainId.Before.ne

end Store

/-! ## Listings -/

namespace Stored

/-- A name is read back from a listed key. -/
theorem nameOfKey_key (family : KeyFamily) (what name : String) :
    nameOfKey family what (family.key (Utf8.encode name)) = .ok name := by
  rw [nameOfKey, KeyFamily.name?_eq_some_iff.2 rfl]

theorem noteAll_eq {γ : Type} (item : γ) (seen : List γ) :
    noteAll item seen = .yield (seen ++ [item]) := by
  rw [noteAll, noteUpTo, if_neg (by simp)]

/-- A visitor that never stops notes what there is to see in every entry, if all can be decoded. -/
theorem visitList_noteAll {α γ : Type} {decode : Bytes × Bytes → Except ProviderError (Option α)}
    {noted : Bytes × Bytes → Option γ} (note : α → γ) {entries : List (Bytes × Bytes)}
    (h : ∀ entry ∈ entries, ∃ found, decode entry = .ok found ∧ found.map note = noted entry)
    (seen : List γ) : visitList decode (fun item seen => noteAll (note item) seen) entries seen =
      .ok (seen ++ entries.filterMap noted) := by
  induction entries generalizing seen with
  | nil => rw [List.filterMap_nil, List.append_nil, visitList]
  | cons entry rest ih =>
    obtain ⟨⟨found, hdecode, hnoted⟩, hrest⟩ := List.forall_mem_cons.1 h
    rw [visitList, hdecode]
    cases found with
    | none =>
      rw [List.filterMap_cons_none hnoted.symm]
      exact ih hrest seen
    | some item =>
      rw [List.filterMap_cons_some hnoted.symm, List.append_cons, ← ih hrest]
      simp only [Bind.bind, Except.bind, noteAll_eq]

/-- A visitor that never stops has been through all entries, so each of them was decoded. -/
theorem exists_of_visitList_noteAll {α γ : Type}
    {decode : Bytes × Bytes → Except ProviderError (Option α)} {note : α → γ}
    {entries : List (Bytes × Bytes)} {seen noted : List γ}
    (h : visitList decode (fun item seen => noteAll (note item) seen) entries seen = .ok noted) :
    ∀ entry ∈ entries, ∃ found, decode entry = .ok found := by
  induction entries generalizing seen with
  | nil => exact List.forall_mem_nil _
  | cons entry rest ih =>
    rw [visitList] at h
    obtain ⟨found, hfound, hrest⟩ := bind_eq_ok_iff.1 h
    refine List.forall_mem_cons.2 ⟨⟨found, hfound⟩, ?_⟩
    cases found with
    | none => exact ih hrest
    | some item =>
      dsimp only at hrest
      rw [noteAll_eq] at hrest
      exact ih hrest

end Stored

namespace Registry

/-- A listed binding is decoded to its chain and channel. -/
theorem decodeBinding_encode (chain : ChainId) (channel : ChannelId) :
    decodeBinding ((Key.channelOf chain).bytes, Utf8.encode channel.name) =
      .ok (some (chain, channel)) := by
  have hname : Stored.nameOfKey .channelOfChain "chain id" (Key.channelOf chain).bytes =
      .ok chain.name := Stored.nameOfKey_key .channelOfChain "chain id" chain.name
  simp only [decodeBinding, hname, Stored.nameOfValue_encode]
  rfl

/-- **The bound chains can always be listed.** -/
theorem run_boundChains {store : Store} (h : store.Typed) :
    boundChains.run store = ⟨.ok store.boundChains, store, []⟩ := by
  have hdecode : ∀ entry ∈ store.under KeyFamily.channelOfChain.stem, ∃ found,
      decodeBinding entry = .ok found ∧ found.map Prod.fst = chainOfEntry entry := by
    intro entry hentry
    obtain ⟨chain, channel, rfl⟩ := h.entry_of_binding hentry
    exact ⟨_, decodeBinding_encode chain channel, (chainOfEntry_eq_some_iff.2 rfl).symm⟩
  have hvisit := Stored.visitList_noteAll Prod.fst hdecode []
  rw [boundChains, visitChains, Stored.visit, run_bind_ok (run_scan _ store), hvisit]
  rfl

end Registry
end SharedSecurity
