import SharedSecurity.Proofs.Footprint
import SharedSecurity.Proofs.Overlay

/-!
# What a store can hold

Whatever is asked of the provider, its store holds records under their keys and nothing else:
`Store.Typed`.  This needs no care about what the records say, since it follows from what a
transition may write at all.

To read a record back its lengths must also fit in a word.  Lists and strings do not grow beyond
that in memory, and `Transition.Short` puts this down for the values that a run writes.  A store
that was only ever written by short runs is `Store.WellFormed`, and there every key is sound.

* `Transition.typed_run`, `Transition.shortValues_run` — the two halves are kept by every run.
* `Store.WellFormed.sound` — **every key can be read.**
-/

set_option autoImplicit false
namespace SharedSecurity

open Transition

/-! ## Short values -/

/-- The value of a write, if there is one, has a length that fits in a word. -/
def Write.Short : Write → Prop
  | .put _ value => value.length < UInt64.size
  | .delete _ => True

instance : DecidablePred Write.Short
  | .put _ value => inferInstanceAs (Decidable (value.length < UInt64.size))
  | .delete _ => isTrue trivial

/-- The values of all writes in a request have lengths that fit in a word. -/
def Request.Short : Request → Prop
  | .get _ => True
  | .scan _ => True
  | .write change => change.Short
  | .batch changes => ∀ change ∈ changes, change.Short

instance : DecidablePred Request.Short
  | .get _ => isTrue trivial
  | .scan _ => isTrue trivial
  | .write change => inferInstanceAs (Decidable change.Short)
  | .batch changes => inferInstanceAs (Decidable (∀ change ∈ changes, change.Short))

namespace Transition

variable {α β : Type}

/-- Every value that a run on a plain store writes has a length that fits in a word. -/
def Short (t : Transition α) (store : Store) : Prop := ∀ call ∈ t.dialogue store, call.1.Short

instance (t : Transition α) (store : Store) : Decidable (t.Short store) :=
  inferInstanceAs (Decidable (∀ call ∈ t.dialogue store, call.1.Short))

theorem short_done (result : Except ProviderError α) (store : Store) :
    (done result).Short store := fun _ hcall => nomatch hcall

theorem short_ask {question : Request} {next : question.Answer → Transition α} {store after : Store}
    {answer : question.Answer} (h : KeyValueStore.answer question store = (.ok answer, after)) :
    (ask question next).Short store ↔ question.Short ∧ (next answer).Short after := by
  rw [Short]
  rw [dialogue, h]
  exact List.forall_mem_cons

/-- A sequence is short if its first part is, and what follows is short from there on. -/
theorem short_bind {t : Transition α} {next : α → Transition β} {store : Store} :
    (t >>= next).Short store ↔ t.Short store ∧
      ∀ value, (t.run store).result = .ok value → (next value).Short (t.run store).store := by
  rw [bind_eq]
  induction t generalizing store with
  | done result =>
    constructor
    · intro h
      refine ⟨short_done _ _, ?_⟩
      rintro value ⟨⟩
      exact h
    · rintro ⟨-, h⟩
      cases result with
      | ok value => exact h value rfl
      | error error => exact short_done _ _
  | emit output rest ih => exact ih
  | ask question rest ih =>
    obtain ⟨answer, after, hanswer, -⟩ := answer_contents question store
    have hrun : (ask question rest).run store = (rest answer).run after := by
      simp only [run, hanswer]
    rw [bind, short_ask hanswer, short_ask hanswer, ih, hrun, and_assoc]

/-- What is short after a first part with a known outcome. -/
theorem Short.after {t : Transition α} {next : α → Transition β} {store after : Store} {value : α}
    {outputs : List Output} (h : (t >>= next).Short store)
    (hrun : t.run store = ⟨.ok value, after, outputs⟩) : (next value).Short after := by
  have hnext := (short_bind.1 h).2 value
  rw [hrun] at hnext
  exact hnext rfl

theorem short_put {key value : Bytes} {store : Store} :
    (put key value).Short store ↔ value.length < UInt64.size := by
  have hput : (put key value).Short store ↔ (Request.write (.put key value)).Short ∧ _ :=
    short_ask rfl
  rw [hput]
  exact and_iff_left (short_done _ _)

end Transition

/-! ## What is stored -/

namespace Store

/-- Everything in the store is a record under its key. -/
def Typed (store : Store) : Prop :=
  ∀ bytes value, store.get? bytes = some value →
    ∃ key : Key, ∃ record : key.Record, bytes = key.bytes ∧ value = key.encode record

/-- Every value in the store has a length that fits in a word. -/
def ShortValues (store : Store) : Prop :=
  ∀ bytes value, store.get? bytes = some value → value.length < UInt64.size

theorem typed_empty : Typed SortedMap.empty := fun _ _ h => nomatch h

theorem shortValues_empty : ShortValues SortedMap.empty := fun _ _ h => nomatch h

theorem Typed.record {store : Store} (h : store.Typed) {key : Key} {value : Bytes}
    (hvalue : store.get? key.bytes = some value) : ∃ record, value = key.encode record := by
  obtain ⟨other, record, hbytes, hrecord⟩ := h _ _ hvalue
  obtain rfl := Key.bytes_injective hbytes
  exact ⟨record, hrecord⟩

/-- A key whose records can all be read back is sound. -/
theorem Typed.sound {store : Store} (h : store.Typed) (key : Key)
    (hkey : ∀ record, key.Holds record) : store.Sound key := fun value hvalue => by
  obtain ⟨record, hrecord⟩ := h.record hvalue
  exact ⟨record, hkey record, hrecord⟩

/-- A store that holds records under their keys, all of which can be read back. -/
structure WellFormed (store : Store) : Prop where
  /-- Everything in it is a record under its key. -/
  typed : store.Typed
  /-- Every value in it has a length that fits in a word. -/
  short : store.ShortValues

theorem wellFormed_empty : WellFormed SortedMap.empty := ⟨typed_empty, shortValues_empty⟩

/-- **In a well-formed store every key can be read.** -/
theorem WellFormed.sound {store : Store} (h : store.WellFormed) (key : Key) : store.Sound key := by
  intro value hvalue
  obtain ⟨record, rfl⟩ := h.typed.record hvalue
  exact ⟨record, key.holds_of_length (h.short _ _ hvalue), rfl⟩

/-- What is listed under the stem of a family is records under keys of the family. -/
theorem Typed.listed {store : Store} (h : store.Typed) {family : KeyFamily} {entry : Bytes × Bytes}
    (hentry : entry ∈ store.under family.stem) :
    ∃ key : Key, key.family = some family ∧
      ∃ record : key.Record, entry = (key.bytes, key.encode record) := by
  obtain ⟨hget, hstem⟩ := SortedMap.mem_under_iff.1 hentry
  obtain ⟨key, record, hkey, hrecord⟩ := h _ _ hget
  rw [hkey, Key.stem_isPrefixOf_bytes, beq_iff_eq] at hstem
  exact ⟨key, hstem, record, Prod.ext hkey hrecord⟩

/-- In a well-formed store what is listed can be read back. -/
theorem WellFormed.listed {store : Store} (h : store.WellFormed) {family : KeyFamily}
    {entry : Bytes × Bytes} (hentry : entry ∈ store.under family.stem) :
    ∃ key : Key, key.family = some family ∧
      ∃ record : key.Record, key.Holds record ∧ entry = (key.bytes, key.encode record) := by
  obtain ⟨key, hfamily, record, rfl⟩ := h.typed.listed hentry
  have hget := (SortedMap.mem_under_iff.1 hentry).1
  exact ⟨key, hfamily, record, key.holds_of_length (h.short _ _ hget), rfl⟩

theorem Typed.apply {store : Store} (h : store.Typed) {P : Key → Prop} {change : Write}
    (hchange : change.Within P) : (store.apply change).Typed := by
  intro bytes value hvalue
  obtain ⟨key, -, hkey, hrecord⟩ := hchange
  rw [get?_apply] at hvalue
  by_cases hbytes : bytes = change.key
  · rw [if_pos hbytes] at hvalue
    obtain ⟨record, rfl⟩ := hrecord value hvalue
    exact ⟨key, record, hbytes.trans hkey, rfl⟩
  · rw [if_neg hbytes] at hvalue
    exact h bytes value hvalue

theorem Typed.applyAll {store : Store} (h : store.Typed) {P : Key → Prop} {changes : List Write}
    (hchanges : ∀ change ∈ changes, change.Within P) : (store.applyAll changes).Typed := by
  induction changes generalizing store with
  | nil => exact h
  | cons change changes ih =>
    obtain ⟨hchange, hrest⟩ := List.forall_mem_cons.1 hchanges
    exact ih (h.apply hchange) hrest

theorem ShortValues.apply {store : Store} (h : store.ShortValues) {change : Write}
    (hchange : change.Short) : (store.apply change).ShortValues := by
  intro bytes value hvalue
  rw [get?_apply] at hvalue
  by_cases hbytes : bytes = change.key
  · rw [if_pos hbytes] at hvalue
    cases change with
    | put key put => exact Option.some.inj hvalue ▸ hchange
    | delete key => cases hvalue
  · rw [if_neg hbytes] at hvalue
    exact h bytes value hvalue

theorem ShortValues.applyAll {store : Store} (h : store.ShortValues) {changes : List Write}
    (hchanges : ∀ change ∈ changes, change.Short) : (store.applyAll changes).ShortValues := by
  induction changes generalizing store with
  | nil => exact h
  | cons change changes ih =>
    obtain ⟨hchange, hrest⟩ := List.forall_mem_cons.1 hchanges
    exact ih (h.apply hchange) hrest

/-- A store stays typed when a record is put. -/
theorem Typed.hold {store : Store} (h : store.Typed) (key : Key) (record : key.Record) :
    (store.hold key record).Typed := by
  have hwithin : (Write.put key.bytes (key.encode record)).Within fun _ => True :=
    ⟨key, trivial, rfl, fun _ hvalue => ⟨record, (Option.some.inj hvalue).symm⟩⟩
  exact h.apply hwithin

end Store

/-! ## Runs -/

namespace Transition

variable {α : Type} {P : Key → Prop}

/-- **A run keeps a store typed.** -/
theorem typed_run {t : Transition α} (ht : t.WritesWithin P) {store : Store} (h : store.Typed) :
    (t.run store).store.Typed := by
  induction t generalizing store with
  | done result => exact h
  | emit output next ih => exact ih ht h
  | ask question next ih =>
    cases question with
    | get sought => exact ih _ (ht.2 _) h
    | scan stem => exact ih _ (ht.2 _) h
    | write change => exact ih () (ht.2 ()) (h.apply ht.1)
    | batch changes => exact ih () (ht.2 ()) (h.applyAll ht.1)

/-- **A short run leaves short values.** -/
theorem shortValues_run {t : Transition α} {store : Store} (ht : t.Short store)
    (h : store.ShortValues) : (t.run store).store.ShortValues := by
  induction t generalizing store with
  | done result => exact h
  | emit output next ih => exact ih ht h
  | ask question next ih =>
    cases question with
    | get sought => exact ih _ ((short_ask rfl).1 ht).2 h
    | scan stem => exact ih _ ((short_ask rfl).1 ht).2 h
    | write change =>
      have ht := (short_ask rfl).1 ht
      exact ih () ht.2 (h.apply ht.1)
    | batch changes =>
      have ht := (short_ask rfl).1 ht
      exact ih () ht.2 (h.applyAll ht.1)

/-- A short run leaves a well-formed store well-formed. -/
theorem wellFormed_run {t : Transition α} (ht : t.WritesWithin P) {store : Store}
    (hshort : t.Short store) (h : store.WellFormed) : (t.run store).store.WellFormed :=
  ⟨typed_run ht h.typed, shortValues_run hshort h.short⟩

end Transition
end SharedSecurity
