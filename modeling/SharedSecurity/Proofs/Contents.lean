import SharedSecurity.Proofs.Listing
import SharedSecurity.Store.Unreliable
import SharedSecurity.Transition.Execute

/-!
# What a store shows

A plain store, a store that may fail and an overlay over either of them can all be read as the
contents of a plain store: `contents`.  `FaithfulStore` says that a store answers as the plain store
with its contents would, or else fails and shows what it showed before.

## What is here

* `Overlay.get?_contents`, `Overlay.contents_record`, `Overlay.merge_under` — how reading, writing
  and listing look through an overlay.
* the instances of `FaithfulStore`; the one for overlays makes no assumption on what is below but
  that it is faithful, so overlays may be stacked to any height.
* `Transition.run_contents` — a run on a faithful store meets a fault or is the run on its contents.
* `Transition.execute_contents` — **all or nothing**: a transition that is executed fails and leaves
  the contents alone, or does exactly what it does on a plain store with those contents.
-/

set_option autoImplicit false
namespace SharedSecurity

open Transition

/-- Stores that can be read as the contents of a plain store. -/
class Contents (σ : Type) where
  /-- What a plain store with the same answers would hold. -/
  contents : σ → Store

export Contents (contents)

instance : Contents Store := ⟨id⟩

instance : Contents UnreliableStore := ⟨UnreliableStore.contents⟩

/-- An overlay shows what is below with its own writes made in it. -/
instance {σ : Type} [Contents σ] : Contents (Overlay σ) where
  contents overlay := (contents overlay.backing).applyAll overlay.operations

/-- What an answer and the contents after it have to do with the contents before: a plain store
answers the same, or there was a fault and nothing changed. -/
def Request.Agrees (request : Request) (before : Store) :
    Except StoreFault request.Answer → Store → Prop
  | .ok answer, after => KeyValueStore.answer request before = (.ok answer, after)
  | .error _, after => after = before

/-- A store that answers from its contents, or fails and keeps them. -/
class FaithfulStore (σ : Type) [KeyValueStore σ] [Contents σ] : Prop where
  /-- Every answer agrees with the contents. -/
  agrees : ∀ (request : Request) (store : σ), request.Agrees (contents store)
    (KeyValueStore.answer request store).1 (contents (KeyValueStore.answer request store).2)

instance : FaithfulStore Store where
  agrees request store := by cases request <;> rfl

instance : FaithfulStore UnreliableStore where
  agrees request store := by
    simp only [KeyValueStore.answer]
    split
    · rfl
    · exact FaithfulStore.agrees request store.contents

/-! ## Looking through an overlay -/

namespace SortedMap

/-- The map of a list in key order finds what the list lists. -/
theorem get?_ofList {pairs : List (Bytes × Bytes)} (hsorted : pairs.Pairwise KeyBefore)
    (key : Bytes) : (ofList pairs).get? key = find? key pairs := by
  have hof : ofList pairs = Store.applyAll .empty
      ((pairs.map fun e => (e.1, some e.2)).map PendingWrites.toWrite) := by
    rw [ofList, Store.applyAll, List.map_map, List.foldl_map]
    rfl
  have hfind (es : List (Bytes × Bytes)) :
      (find? key (es.map fun e => (e.1, some e.2))).getD none = find? key es := by
    induction es with
    | nil => rfl
    | cons x xs ih => simp only [List.map_cons, find?]; split <;> simp_all
  have hpairs : (pairs.map fun e => (e.1, some e.2)).Pairwise KeyBefore :=
    List.pairwise_map.2 hsorted
  rw [hof, Store.get?_applyAll_entries hpairs, get?_empty, hfind]

end SortedMap

namespace Overlay

variable {σ : Type} [Contents σ]

/-- An overlay shows its own write at a key, or else what is below. -/
theorem get?_contents (overlay : Overlay σ) (key : Bytes) :
    (contents overlay).get? key =
      (overlay.pending.get? key).getD ((contents overlay.backing).get? key) :=
  Store.get?_applyAll_entries overlay.pending.sorted _ key

@[simp] theorem contents_ofStore (backing : σ) :
    contents (ofStore backing) = contents backing := rfl

/-- A write on an overlay is a write on what it shows. -/
theorem contents_record (overlay : Overlay σ) (change : Write) :
    contents (overlay.record change) = (contents overlay).apply change := by
  refine SortedMap.eq_of_get?_eq fun key => ?_
  rw [get?_contents, Store.get?_apply, get?_contents]
  show ((overlay.pending.insert change.key change.value?).get? key).getD _ = _
  rw [SortedMap.get?_insert]
  by_cases hkey : key = change.key
  · rw [if_pos hkey, if_pos hkey]; rfl
  · rw [if_neg hkey, if_neg hkey]; rfl

theorem contents_foldl_record (changes : List Write) (overlay : Overlay σ) :
    contents (changes.foldl record overlay) = (contents overlay).applyAll changes := by
  induction changes generalizing overlay with
  | nil => rfl
  | cons change changes ih =>
    rw [List.foldl_cons, ih, contents_record]
    rfl

/-- **A merged listing is a listing of what the overlay shows.** -/
theorem merge_under (pending : PendingWrites) (stem : Bytes) (below : Store) :
    merge pending stem (below.under stem) = (below.applyAll pending.operations).under stem := by
  refine SortedMap.entries_eq_of_mem_iff (SortedMap.sorted _) (SortedMap.sorted_under _ _) ?_
  rintro ⟨key, value⟩
  rw [merge, ← SortedMap.get?_eq_some_iff, SortedMap.mem_under_iff,
    Store.get?_applyAll_entries (SortedMap.sorted_under _ _),
    SortedMap.get?_ofList (SortedMap.sorted_under _ _), SortedMap.find?_under,
    SortedMap.find?_under]
  show _ ↔ (below.applyAll (pending.entries.map PendingWrites.toWrite)).get? key = some value ∧ _
  rw [Store.get?_applyAll_entries pending.sorted]
  by_cases hstem : stem.isPrefixOf key = true
  · rw [if_pos hstem, if_pos hstem]
    exact (and_iff_left hstem).symm
  · rw [if_neg hstem, if_neg hstem]
    simp [hstem]

theorem contents_withBacking (overlay : Overlay σ) {backing : σ}
    (h : contents backing = contents overlay.backing) :
    contents (overlay.withBacking backing) = contents overlay := by
  show (contents backing).applyAll overlay.operations = _
  rw [h]
  rfl

end Overlay

/-! ## Overlays are faithful -/

section

variable {σ : Type} [KeyValueStore σ] [Contents σ] [FaithfulStore σ]

/-- A request that only reads, that is, one that leaves every plain store as it is, leaves what any
faithful store shows as it is. -/
theorem FaithfulStore.contents_of_read {request : Request} (store : σ)
    (hread : (KeyValueStore.answer request (contents store)).2 = contents store) :
    contents (KeyValueStore.answer request store).2 = contents store := by
  have h := agrees request store
  revert h
  cases (KeyValueStore.answer request store).1 with
  | ok answer => intro h; rw [← hread, h]
  | error fault => exact id

theorem FaithfulStore.contents_get (key : Bytes) (store : σ) :
    contents (KeyValueStore.answer (.get key) store).2 = contents store :=
  contents_of_read store rfl

theorem FaithfulStore.contents_scan (stem : Bytes) (store : σ) :
    contents (KeyValueStore.answer (.scan stem) store).2 = contents store :=
  contents_of_read store rfl

instance : FaithfulStore (Overlay σ) where
  agrees request overlay := by
    cases request with
    | get key =>
      have hbelow := FaithfulStore.agrees (.get key) overlay.backing
      have hlook := overlay.get?_contents key
      simp only [KeyValueStore.answer]
      split
      · next value hvalue =>
        show (Except.ok ((contents overlay).get? key), contents overlay) = _
        rw [hlook, hvalue]
        rfl
      · next hvalue =>
        have hkeep := Overlay.contents_withBacking overlay
          (FaithfulStore.contents_get key overlay.backing)
        show Request.Agrees _ _ (KeyValueStore.answer (.get key) overlay.backing).1 _
        rw [hkeep]
        rw [hvalue] at hlook
        revert hbelow
        cases (KeyValueStore.answer (.get key) overlay.backing).1 with
        | error fault => exact fun _ => rfl
        | ok value =>
          intro hbelow
          show (Except.ok ((contents overlay).get? key), contents overlay) = _
          rw [hlook]
          exact congrArg (fun a => (a, contents overlay)) (congrArg Prod.fst hbelow)
    | scan stem =>
      have hbelow := FaithfulStore.agrees (.scan stem) overlay.backing
      have hkeep := Overlay.contents_withBacking overlay
        (FaithfulStore.contents_scan stem overlay.backing)
      show Request.Agrees _ _ ((KeyValueStore.answer (.scan stem) overlay.backing).1.map _)
        (contents (overlay.withBacking _))
      rw [hkeep]
      revert hbelow
      cases (KeyValueStore.answer (.scan stem) overlay.backing).1 with
      | error fault => exact fun _ => rfl
      | ok listed =>
        intro hbelow
        have hlisted : listed = (contents overlay.backing).under stem :=
          (Except.ok.inj (congrArg Prod.fst hbelow)).symm
        show (Except.ok ((contents overlay).under stem), contents overlay) = _
        rw [hlisted, Overlay.merge_under]
        rfl
    | write change => exact congrArg (Except.ok (), ·) (overlay.contents_record change).symm
    | batch changes =>
      exact congrArg (Except.ok (), ·) (overlay.contents_foldl_record changes).symm

end

/-! ## Runs -/

namespace Transition

variable {α σ : Type} [KeyValueStore σ] [Contents σ] [FaithfulStore σ]

/-- What a run on a faithful store shows, as an outcome on a plain store. -/
def Outcome.shown (outcome : Outcome σ α) : Outcome Store α :=
  ⟨outcome.result, contents outcome.store, outcome.outputs⟩

/-- Whether a run ended with a fault of its store. -/
def Outcome.Faulted (outcome : Outcome σ α) : Prop :=
  ∃ fault, outcome.result = .error (.store fault)

/-- **A run on a faithful store meets a fault or is the run on its contents.** -/
theorem run_contents (t : Transition α) (store : σ) :
    (t.run store).Faulted ∨ (t.run store).shown = t.run (contents store) := by
  induction t generalizing store with
  | done result => exact .inr rfl
  | emit output next ih =>
    rcases ih store with h | h
    · exact .inl h
    · refine .inr ?_
      simp only [run, ← h]
      rfl
  | ask question next ih =>
    have hagrees := FaithfulStore.agrees question store
    simp only [run]
    generalize KeyValueStore.answer question store = reply at hagrees
    obtain ⟨answer | answer, after⟩ := reply
    · exact .inl ⟨answer, rfl⟩
    · have hplain : KeyValueStore.answer question (contents store) = (.ok answer, contents after) :=
        hagrees
      rw [hplain]
      exact ih answer after

end Transition

/-! ## All or nothing -/

section

variable {α σ : Type} [KeyValueStore σ] [Contents σ] [FaithfulStore σ]

omit [KeyValueStore σ] [Contents σ] [FaithfulStore σ] in
theorem Overlay.backing_foldl_record (changes : List Write) (overlay : Overlay σ) :
    (changes.foldl record overlay).backing = overlay.backing := by
  induction changes generalizing overlay with
  | nil => rfl
  | cons change changes ih => exact ih (overlay.record change)

/-- No request to an overlay changes what the store below shows. -/
theorem Overlay.contents_backing (request : Request) (overlay : Overlay σ) :
    contents (KeyValueStore.answer request overlay).2.backing = contents overlay.backing := by
  cases request with
  | get key =>
    simp only [KeyValueStore.answer]
    split
    · rfl
    · exact FaithfulStore.contents_get key overlay.backing
  | scan stem => exact FaithfulStore.contents_scan stem overlay.backing
  | write change => rfl
  | batch changes => exact congrArg contents (Overlay.backing_foldl_record changes overlay)

/-- Before its commit a transition on an overlay has changed nothing below. -/
theorem Transition.contents_backing_run (t : Transition α) (overlay : Overlay σ) :
    contents (t.run overlay).store.backing = contents overlay.backing := by
  induction t generalizing overlay with
  | done result => rfl
  | emit output next ih => exact ih overlay
  | ask question next ih =>
    have hkeep := Overlay.contents_backing question overlay
    simp only [run]
    generalize KeyValueStore.answer question overlay = reply at hkeep
    obtain ⟨answer | answer, after⟩ := reply
    · exact hkeep
    · exact (ih answer after).trans hkeep

/-- A commit fails and changes nothing below, or leaves there what the overlay shows. -/
theorem Overlay.contents_commit (overlay : Overlay σ) :
    (∃ fault, overlay.commit.1 = .error fault ∧
        contents overlay.commit.2 = contents overlay.backing) ∨
      (overlay.commit.1 = .ok () ∧ contents overlay.commit.2 = contents overlay) := by
  rw [commit]
  split
  · next hempty =>
    have hops : overlay.operations = [] := by
      rw [Overlay.operations, PendingWrites.operations, List.isEmpty_iff.1 hempty, List.map_nil]
    refine .inr ⟨rfl, ?_⟩
    show _ = (contents overlay.backing).applyAll overlay.operations
    rw [hops]
    rfl
  · have hagrees := FaithfulStore.agrees (.batch overlay.operations) overlay.backing
    generalize KeyValueStore.answer (.batch overlay.operations) overlay.backing = reply at hagrees
    obtain ⟨fault | answer, after⟩ := reply
    · exact .inl ⟨fault, rfl, hagrees⟩
    · exact .inr ⟨rfl, (congrArg Prod.snd hagrees).symm⟩

/-- **All or nothing.**  A transition that is executed fails and leaves the contents alone, or does
exactly what it does on a plain store with those contents. -/
theorem Transition.execute_contents (t : Transition α) (store : σ) :
    (∃ error, (t.execute store).result = .error error ∧
        contents (t.execute store).store = contents store) ∨
      (∃ value, (t.execute store).result = .ok value ∧
        (t.execute store).shown = t.run (contents store)) := by
  have hbacking := t.contents_backing_run (Overlay.ofStore store)
  have hrun := t.run_contents (Overlay.ofStore store)
  rw [Overlay.contents_ofStore] at hrun
  rw [execute, Outcome.settle]
  generalize t.run (Overlay.ofStore store) = outcome at hbacking hrun
  obtain ⟨error | value, overlay, outputs⟩ := outcome
  · exact .inl ⟨error, rfl, hbacking⟩
  · have hdirect : t.run (contents store) = ⟨.ok value, contents overlay, outputs⟩ := by
      rcases hrun with ⟨fault, hfault⟩ | hrun
      · cases hfault
      · exact hrun.symm
    have hcommit := overlay.contents_commit
    generalize overlay.commit = reply at hcommit
    obtain ⟨answer, after⟩ := reply
    rcases hcommit with ⟨fault, rfl, hkeep⟩ | ⟨rfl, hshow⟩
    · exact .inl ⟨.store fault, rfl, hkeep.trans hbacking⟩
    · refine .inr ⟨value, rfl, ?_⟩
      rw [hdirect, ← hshow]
      rfl

omit [Contents σ] [FaithfulStore σ] in
/-- A transition that is executed with success met no fault on the overlay. -/
theorem Transition.not_faulted_of_execute {t : Transition α} {store : σ} {value : α}
    (h : (t.execute store).result = .ok value) : ¬ (t.run (Overlay.ofStore store)).Faulted := by
  rintro ⟨fault, hfault⟩
  rw [execute, Outcome.settle, hfault] at h
  cases h

end
end SharedSecurity
