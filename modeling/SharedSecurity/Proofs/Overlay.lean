import SharedSecurity.Proofs.Contents

/-!
# A write overlay refines the store below it

A `Transition` is an adaptive sequence of store calls: what it asks next may depend on every answer
so far.  Its calls are reads, listings, writes and batches; whether there is a value under a key is
a read, on either kind of store (`Transition.contains`).  `Transition.dialogue` lists the calls with
their answers, and `Overlay.Refines` says what a user of an overlay may rely on: the same dialogue
as on a copy of what is below, nothing changed below before the commit, and after the commit what
the copy holds.

The statement needs that nothing below fails (`ReliableStore`).  Plain stores do not fail, and
neither does an overlay over a store that does not, so `Overlay.refines_copy` holds for a stack of
overlays of any height; `overlay_refines_store` is the case of one and of two.
-/

set_option autoImplicit false
namespace SharedSecurity

open Transition

/-- The calls of a transition to its store, each with its answer, in order. -/
def Transition.dialogue {α σ : Type} [KeyValueStore σ] :
    Transition α → σ → List ((request : Request) × Except StoreFault request.Answer)
  | done _, _ => []
  | emit _ next, store => next.dialogue store
  | ask question next, store =>
    match KeyValueStore.answer question store with
    | (.ok answer, after) => ⟨question, .ok answer⟩ :: (next answer).dialogue after
    | (.error fault, _) => [⟨question, .error fault⟩]

/-- A store that never fails and is left as it is by what only reads. -/
class ReliableStore (σ : Type) [KeyValueStore σ] : Prop where
  /-- Every request is answered. -/
  answers : ∀ (request : Request) (store : σ), ∃ answer,
    (KeyValueStore.answer request store).1 = .ok answer
  /-- Reading a key changes nothing. -/
  get_same : ∀ (key : Bytes) (store : σ), (KeyValueStore.answer (.get key) store).2 = store
  /-- Listing what is under a stem changes nothing. -/
  scan_same : ∀ (stem : Bytes) (store : σ), (KeyValueStore.answer (.scan stem) store).2 = store

instance : ReliableStore Store where
  answers request store := by cases request <;> exact ⟨_, rfl⟩
  get_same _ _ := rfl
  scan_same _ _ := rfl

instance {σ : Type} [KeyValueStore σ] [ReliableStore σ] : ReliableStore (Overlay σ) where
  answers request overlay := by
    cases request with
    | get key =>
      simp only [KeyValueStore.answer]
      split
      · exact ⟨_, rfl⟩
      · exact ReliableStore.answers (.get key) overlay.backing
    | scan stem =>
      obtain ⟨listed, hlisted⟩ := ReliableStore.answers (.scan stem) overlay.backing
      refine ⟨Overlay.merge overlay.pending stem listed, ?_⟩
      simp only [KeyValueStore.answer, hlisted, Except.map]
    | write change => exact ⟨_, rfl⟩
    | batch changes => exact ⟨_, rfl⟩
  get_same key overlay := by
    simp only [KeyValueStore.answer]
    split
    · rfl
    · rw [ReliableStore.get_same]; rfl
  scan_same stem overlay := by
    show overlay.withBacking (KeyValueStore.answer (.scan stem) overlay.backing).2 = overlay
    rw [ReliableStore.scan_same]
    rfl

namespace Transition

variable {α σ : Type} [KeyValueStore σ] [Contents σ] [FaithfulStore σ] [ReliableStore σ]

/-- A store that does not fail answers as the plain store with its contents. -/
theorem answer_contents (question : Request) (store : σ) : ∃ answer after,
    KeyValueStore.answer question store = (.ok answer, after) ∧
      KeyValueStore.answer question (contents store) = (.ok answer, contents after) := by
  have hagrees := FaithfulStore.agrees question store
  obtain ⟨answer, hanswer⟩ := ReliableStore.answers question store
  rw [hanswer] at hagrees
  exact ⟨answer, _, Prod.ext hanswer rfl, hagrees⟩

/-- On a store that does not fail a transition has the dialogue it has with its contents. -/
theorem dialogue_contents (t : Transition α) (store : σ) :
    t.dialogue store = t.dialogue (contents store) := by
  induction t generalizing store with
  | done result => rfl
  | emit output next ih => exact ih store
  | ask question next ih =>
    obtain ⟨answer, after, hstore, hplain⟩ := answer_contents question store
    simp only [dialogue, hstore, hplain, ih]

/-- On a store that does not fail a transition runs as on its contents. -/
theorem run_contents_of_reliable (t : Transition α) (store : σ) :
    (t.run store).shown = t.run (contents store) := by
  induction t generalizing store with
  | done result => rfl
  | emit output next ih =>
    simp only [run, ← ih store]
    rfl
  | ask question next ih =>
    obtain ⟨answer, after, hstore, hplain⟩ := answer_contents question store
    simp only [run, hstore, hplain, ih]

/-- A run on an overlay leaves a store that does not fail exactly as it was. -/
theorem backing_run (t : Transition α) (overlay : Overlay σ) :
    (t.run overlay).store.backing = overlay.backing := by
  have hbacking (question : Request) (overlay : Overlay σ) :
      (KeyValueStore.answer question overlay).2.backing = overlay.backing := by
    cases question with
    | get key => rw [ReliableStore.get_same]
    | scan stem => rw [ReliableStore.scan_same]
    | write change => rfl
    | batch changes => exact Overlay.backing_foldl_record changes overlay
  induction t generalizing overlay with
  | done result => rfl
  | emit output next ih => exact ih overlay
  | ask question next ih =>
    obtain ⟨answer, after, hstore, -⟩ := answer_contents question overlay
    have hkeep := hbacking question overlay
    rw [hstore] at hkeep
    simp only [run, hstore]
    exact (ih answer after).trans hkeep

end Transition

namespace Overlay

variable {α σ τ : Type} [KeyValueStore σ] [Contents σ] [KeyValueStore τ] [Contents τ]

/-- What a sequence of calls on an overlay over a store may rely on, compared with the same calls
made directly on a copy of what is below. -/
structure Refines (calls : Transition α) (below : σ) (copy : τ) : Prop where
  /-- Every call is the same and has the same answer. -/
  dialogue : calls.dialogue (ofStore below) = calls.dialogue copy
  /-- The calls come to the same result. -/
  result : (calls.run (ofStore below)).result = (calls.run copy).result
  /-- Before the commit nothing has changed below. -/
  untouched : (calls.run (ofStore below)).store.backing = below
  /-- The commit succeeds. -/
  commits : (calls.run (ofStore below)).store.commit.1 = .ok ()
  /-- After the commit the store below shows what the copy shows. -/
  committed : contents (calls.run (ofStore below)).store.commit.2 = contents (calls.run copy).store

omit [Contents σ] in
theorem commit_ok [ReliableStore σ] (overlay : Overlay σ) : overlay.commit.1 = .ok () := by
  unfold commit
  split
  · rfl
  · obtain ⟨answer, hanswer⟩ := ReliableStore.answers (.batch overlay.operations) overlay.backing
    exact hanswer

variable [FaithfulStore σ] [ReliableStore σ] [FaithfulStore τ] [ReliableStore τ]

/-- **Overlays refine what is below them**, whatever is below and whatever the copy is made of, as
long as neither fails and both show the same. -/
theorem refines_copy (calls : Transition α) {below : σ} {copy : τ}
    (hcopy : contents copy = contents below) : Refines calls below copy := by
  have hlaid := run_contents_of_reliable calls (ofStore below)
  have hdirect := run_contents_of_reliable calls copy
  rw [contents_ofStore, ← hcopy, ← hdirect] at hlaid
  refine ⟨?_, congrArg Outcome.result hlaid, backing_run calls _, commit_ok _, ?_⟩
  · rw [dialogue_contents, contents_ofStore, ← hcopy, ← dialogue_contents]
  · rcases contents_commit (calls.run (ofStore below)).store with ⟨fault, hfault, -⟩ | ⟨-, hshow⟩
    · rw [commit_ok] at hfault
      cases hfault
    · exact hshow.trans (congrArg Outcome.store hlaid)

end Overlay

/-- **A write overlay refines a plain store.**  Any calls on an overlay have the answers they have
on a copy of the store below, leave that store alone, and leave in it, once committed, what they
leave in the copy.  This is so over a plain store and over another overlay, which may have pending
writes of its own and may be compared with a copy of itself or with a plain copy of what it
shows. -/
theorem overlay_refines_store {α : Type} (calls : Transition α) :
    (∀ below : Store, Overlay.Refines calls below below) ∧
      ∀ below : Overlay Store, Overlay.Refines calls below below ∧
        Overlay.Refines calls below (contents below) :=
  ⟨fun _ => Overlay.refines_copy calls rfl,
    fun _ => ⟨Overlay.refines_copy calls rfl, Overlay.refines_copy calls rfl⟩⟩

end SharedSecurity
