import SharedSecurity.Proofs.History

/-!
# Calls in one transaction

A host makes several calls as one transaction: one after the other on an overlay, up to the first
that fails.  The store below may meet a fault at any request, in the middle of a call or at the
commit, and a call reads, lists and writes many keys.  Three things have to come out right whatever
the faults are: nothing is left behind by a transaction that fails, nothing differs in one that
succeeds, and no fault is taken for an answer.

* `History.transition` — the calls as one transition, which tells the answer of each.
* `History.results`, `History.firstError?` — what the same calls come to when each is made directly
  on a plain store.
* `Transition.result_execute_cases` — an executed transition comes to what it comes to directly, or
  to a fault that the store below did meet.
* `History.Transactional`, `History.execute_transactional` — **all or nothing, and otherwise the
  same as direct calls.**
-/

set_option autoImplicit false
namespace SharedSecurity

open Transition

/-! ## Where a fault comes from -/

namespace UnreliableStore

/-- Some request to the store meets the fault. -/
def Meets (store : UnreliableStore) (fault : StoreFault) : Prop :=
  ∃ count request, store.faultOf count request = some fault

/-- Stores with the same faults meet the same ones. -/
theorem meets_congr {store other : UnreliableStore} (h : store.faultOf = other.faultOf)
    {fault : StoreFault} : store.Meets fault ↔ other.Meets fault := by
  rw [Meets, Meets, h]

/-- A request is answered or meets a fault. -/
theorem answer_cases (request : Request) (store : UnreliableStore) :
    (∃ answer, (KeyValueStore.answer request store).1 = .ok answer) ∨
      ∃ fault, store.Meets fault ∧ (KeyValueStore.answer request store).1 = .error fault := by
  cases hfault : store.faultOf store.requests request with
  | some fault =>
    right
    refine ⟨fault, ⟨_, _, hfault⟩, ?_⟩
    simp only [KeyValueStore.answer, hfault]
  | none =>
    left
    obtain ⟨answer, hanswer⟩ := ReliableStore.answers request store.contents
    refine ⟨answer, ?_⟩
    simp only [KeyValueStore.answer, hfault] at hanswer ⊢
    exact hanswer

/-- A request changes no fault. -/
theorem faultOf_answer (request : Request) (store : UnreliableStore) :
    (KeyValueStore.answer request store).2.faultOf = store.faultOf := by
  cases hfault : store.faultOf store.requests request <;>
    simp only [KeyValueStore.answer, hfault]

end UnreliableStore

namespace Overlay

/-- A request to an overlay is answered or meets a fault of the store below. -/
theorem answer_cases (request : Request) (overlay : Overlay UnreliableStore) :
    (∃ answer, (KeyValueStore.answer request overlay).1 = .ok answer) ∨
      ∃ fault, overlay.backing.Meets fault ∧
        (KeyValueStore.answer request overlay).1 = .error fault := by
  cases request with
  | get key =>
    simp only [KeyValueStore.answer]
    split
    · exact .inl ⟨_, rfl⟩
    · exact overlay.backing.answer_cases (.get key)
  | scan stem =>
    show (∃ answer, (KeyValueStore.answer (.scan stem) overlay.backing).1.map _ = .ok answer) ∨
      ∃ fault, overlay.backing.Meets fault ∧
        (KeyValueStore.answer (.scan stem) overlay.backing).1.map _ = .error fault
    rcases overlay.backing.answer_cases (.scan stem) with
      ⟨listed, hlisted⟩ | ⟨fault, hmeets, hfault⟩
    · rw [hlisted]
      exact .inl ⟨_, rfl⟩
    · rw [hfault]
      exact .inr ⟨fault, hmeets, rfl⟩
  | write change => exact .inl ⟨(), rfl⟩
  | batch changes => exact .inl ⟨(), rfl⟩

/-- A request to an overlay changes no fault of the store below. -/
theorem faultOf_answer (request : Request) (overlay : Overlay UnreliableStore) :
    (KeyValueStore.answer request overlay).2.backing.faultOf = overlay.backing.faultOf := by
  cases request with
  | get key =>
    simp only [KeyValueStore.answer]
    split
    · rfl
    · exact overlay.backing.faultOf_answer (.get key)
  | scan stem => exact overlay.backing.faultOf_answer (.scan stem)
  | write change => rfl
  | batch changes => exact congrArg UnreliableStore.faultOf (backing_foldl_record changes overlay)

/-- A commit succeeds or meets a fault of the store below. -/
theorem commit_cases (overlay : Overlay UnreliableStore) :
    overlay.commit.1 = .ok () ∨
      ∃ fault, overlay.backing.Meets fault ∧ overlay.commit.1 = .error fault := by
  rw [commit]
  split
  · exact .inl rfl
  · rcases overlay.backing.answer_cases (.batch overlay.operations) with ⟨answer, hanswer⟩ | hfault
    · exact .inl hanswer
    · exact .inr hfault

end Overlay

namespace Transition

variable {α : Type}

/-- A run on an overlay changes no fault of the store below. -/
theorem faultOf_run (t : Transition α) (overlay : Overlay UnreliableStore) :
    (t.run overlay).store.backing.faultOf = overlay.backing.faultOf := by
  induction t generalizing overlay with
  | done result => rfl
  | emit output next ih => exact ih overlay
  | ask question next ih =>
    have hsame := overlay.faultOf_answer question
    simp only [run]
    generalize KeyValueStore.answer question overlay = reply at hsame
    obtain ⟨fault | answer, after⟩ := reply
    · exact hsame
    · exact (ih answer after).trans hsame

/-- A run on an overlay comes to what it comes to on what the overlay shows, or to a fault of the
store below. -/
theorem result_run_cases (t : Transition α) (overlay : Overlay UnreliableStore) :
    (t.run overlay).result = (t.run (contents overlay)).result ∨
      ∃ fault, overlay.backing.Meets fault ∧ (t.run overlay).result = .error (.store fault) := by
  induction t generalizing overlay with
  | done result => exact .inl rfl
  | emit output next ih => exact ih overlay
  | ask question next ih =>
    have hagrees := FaithfulStore.agrees question overlay
    have hcases := overlay.answer_cases question
    have hsame := overlay.faultOf_answer question
    simp only [run]
    generalize KeyValueStore.answer question overlay = reply at hagrees hcases hsame
    obtain ⟨result, after⟩ := reply
    rcases hcases with ⟨answer, rfl⟩ | ⟨fault, hmeets, rfl⟩
    · have hplain : KeyValueStore.answer question (contents overlay) =
          (.ok answer, contents after) := hagrees
      rw [hplain]
      rcases ih answer after with hnext | ⟨fault, hmeets, hfault⟩
      · exact .inl hnext
      · exact .inr ⟨fault, (UnreliableStore.meets_congr hsame).1 hmeets, hfault⟩
    · exact .inr ⟨fault, hmeets, rfl⟩

/-- **An executed transition comes to what it comes to directly, or to a fault of the store.** -/
theorem result_execute_cases (t : Transition α) (store : UnreliableStore) :
    (t.execute store).result = (t.run store.contents).result ∨
      ∃ fault, store.Meets fault ∧ (t.execute store).result = .error (.store fault) := by
  have hrun := t.result_run_cases (Overlay.ofStore store)
  have hcommit := (t.run (Overlay.ofStore store)).store.commit_cases
  have hsame := t.faultOf_run (Overlay.ofStore store)
  rw [Overlay.contents_ofStore] at hrun
  rw [execute, Outcome.settle]
  generalize t.run (Overlay.ofStore store) = outcome at hrun hcommit hsame
  obtain ⟨error | value, overlay, outputs⟩ := outcome
  · exact hrun
  · generalize overlay.commit = reply at hcommit
    obtain ⟨answer, after⟩ := reply
    rcases hcommit with rfl | ⟨fault, hmeets, rfl⟩
    · exact hrun
    · exact .inr ⟨fault, (UnreliableStore.meets_congr hsame).1 hmeets, rfl⟩

end Transition

/-! ## Calls one after the other -/

/-- A call with its answer. -/
abbrev Call.Answered := (call : Call) × call.operation.Answer

/-- A call with what it came to. -/
abbrev Call.Settled := (call : Call) × Except ProviderError call.operation.Answer

/-- A call that was answered came to its answer. -/
def Call.Answered.settled (answered : Call.Answered) : Call.Settled :=
  ⟨answered.1, .ok answered.2⟩

namespace History

/-- Calls made one after the other, up to the first that fails.  Tells the answers of all. -/
def transition : History → Transition (List Call.Answered)
  | [] => pure []
  | call :: rest => do
    let answer ← call.transition
    let answers ← transition rest
    pure (⟨call, answer⟩ :: answers)

/-- What calls come to that are made directly on a plain store, each after those before it. -/
def results : Store → History → List Call.Settled
  | _, [] => []
  | store, call :: rest =>
    ⟨call, (call.transition.run store).result⟩ :: results (call.after store) rest

/-- The error of the first call that fails, of calls that are made directly on a plain store. -/
def firstError? : Store → History → Option ProviderError
  | _, [] => none
  | store, call :: rest =>
    match (call.transition.run store).result with
    | .ok _ => firstError? (call.after store) rest
    | .error error => some error

/-- Calls in sequence on a plain store: they all succeed, and have the answers and leave the store
that direct calls have and leave, or the sequence ends with the first error of direct calls. -/
theorem transition_cases (calls : History) (store : Store) :
    (∃ answers, (calls.transition.run store).result = .ok answers ∧
        results store calls = answers.map Call.Answered.settled ∧
        (calls.transition.run store).store = afterFrom store calls) ∨
      ∃ error, (calls.transition.run store).result = .error error ∧
        firstError? store calls = some error := by
  induction calls generalizing store with
  | nil => exact .inl ⟨[], rfl, rfl, rfl⟩
  | cons call rest ih =>
    cases hcall : (call.transition.run store).result with
    | error error =>
      right
      refine ⟨error, ?_, ?_⟩
      · rw [transition, run_bind, Outcome.andThen, hcall]
      · rw [firstError?, hcall]
    | ok answer =>
      have hrun : (transition (call :: rest)).run store =
          ((transition rest >>= fun answers => pure (⟨call, answer⟩ :: answers)).run
            (call.after store)).prepend (call.transition.run store).outputs :=
        run_bind_of_result hcall
      rcases ih (call.after store) with
        ⟨answers, hanswers, hresults, hstore⟩ | ⟨error, herror, hfirst⟩
      · left
        rw [run_bind_of_result hanswers] at hrun
        refine ⟨⟨call, answer⟩ :: answers, by rw [hrun]; rfl, ?_, ?_⟩
        · rw [results, hcall, hresults]
          rfl
        · rw [hrun]
          exact hstore
      · right
        refine ⟨error, ?_, ?_⟩
        · rw [hrun, run_bind, Outcome.andThen, herror]
          rfl
        · rw [firstError?, hcall]
          exact hfirst

/-- A transaction of calls that succeeds has told and left what direct calls tell and leave. -/
theorem execute_ok {calls : History} {store : UnreliableStore} {answers : List Call.Answered}
    (h : (calls.transition.execute store).result = .ok answers) :
    results store.contents calls = answers.map Call.Answered.settled ∧
      (calls.transition.execute store).store.contents = afterFrom store.contents calls := by
  rcases execute_contents calls.transition store with ⟨error, herror, -⟩ | ⟨_, -, hshown⟩
  · rw [h] at herror
    cases herror
  · have hresult : (calls.transition.run store.contents).result = .ok answers := by
      rw [← h]
      exact congrArg Outcome.result hshown.symm
    have hstore := congrArg Outcome.store hshown
    rcases transition_cases calls store.contents with
      ⟨others, hothers, hresults, hleft⟩ | ⟨error, herror, -⟩
    · rw [hresult] at hothers
      cases hothers
      exact ⟨hresults, hstore.trans hleft⟩
    · rw [hresult] at herror
      cases herror

/-- What a transaction of calls on a store may rely on, compared with the same calls made directly,
one after the other, on a plain store with the same contents. -/
structure Transactional (calls : History) (store : UnreliableStore) : Prop where
  /-- After an error the contents are what they were. -/
  discarded : ∀ error, (calls.transition.execute store).result = .error error →
    (calls.transition.execute store).store.contents = store.contents
  /-- An error is a fault that the store meets, or the first error of the direct calls. -/
  cause : ∀ error, (calls.transition.execute store).result = .error error →
    (∃ fault, store.Meets fault ∧ error = .store fault) ∨
      firstError? store.contents calls = some error
  /-- After a success every call has told what it tells directly. -/
  answers : ∀ answers, (calls.transition.execute store).result = .ok answers →
    results store.contents calls = answers.map Call.Answered.settled
  /-- After a success the contents are what the direct calls leave. -/
  committed : ∀ answers, (calls.transition.execute store).result = .ok answers →
    (calls.transition.execute store).store.contents = afterFrom store.contents calls

/-- **A transaction is all or nothing, and otherwise the same as direct calls**, whatever faults the
store below meets and whenever it meets them: at a read, at a listing, or at the commit, whose batch
fails as a whole.  Faults that are listed by operation and key are those of `FaultTable.store`. -/
theorem execute_transactional (calls : History) (store : UnreliableStore) :
    Transactional calls store where
  discarded error herror := by
    rcases execute_contents calls.transition store with ⟨_, -, hsame⟩ | ⟨answers, hok, -⟩
    · exact hsame
    · rw [herror] at hok
      cases hok
  cause error herror := by
    rcases result_execute_cases calls.transition store with hdirect | ⟨fault, hmeets, hfault⟩
    · rw [herror] at hdirect
      rcases transition_cases calls store.contents with ⟨answers, hok, -⟩ | ⟨first, hfirst, hsome⟩
      · rw [← hdirect] at hok
        cases hok
      · rw [← hdirect] at hfirst
        cases hfirst
        exact .inr hsome
    · rw [herror] at hfault
      cases hfault
      exact .inl ⟨fault, hmeets, rfl⟩
  answers _ hanswers := (execute_ok hanswers).1
  committed _ hanswers := (execute_ok hanswers).2

/-- A block ends and a consumer is approved, over a store that cannot take the consumer's client:
the commit fails and the new version is not kept either. -/
example :
    let service : Service := ⟨{}, .empty, .accepting, .granting []⟩
    let calls : History :=
      [⟨service, .endBlock 5⟩, ⟨service, .registerConsumer ⟨⟨"foo"⟩, ⟨"client-0"⟩, []⟩⟩]
    let store := FaultTable.store
      [((.put, (Key.clientOf ⟨"foo"⟩).bytes), .io "disk")] .empty
    (calls.transition.execute store).result = .error (.store (.io "disk")) ∧
      (calls.transition.execute store).store.contents.entries = [] := by
  exact ⟨rfl, rfl⟩

end History
end SharedSecurity
