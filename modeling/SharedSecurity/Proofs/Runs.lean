import Mathlib.Data.List.Basic
import SharedSecurity.Proofs.Overlay
import SharedSecurity.Proofs.Records
import SharedSecurity.Store.Unreliable

/-!
# Steps, transactions and runs

A host takes steps on a store.  It may take one directly, and then the writes of a failing step
stay.  Or it may take several in one transaction: an adaptive `Script`, which sees the result of
each step and goes on as it likes, run all or nothing on an overlay of a store whose reads and
batches may meet faults.  A refusal is a result like any other, but a fault ends the transaction, as
it does when the host passes on every error of its store: half a step is never committed.

Nothing here depends on what a step is.  `Steps` says of a kind of steps what each does and tells;
the operations of a provider are one kind, and the accesses to one of its ledgers may be another.

* `Performed`, `Follows` — steps with the stores they were taken on and what they came to, and that
  some were taken one after the other, from one store to another.
* `Script`, `Transaction`, `Turn`, `Run` — what a host may do in one transaction, in one go and in
  the long run, with the steps that are `performed` and, of these, those whose effects are `kept`.
* `Script.All`, `Script.GivesUpAt` — what a script may take at all, and at which failures it ends.
* `Script.performed_isPrefix` — over a store that may fail, a script takes the steps that it takes
  on a plain store, up to the first that meets a fault.
* `Transaction.cases` — **a transaction is given up and leaves nothing, or it does what its script
  does on a plain store.**
* `Turn.follows`, `Run.follows` — **the kept steps lead to the store that is left.**
* `Script.play` — the same scripts for a host that is told of faults like of any other result, on a
  store of which nothing is known.
-/

set_option autoImplicit false
namespace SharedSecurity

open Transition

/-! ## Attempts -/

namespace Transition

variable {α σ : Type}

/-- A transition that hands on its own error as a value.  A fault of the store still ends it. -/
def attempt : Transition α → Transition (Except ProviderError α)
  | done result => done (.ok result)
  | ask question next => ask question fun answer => (next answer).attempt
  | emit output next => emit output next.attempt

/-- An attempt on a plain store always has a value, the result of the transition. -/
theorem run_attempt (t : Transition α) (store : Store) :
    t.attempt.run store =
      ⟨.ok (t.run store).result, (t.run store).store, (t.run store).outputs⟩ := by
  induction t generalizing store with
  | done result => rfl
  | emit output next ih =>
    rw [attempt, run, ih]
    rfl
  | ask question next ih =>
    obtain ⟨answer, after, hanswer, -⟩ := answer_contents question store
    simp only [attempt, run, hanswer, ih]

/-- An attempt gives out and leaves what the transition does.  A fault of the store is its own
error, and any other result is its value. -/
theorem run_attempt_or_fault [KeyValueStore σ] (t : Transition α) (store : σ) :
    (∃ fault, (t.run store).result = .error (.store fault) ∧ t.attempt.run store =
        ⟨.error (.store fault), (t.run store).store, (t.run store).outputs⟩) ∨
      t.attempt.run store =
        ⟨.ok (t.run store).result, (t.run store).store, (t.run store).outputs⟩ := by
  induction t generalizing store with
  | done result => exact .inr rfl
  | ask question next ih =>
    simp only [attempt, run]
    rcases KeyValueStore.answer question store with ⟨fault | answer, after⟩
    · exact .inl ⟨fault, rfl, rfl⟩
    · exact ih answer after
  | emit output next ih =>
    rcases ih store with ⟨fault, hfault, hrun⟩ | hrun
    · exact .inl ⟨fault, hfault, congrArg (Outcome.prepend [output]) hrun⟩
    · exact .inr (congrArg (Outcome.prepend [output]) hrun)

/-- An attempt on a faithful store meets a fault, or has for its value the result that the
transition has on the contents, and leaves what the transition leaves there. -/
theorem run_attempt_cases [KeyValueStore σ] [Contents σ] [FaithfulStore σ]
    (t : Transition α) (store : σ) :
    (∃ fault after outputs, t.attempt.run store = ⟨.error (.store fault), after, outputs⟩) ∨
      ∃ after outputs, t.attempt.run store = ⟨.ok (t.run (contents store)).result, after, outputs⟩ ∧
        contents after = (t.run (contents store)).store := by
  have hrun := run_contents t.attempt store
  have hplain := run_attempt t (contents store)
  generalize t.attempt.run store = outcome at hrun
  obtain ⟨result, after, outputs⟩ := outcome
  rcases hrun with ⟨fault, rfl⟩ | hshown
  · exact .inl ⟨fault, after, outputs, rfl⟩
  · rw [hplain] at hshown
    obtain rfl : result = .ok (t.run (contents store)).result := congrArg Outcome.result hshown
    exact .inr ⟨after, outputs, rfl, congrArg Outcome.store hshown⟩

end Transition

/-! ## Steps -/

/-- A kind of steps that a host may take. -/
class Steps (κ : Type) where
  /-- What a step tells when it succeeds. -/
  Answer : κ → Type
  /-- The work of a step. -/
  transition : (step : κ) → Transition (Answer step)

/-- A step, the store that it was taken on, and what it came to. -/
structure Performed (κ : Type) [Steps κ] where
  /-- The store before. -/
  before : Store
  /-- The step. -/
  step : κ
  /-- What it came to. -/
  result : Except ProviderError (Steps.Answer step)

namespace Steps

variable {κ : Type} [Steps κ]

/-- The store after a step that is taken directly. -/
def after (step : κ) (store : Store) : Store := ((transition step).run store).store

/-- What is given out in a step that is taken directly. -/
def outputs (step : κ) (store : Store) : List Output := ((transition step).run store).outputs

/-- A step that is taken directly on a store. -/
def performed (step : κ) (store : Store) : Performed κ :=
  ⟨store, step, ((transition step).run store).result⟩

end Steps

/-- What a step gives out on the store that it was taken on. -/
def Performed.outputs {κ : Type} [Steps κ] (performed : Performed κ) : List Output :=
  Steps.outputs performed.step performed.before

section

variable {κ : Type} [Steps κ]

/-- Steps that were taken one after the other, from one store to another. -/
inductive Follows : Store → List (Performed κ) → Store → Prop where
  /-- None were. -/
  | nil (store : Store) : Follows store [] store
  /-- One was, and others after it. -/
  | cons {store after : Store} (step : κ) {rest : List (Performed κ)}
    (h : Follows (Steps.after step store) rest after) :
    Follows store (Steps.performed step store :: rest) after

namespace Follows

variable {first second third : Store} {past later : List (Performed κ)}

theorem append (h : Follows first past second) (hlater : Follows second later third) :
    Follows first (past ++ later) third := by
  induction h with
  | nil => exact hlater
  | cons step _ ih => exact .cons step (ih hlater)

/-- What some steps begin with was taken one after the other, too. -/
theorem of_append (h : Follows first (past ++ later) third) :
    ∃ second, Follows first past second ∧ Follows second later third := by
  induction past generalizing first with
  | nil => exact ⟨first, .nil first, h⟩
  | cons performed rest ih =>
    cases h with
    | cons step h =>
      obtain ⟨second, hrest, hlater⟩ := ih h
      exact ⟨second, .cons step hrest, hlater⟩

/-- Each step came to what it comes to on the store that it was taken on. -/
theorem result_eq (h : Follows first past second) {one : Performed κ} (hone : one ∈ past) :
    one.result = ((Steps.transition one.step).run one.before).result := by
  induction h with
  | nil => cases hone
  | cons step _ ih =>
    rcases List.mem_cons.1 hone with rfl | hone
    · rfl
    · exact ih hone

end Follows
end

/-! ## Scripts -/

/-- What a host does in one transaction: steps, each of which may depend on the results of those
before, and a last word. -/
inductive Script (κ : Type) [Steps κ] where
  /-- Ends the transaction with a value or an error. -/
  | stop (result : Except ProviderError Unit)
  /-- Takes a step and goes on with its result. -/
  | make (step : κ) (next : Except ProviderError (Steps.Answer step) → Script κ)

namespace Script

variable {κ σ : Type} [Steps κ]

/-- Every step that a script may take has the property, whatever the steps before it came to. -/
def All (P : κ → Prop) : Script κ → Prop
  | stop _ => True
  | make step next => P step ∧ ∀ result, (next result).All P

@[simp] theorem all_stop (P : κ → Prop) (result : Except ProviderError Unit) :
    (stop result : Script κ).All P := trivial

@[simp] theorem all_make {P : κ → Prop} {step : κ}
    {next : Except ProviderError (Steps.Answer step) → Script κ} :
    (make step next).All P ↔ P step ∧ ∀ result, (next result).All P := .rfl

theorem All.imp {P Q : κ → Prop} {script : Script κ} (h : script.All P)
    (himp : ∀ step, P step → Q step) : script.All Q := by
  induction script with
  | stop result => trivial
  | make step next ih => exact ⟨himp step h.1, fun result => ih result (h.2 result)⟩

/-- A failure of any step that has the property ends the script with that error. -/
def GivesUpAt (P : κ → Prop) : Script κ → Prop
  | stop _ => True
  | make step next => (P step → ∀ error, next (.error error) = stop (.error error)) ∧
      ∀ result, (next result).GivesUpAt P

/-- Steps one after the other, up to the first that fails. -/
def inSequence : List κ → Script κ
  | [] => stop (.ok ())
  | step :: rest => make step fun
    | .ok _ => inSequence rest
    | .error error => stop (.error error)

theorem givesUpAt_inSequence (P : κ → Prop) (steps : List κ) : (inSequence steps).GivesUpAt P := by
  induction steps with
  | nil => trivial
  | cons step rest ih =>
    refine ⟨fun _ _ => rfl, fun result => ?_⟩
    cases result with
    | ok answer => exact ih
    | error error => trivial

theorem all_inSequence {P : κ → Prop} {steps : List κ} (h : ∀ step ∈ steps, P step) :
    (inSequence steps).All P := by
  induction steps with
  | nil => trivial
  | cons step rest ih =>
    obtain ⟨hstep, hrest⟩ := List.forall_mem_cons.1 h
    refine ⟨hstep, fun result => ?_⟩
    cases result with
    | ok answer => exact ih hrest
    | error error => trivial

/-! ### Up to a fault -/

section

variable [KeyValueStore σ] [Contents σ]

/-- The work of a script. -/
def transition : Script κ → Transition Unit
  | stop result => ofExcept result
  | make step next => do
    let result ← (Steps.transition step).attempt
    (next result).transition

/-- The steps that a script takes on a store, each with what the store showed and what the script
was told, up to one that meets a fault. -/
def performed : Script κ → σ → List (Performed κ)
  | stop _, _ => []
  | make step next, store =>
    let outcome := (Steps.transition step).attempt.run store
    match outcome.result with
    | .ok result => ⟨contents store, step, result⟩ :: (next result).performed outcome.store
    | .error _ => []

/-- On a plain store the steps of a script are taken one after the other. -/
theorem follows (script : Script κ) (store : Store) :
    Follows store (script.performed store) (script.transition.run store).store := by
  induction script generalizing store with
  | stop result => exact .nil store
  | make step next ih =>
    have hattempt := run_attempt (Steps.transition step) store
    rw [transition, run_bind_ok hattempt, performed, hattempt]
    exact .cons step (ih _ _)

/-- On a plain store a script gives out what its steps do. -/
theorem outputs_transition (script : Script κ) (store : Store) :
    (script.transition.run store).outputs =
      (script.performed store).flatMap Performed.outputs := by
  induction script generalizing store with
  | stop result => rfl
  | make step next ih =>
    have hattempt := run_attempt (Steps.transition step) store
    rw [transition, run_bind_ok hattempt, performed, hattempt]
    exact congrArg (_ ++ ·) (ih _ _)

/-- All that a script takes on a store are steps that it may take. -/
theorem All.performed {P : κ → Prop} {script : Script κ} (h : script.All P) (store : σ) :
    ∀ one ∈ script.performed store, P one.step := by
  induction script generalizing store with
  | stop result => exact List.forall_mem_nil _
  | make step next ih =>
    rw [Script.performed]
    rcases (Steps.transition step).attempt.run store with ⟨error | result, after, outputs⟩
    · exact List.forall_mem_nil _
    · exact List.forall_mem_cons.2 ⟨h.1, ih result (h.2 result) after⟩

/-- If a script succeeds, no step failed at which it gives up. -/
theorem GivesUpAt.isOk {P : κ → Prop} {script : Script κ} (h : script.GivesUpAt P) {store : Store}
    (hok : (script.transition.run store).result = .ok ()) :
    ∀ one ∈ script.performed store, P one.step → one.result.isOk := by
  induction script generalizing store with
  | stop result => exact List.forall_mem_nil _
  | make step next ih =>
    have hattempt := run_attempt (Steps.transition step) store
    rw [transition, run_bind_ok hattempt] at hok
    rw [Script.performed, hattempt]
    refine List.forall_mem_cons.2 ⟨fun hstep => ?_, ih _ (h.2 _) hok⟩
    cases hresult : ((Steps.transition step).run store).result with
    | ok answer => rfl
    | error error =>
      rw [hresult, h.1 hstep error] at hok
      cases hok

/-- A single step has the effect that it has directly. -/
theorem run_inSequence_singleton (step : κ) (store : Store) :
    (inSequence [step]).transition.run store =
      ⟨((Steps.transition step).run store).result.map fun _ => (), Steps.after step store,
        Steps.outputs step store⟩ := by
  have hattempt := run_attempt (Steps.transition step) store
  rw [inSequence, transition, run_bind_ok hattempt]
  cases hresult : ((Steps.transition step).run store).result <;>
    exact congrArg (Outcome.mk _ _) (List.append_nil _)

theorem performed_inSequence_singleton (step : κ) (store : Store) :
    (inSequence [step]).performed store = [Steps.performed step store] := by
  have hattempt := run_attempt (Steps.transition step) store
  rw [inSequence, Script.performed, hattempt, Steps.performed]
  cases ((Steps.transition step).run store).result <;> rfl

variable [FaithfulStore σ]

/-- Over any store, a script takes the steps that it takes on a plain store with the same contents,
up to the first that meets a fault. -/
theorem performed_isPrefix (script : Script κ) (store : σ) :
    script.performed store <+: script.performed (contents store) := by
  induction script generalizing store with
  | stop result => exact List.prefix_rfl
  | make step next ih =>
    rcases run_attempt_cases (Steps.transition step) store with
      ⟨fault, after, outputs, hrun⟩ | ⟨after, outputs, hrun, hafter⟩
    · rw [performed, hrun]
      exact List.nil_prefix
    · rw [performed, performed, hrun, run_attempt, ← hafter]
      exact (List.prefix_cons_inj _).2 (ih _ after)

/-- A script that meets no fault takes all of them. -/
theorem performed_contents (script : Script κ) {store : σ}
    (h : ¬ (script.transition.run store).Faulted) :
    script.performed store = script.performed (contents store) := by
  induction script generalizing store with
  | stop result => rfl
  | make step next ih =>
    rcases run_attempt_cases (Steps.transition step) store with
      ⟨fault, after, outputs, hrun⟩ | ⟨after, outputs, hrun, hafter⟩
    · rw [transition, run_bind_error hrun] at h
      exact absurd ⟨fault, rfl⟩ h
    · rw [transition, run_bind_ok hrun] at h
      rw [performed, performed, hrun, run_attempt, ← hafter]
      exact congrArg (_ :: ·) (ih _ h)

end

/-! ### Told of faults -/

variable [KeyValueStore σ]

/-- What a script comes to on any store, if it is told the result of every step, also of one that
meets a fault. -/
def play : Script κ → σ → Outcome σ Unit
  | stop result, store => ⟨result, store, []⟩
  | make step next, store =>
    let outcome := (Steps.transition step).run store
    ((next outcome.result).play outcome.store).prepend outcome.outputs

/-- The steps of a script that is played, with what they came to. -/
def settled : Script κ → σ → List ((step : κ) × Except ProviderError (Steps.Answer step))
  | stop _, _ => []
  | make step next, store =>
    let outcome := (Steps.transition step).run store
    ⟨step, outcome.result⟩ :: (next outcome.result).settled outcome.store

end Script

/-! ## Transactions -/

/-- A script that is run all or nothing. -/
structure Transaction (κ : Type) [Steps κ] where
  /-- The script. -/
  script : Script κ
  /-- Which of the requests to the store below the overlay meet a fault; this may depend on their
  number and on what is asked. -/
  faultOf : Nat → Request → Option StoreFault

namespace Transaction

variable {κ : Type} [Steps κ]

/-- What a transaction comes to. -/
def outcome (transaction : Transaction κ) (store : Store) : Outcome UnreliableStore Unit :=
  transaction.script.transition.execute ⟨store, transaction.faultOf, 0⟩

/-- The store after a transaction. -/
def after (transaction : Transaction κ) (store : Store) : Store :=
  (transaction.outcome store).store.contents

/-- The steps that a transaction takes, whether or not their effects stay. -/
def performed (transaction : Transaction κ) (store : Store) : List (Performed κ) :=
  transaction.script.performed
    (Overlay.ofStore (⟨store, transaction.faultOf, 0⟩ : UnreliableStore))

/-- The transaction is committed. -/
def Commits (transaction : Transaction κ) (store : Store) : Prop :=
  (transaction.outcome store).result = .ok ()

instance (transaction : Transaction κ) (store : Store) : Decidable (transaction.Commits store) :=
  inferInstanceAs (Decidable ((transaction.outcome store).result = .ok ()))

/-- The steps of a transaction whose effects stay. -/
def kept (transaction : Transaction κ) (store : Store) : List (Performed κ) :=
  match (transaction.outcome store).result with
  | .ok () => transaction.performed store
  | .error _ => []

/-- **A transaction is given up and leaves nothing, or it does what its script does on a plain
store.** -/
theorem cases (transaction : Transaction κ) (store : Store) :
    (¬ transaction.Commits store ∧ transaction.kept store = [] ∧ transaction.after store = store) ∨
      transaction.Commits store ∧ (transaction.outcome store).shown =
          transaction.script.transition.run store ∧
        transaction.performed store = transaction.script.performed store ∧
        transaction.kept store = transaction.performed store := by
  have hexecute := execute_contents transaction.script.transition
    (⟨store, transaction.faultOf, 0⟩ : UnreliableStore)
  rw [Commits, kept, after, outcome]
  rcases hexecute with ⟨error, hresult, hstore⟩ | ⟨⟨⟩, hresult, hshown⟩
  · rw [hresult]
    exact .inl ⟨nofun, rfl, hstore⟩
  · have hall := transaction.script.performed_contents (not_faulted_of_execute hresult)
    rw [hresult]
    exact .inr ⟨rfl, hshown, hall, rfl⟩

end Transaction

/-! ## Turns and runs -/

/-- What a host may do in one go: a step of its own, or something made of steps. -/
inductive Move (κ τ : Type) where
  /-- A step, taken directly. -/
  | direct (step : κ)
  /-- Something made of steps, run all or nothing. -/
  | execute (composed : τ)

/-- What a host does in one go on a store that may fail in transactions. -/
abbrev Turn (κ : Type) [Steps κ] := Move κ (Transaction κ)

namespace Turn

variable {κ : Type} [Steps κ]

/-- The store after a turn. -/
def after (store : Store) : Turn κ → Store
  | .direct step => Steps.after step store
  | .execute transaction => transaction.after store

/-- What a turn gives out. -/
def outputs (store : Store) : Turn κ → List Output
  | .direct step => Steps.outputs step store
  | .execute transaction => (transaction.outcome store).outputs

/-- The steps that a turn takes, whether or not their effects stay. -/
def performed (store : Store) : Turn κ → List (Performed κ)
  | .direct step => [Steps.performed step store]
  | .execute transaction => transaction.performed store

/-- The steps of a turn whose effects stay. -/
def kept (store : Store) : Turn κ → List (Performed κ)
  | .direct step => [Steps.performed step store]
  | .execute transaction => transaction.kept store

/-- The turn leaves what it did: it is a step taken directly, or a transaction that is committed. -/
def Commits (store : Store) : Turn κ → Prop
  | .direct _ => True
  | .execute transaction => transaction.Commits store

instance decidableCommits (store : Store) : (turn : Turn κ) → Decidable (turn.Commits store)
  | .direct _ => isTrue trivial
  | .execute transaction => inferInstanceAs (Decidable (transaction.Commits store))

/-- Every step that a turn may take has the property. -/
def All (P : κ → Prop) : Turn κ → Prop
  | .direct step => P step
  | .execute transaction => transaction.script.All P

@[simp] theorem all_direct {P : κ → Prop} {step : κ} :
    Turn.All P (.direct step) ↔ P step := .rfl

@[simp] theorem all_execute {P : κ → Prop} {transaction : Transaction κ} :
    Turn.All P (.execute transaction) ↔ transaction.script.All P := .rfl

/-- The kept steps of a turn lead to the store after it. -/
theorem follows (turn : Turn κ) (store : Store) :
    Follows store (turn.kept store) (turn.after store) := by
  cases turn with
  | direct step => exact .cons step (.nil _)
  | execute transaction =>
    show Follows store (transaction.kept store) (transaction.after store)
    rcases transaction.cases store with ⟨-, hkept, hafter⟩ | ⟨-, hshown, hperformed, hkept⟩
    · rw [hkept, hafter]
      exact .nil store
    · have hstore : transaction.after store = (transaction.script.transition.run store).store :=
        congrArg Outcome.store hshown
      rw [hkept, hperformed, hstore]
      exact transaction.script.follows store

/-- The steps that a turn takes are taken one after the other. -/
theorem exists_follows (turn : Turn κ) (store : Store) :
    ∃ after, Follows store (turn.performed store) after := by
  cases turn with
  | direct step => exact ⟨_, .cons step (.nil _)⟩
  | execute transaction =>
    obtain ⟨later, hlater⟩ := transaction.script.performed_isPrefix
      (Overlay.ofStore (⟨store, transaction.faultOf, 0⟩ : UnreliableStore))
    have hall : Follows store _ _ := transaction.script.follows store
    obtain ⟨after, hfirst, -⟩ := Follows.of_append (hlater.symm ▸ hall)
    exact ⟨after, hfirst⟩

/-- A turn keeps only steps that it took. -/
theorem kept_subset (turn : Turn κ) (store : Store) :
    turn.kept store ⊆ turn.performed store := by
  cases turn with
  | direct step => exact List.Subset.refl _
  | execute transaction =>
    show transaction.kept store ⊆ transaction.performed store
    rcases transaction.cases store with ⟨-, hkept, -⟩ | ⟨-, -, -, hkept⟩
    · rw [hkept]
      exact List.nil_subset _
    · rw [hkept]
      exact List.Subset.refl _

/-- A turn that leaves what it did keeps all that it took. -/
theorem kept_of_commits {turn : Turn κ} {store : Store} (h : turn.Commits store) :
    turn.kept store = turn.performed store := by
  cases turn with
  | direct step => rfl
  | execute transaction =>
    rcases transaction.cases store with ⟨hnot, -⟩ | ⟨-, -, -, hkept⟩
    · exact absurd h hnot
    · exact hkept

/-- A turn that does not leave what it did leaves the store alone. -/
theorem after_of_not_commits {turn : Turn κ} {store : Store} (h : ¬ turn.Commits store) :
    turn.after store = store := by
  cases turn with
  | direct step => exact absurd trivial h
  | execute transaction =>
    rcases transaction.cases store with ⟨-, -, hafter⟩ | ⟨hcommits, -⟩
    · exact hafter
    · exact absurd hcommits h

/-- A turn that leaves what it did gives out what its steps give out. -/
theorem outputs_of_commits {turn : Turn κ} {store : Store} (h : turn.Commits store) :
    turn.outputs store = (turn.kept store).flatMap Performed.outputs := by
  rw [kept_of_commits h]
  cases turn with
  | direct step => exact (List.append_nil _).symm
  | execute transaction =>
    rcases transaction.cases store with ⟨hnot, -⟩ | ⟨-, hshown, hperformed, -⟩
    · exact absurd h hnot
    · show (transaction.outcome store).outputs = (transaction.performed store).flatMap _
      rw [hperformed, ← transaction.script.outputs_transition, ← hshown]
      rfl

/-- All that a turn takes are steps that it may take. -/
theorem All.performed {P : κ → Prop} {turn : Turn κ} (h : turn.All P) (store : Store) :
    ∀ one ∈ turn.performed store, P one.step := by
  cases turn with
  | direct step => exact List.forall_mem_singleton.2 h
  | execute transaction => exact Script.All.performed h _

theorem All.kept {P : κ → Prop} {turn : Turn κ} (h : turn.All P) (store : Store) :
    ∀ one ∈ turn.kept store, P one.step :=
  fun one hone => h.performed store one (turn.kept_subset store hone)

end Turn

/-- A finite sequence of turns. -/
abbrev Run (κ : Type) [Steps κ] := List (Turn κ)

namespace Run

variable {κ : Type} [Steps κ]

/-- The store after turns on a store. -/
def afterFrom (store : Store) (run : Run κ) : Store :=
  run.foldl (fun store turn => turn.after store) store

/-- The store after turns on a store that was empty. -/
def after (run : Run κ) : Store := afterFrom .empty run

/-- A run of transactions. -/
def ofTransactions (transactions : List (Transaction κ)) : Run κ := transactions.map .execute

theorem afterFrom_append (store : Store) (past later : Run κ) :
    afterFrom store (past ++ later) = afterFrom (afterFrom store past) later :=
  List.foldl_append ..

/-- The steps of turns on a store whose effects stay. -/
def keptFrom : Store → Run κ → List (Performed κ)
  | _, [] => []
  | store, turn :: rest => turn.kept store ++ keptFrom (turn.after store) rest

/-- The steps of a run whose effects stay. -/
def kept (run : Run κ) : List (Performed κ) := keptFrom .empty run

/-- What turns on a store give out. -/
def outputsFrom : Store → Run κ → List Output
  | _, [] => []
  | store, turn :: rest => turn.outputs store ++ outputsFrom (turn.after store) rest

/-- What a run gives out. -/
def outputs (run : Run κ) : List Output := outputsFrom .empty run

/-- Every turn leaves what it did. -/
def CommitsFrom : Store → Run κ → Prop
  | _, [] => True
  | store, turn :: rest => turn.Commits store ∧ CommitsFrom (turn.after store) rest

instance decidableCommitsFrom : (store : Store) → (run : Run κ) →
    Decidable (CommitsFrom store run)
  | _, [] => isTrue trivial
  | store, turn :: rest =>
    have := decidableCommitsFrom (turn.after store) rest
    inferInstanceAs (Decidable (turn.Commits store ∧ CommitsFrom (turn.after store) rest))

/-- No transaction of the run is given up. -/
def Commits (run : Run κ) : Prop := CommitsFrom .empty run

instance (run : Run κ) : Decidable run.Commits :=
  inferInstanceAs (Decidable (CommitsFrom .empty run))

theorem follows_from (store : Store) (run : Run κ) :
    Follows store (keptFrom store run) (afterFrom store run) := by
  induction run generalizing store with
  | nil => exact .nil store
  | cons turn rest ih => exact (turn.follows store).append (ih _)

/-- **The kept steps of a run lead to the store after it.** -/
theorem follows (run : Run κ) : Follows .empty run.kept run.after := follows_from .empty run

theorem outputsFrom_of_commits {store : Store} {run : Run κ} (h : CommitsFrom store run) :
    outputsFrom store run = (keptFrom store run).flatMap Performed.outputs := by
  induction run generalizing store with
  | nil => rfl
  | cons turn rest ih =>
    rw [outputsFrom, keptFrom, List.flatMap_append, Turn.outputs_of_commits h.1, ih h.2]

/-- **A run of which nothing is given up gives out what its steps give out.** -/
theorem outputs_of_commits {run : Run κ} (h : run.Commits) :
    run.outputs = run.kept.flatMap Performed.outputs := outputsFrom_of_commits h

/-- What holds of all that the turns of a run keep, on whatever stores, holds of all that it
keeps. -/
theorem forall_keptFrom {P : Performed κ → Prop} {run : Run κ}
    (h : ∀ turn ∈ run, ∀ store, ∀ one ∈ turn.kept store, P one) (store : Store) :
    ∀ one ∈ keptFrom store run, P one := by
  induction run generalizing store with
  | nil => exact List.forall_mem_nil _
  | cons turn rest ih =>
    obtain ⟨hturn, hrest⟩ := List.forall_mem_cons.1 h
    exact List.forall_mem_append.2 ⟨hturn store, ih hrest _⟩

end Run
end SharedSecurity
