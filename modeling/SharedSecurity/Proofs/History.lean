import Mathlib.Data.List.Induction
import SharedSecurity.Proofs.Runs
import SharedSecurity.Proofs.Typed

/-!
# What hosts do with a provider

A host drives a provider by operations: a `Call` is a step, which it takes directly or in a
transaction.  Statements about all runs of calls are statements about `History`, a bare list of
calls made directly one after the other on a plain store.

* `Run.committed` — the calls of a run whose effects have stayed: the direct ones, and those of the
  transactions that were committed.
* `Run.after_eq` — **the store after a run is the store after its committed calls**, made directly.
* `Call.get?_after`, `History.get?_afterFrom` — calls change only keys that their operations may
  write.
* `History.Short`, `History.induction` — histories whose values fit in memory, and induction over a
  history, call by call.
-/

set_option autoImplicit false
namespace SharedSecurity

open Transition

/-! ## Calls -/

/-- An operation asked of a provider. -/
structure Call where
  /-- The provider. -/
  service : Service
  /-- What is asked of it. -/
  operation : Operation

namespace Call

/-- The work of a call. -/
def transition (call : Call) : Transition call.operation.Answer :=
  call.service.perform call.operation

/-- The store after a call made directly. -/
def after (call : Call) (store : Store) : Store := (call.transition.run store).store

/-- **The frame of a call.**  It changes only keys that its operation may write. -/
theorem get?_after (call : Call) {key : Key} (hkey : ¬ call.operation.footprint key)
    (store : Store) : (call.after store).get? key.bytes = store.get? key.bytes :=
  get?_run (call.service.perform_within call.operation) hkey store

theorem record?_after (call : Call) {key : Key} (hkey : ¬ call.operation.footprint key)
    (store : Store) : (call.after store).record? key = store.record? key :=
  Store.record?_congr (call.get?_after hkey store)

end Call

/-- Calls made directly, one after the other. -/
abbrev History := List Call

namespace History

/-- The store after calls on a store. -/
def afterFrom (store : Store) (history : History) : Store :=
  history.foldl (fun store call => call.after store) store

/-- The store after calls on a store that was empty. -/
def after (history : History) : Store := afterFrom .empty history

theorem after_snoc (past : History) (call : Call) :
    after (past ++ [call]) = call.after (after past) := by
  rw [after, afterFrom, List.foldl_append]
  rfl

theorem afterFrom_append (store : Store) (past later : History) :
    afterFrom store (past ++ later) = afterFrom (afterFrom store past) later :=
  List.foldl_append ..

/-- Calls change only keys that one of their operations may write. -/
theorem get?_afterFrom {calls : History} {key : Key}
    (hkey : ∀ call ∈ calls, ¬ call.operation.footprint key) (store : Store) :
    (afterFrom store calls).get? key.bytes = store.get? key.bytes := by
  induction calls generalizing store with
  | nil => rfl
  | cons call rest ih =>
    obtain ⟨hcall, hrest⟩ := List.forall_mem_cons.1 hkey
    exact (ih hrest (call.after store)).trans (call.get?_after hcall store)

/-- Every value that the calls on a store write has a length that fits in a word. -/
def ShortFrom : Store → History → Prop
  | _, [] => True
  | store, call :: rest => call.transition.Short store ∧ ShortFrom (call.after store) rest

instance decidableShortFrom : (store : Store) → (history : History) →
    Decidable (ShortFrom store history)
  | _, [] => isTrue trivial
  | store, call :: rest =>
    have := decidableShortFrom (call.after store) rest
    inferInstanceAs (Decidable (call.transition.Short store ∧ ShortFrom (call.after store) rest))

/-- Every value that a history writes has a length that fits in a word. -/
def Short (history : History) : Prop := ShortFrom .empty history

instance (history : History) : Decidable history.Short :=
  inferInstanceAs (Decidable (ShortFrom .empty history))

theorem shortFrom_append {store : Store} {past later : History} :
    ShortFrom store (past ++ later) ↔
      ShortFrom store past ∧ ShortFrom (afterFrom store past) later := by
  induction past generalizing store with
  | nil => exact (and_iff_right trivial).symm
  | cons call rest ih =>
    rw [List.cons_append, ShortFrom, ShortFrom, ih, and_assoc]
    rfl

theorem Short.of_append {past later : History} (h : Short (past ++ later)) : past.Short :=
  (shortFrom_append.1 h).1

theorem short_snoc {past : History} {call : Call} :
    Short (past ++ [call]) ↔ past.Short ∧ call.transition.Short (after past) := by
  rw [Short, shortFrom_append]
  exact and_congr_right fun _ => and_iff_left trivial

/-- **Induction over a history**, by its last call. -/
theorem induction {I : History → Prop} (history : History) (nil : I [])
    (snoc : ∀ past call, I past → I (past ++ [call])) : I history :=
  List.reverseRecOn history nil snoc

/-- A short history leaves a well-formed store. -/
theorem wellFormed_after {history : History} (h : history.Short) : (after history).WellFormed := by
  induction history using induction with
  | nil => exact Store.wellFormed_empty
  | snoc past call ih =>
    obtain ⟨hpast, hcall⟩ := short_snoc.1 h
    rw [after_snoc]
    exact wellFormed_run (call.service.perform_within call.operation) hcall (ih hpast)

/-- Any history at all leaves a typed store. -/
theorem typed_after (history : History) : (after history).Typed := by
  induction history using induction with
  | nil => exact Store.typed_empty
  | snoc past call ih =>
    rw [after_snoc]
    exact typed_run (call.service.perform_within call.operation) ih

end History

/-! ## Runs of calls -/

instance : Steps Call where
  Answer call := call.operation.Answer
  transition := Call.transition

/-- Calls that were made one after the other leave what they leave as a history. -/
theorem Follows.after_eq {before after : Store} {performed : List (Performed Call)}
    (h : Follows before performed after) :
    after = History.afterFrom before (performed.map Performed.step) := by
  induction h with
  | nil => rfl
  | cons call _ ih => exact ih

namespace Turn

/-- The calls that a turn makes on a store, whether or not their effects stay.  A transaction that
meets a fault makes no call after that. -/
def made (store : Store) (turn : Turn Call) : History := (turn.performed store).map Performed.step

/-- The calls of a turn whose effects stay. -/
def committed (store : Store) (turn : Turn Call) : History := (turn.kept store).map Performed.step

/-- The effect of a turn is the effect of its committed calls. -/
theorem after_eq (turn : Turn Call) (store : Store) :
    turn.after store = History.afterFrom store (turn.committed store) :=
  (turn.follows store).after_eq

end Turn

namespace Run

/-- The calls of a run whose effects stay. -/
def committed (run : Run Call) : History := run.kept.map Performed.step

/-- **The store after a run is the store after its committed calls**, made directly one after the
other. -/
theorem after_eq (run : Run Call) : run.after = run.committed.after := run.follows.after_eq

/-- The committed calls of a run are among those that its turns may make. -/
theorem forall_committed {P : Call → Prop} {run : Run Call} (h : ∀ turn ∈ run, turn.All P) :
    ∀ call ∈ run.committed, P call :=
  List.forall_mem_map.2 (forall_keptFrom (fun turn hturn => (h turn hturn).kept) .empty)

/-- The committed calls of a run that asks only one provider are known from their operations. -/
theorem committed_eq_of_operations {service : Service} {run : Run Call}
    {operations : List Operation} (h : ∀ turn ∈ run, turn.All fun call => call.service = service)
    (hoperations : run.committed.map Call.operation = operations) :
    run.committed = operations.map (Call.mk service) := by
  have hsame : ∀ call ∈ run.committed, Call.mk service call.operation = id call := fun call hcall =>
    congrArg (Call.mk · call.operation) (forall_committed h call hcall).symm
  rw [← hoperations, List.map_map]
  exact ((List.map_congr_left hsame).trans (List.map_id _)).symm

end Run
end SharedSecurity
