import SharedSecurity.Event
import SharedSecurity.Metrics

/-!
# Transitions

A `Transition α` is one piece of the provider's work, as a tree: it asks the store, goes on with
the answer, gives out reports on the way, and ends with a value or an error.  What store is asked
is left open, so a law about all transitions over all stores is one induction over the tree.  A
transition cannot go on without an answer: a fault of the store is the end of it.

* `Output` — what a transition gives out: events for the log, measurements, and requests to close a
  channel.
* `Transition.get?`, `Transition.scan`, `Transition.put`, … — the single steps.
* `Transition.run` — runs a transition on a store; `run_bind` says that a sequence runs its parts
  one after the other.  Writes made before an error stay.
-/

set_option autoImplicit false
namespace SharedSecurity

/-- What a transition gives out. -/
inductive Output where
  /-- An event for the log. -/
  | log (event : Event)
  /-- A measurement for the metrics. -/
  | measure (measurement : Measurement)
  /-- A request to close a channel on a port. -/
  | close (port : PortId) (channel : ChannelId)

namespace Output

/-- The events of a list of outputs. -/
def events (outputs : List Output) : List Event :=
  outputs.filterMap fun
    | log event => some event
    | _ => none

/-- The measurements of a list of outputs. -/
def measurements (outputs : List Output) : List Measurement :=
  outputs.filterMap fun
    | measure measurement => some measurement
    | _ => none

/-- The close requests of a list of outputs. -/
def closeRequests (outputs : List Output) : List (PortId × ChannelId) :=
  outputs.filterMap fun
    | close port channel => some (port, channel)
    | _ => none

end Output

/-- A piece of the provider's work. -/
inductive Transition (α : Type) : Type where
  /-- Ends with a value or an error. -/
  | done (result : Except ProviderError α)
  /-- Asks the store and goes on with its answer. -/
  | ask (request : Request) (next : request.Answer → Transition α)
  /-- Gives something out and goes on. -/
  | emit (output : Output) (next : Transition α)

namespace Transition

variable {α β σ : Type}

/-! ## Sequence -/

/-- Goes on with the value of a transition, if it ends with one. -/
def bind : Transition α → (α → Transition β) → Transition β
  | done (.ok value), next => next value
  | done (.error error), _ => done (.error error)
  | ask request rest, next => ask request fun answer => (rest answer).bind next
  | emit output rest, next => emit output (rest.bind next)

instance : Monad Transition where
  pure value := done (.ok value)
  bind := bind

theorem bind_eq (t : Transition α) (next : α → Transition β) : t >>= next = t.bind next := rfl

theorem bind_done (t : Transition α) : t.bind (fun value => done (.ok value)) = t := by
  induction t with
  | done result => cases result <;> rfl
  | ask request rest ih => exact congrArg (ask request) (funext ih)
  | emit output rest ih => exact congrArg (emit output) ih

theorem bind_bind {γ : Type} (t : Transition α) (f : α → Transition β) (g : β → Transition γ) :
    (t.bind f).bind g = t.bind fun value => (f value).bind g := by
  induction t with
  | done result => cases result <;> rfl
  | ask request rest ih => exact congrArg (ask request) (funext ih)
  | emit output rest ih => exact congrArg (emit output) ih

instance : LawfulMonad Transition :=
  LawfulMonad.mk' Transition bind_done (fun _ _ => rfl) bind_bind

/-! ## Single steps -/

/-- Ends with an error. -/
def fail (error : ProviderError) : Transition α := done (.error error)

/-- Ends with a result that is known. -/
def ofExcept (result : Except ProviderError α) : Transition α := done result

/-- Asks the store and ends with its answer. -/
def request (question : Request) : Transition question.Answer :=
  ask question fun answer => done (.ok answer)

/-- The value under a key. -/
def get? (key : Bytes) : Transition (Option Bytes) := request (.get key)

/-- Whether there is a value under a key. -/
def contains (key : Bytes) : Transition Bool := do
  let value ← get? key
  pure value.isSome

/-- The entries under a stem, in key order. -/
def scan (stem : Bytes) : Transition (List (Bytes × Bytes)) := request (.scan stem)

/-- Holds a value under a key. -/
def put (key value : Bytes) : Transition Unit := request (.write (.put key value))

/-- Holds nothing under a key. -/
def delete (key : Bytes) : Transition Unit := request (.write (.delete key))

/-- Makes several writes, all or none. -/
def batch (changes : List Write) : Transition Unit := request (.batch changes)

/-- Gives something out. -/
def give (output : Output) : Transition Unit := emit output (done (.ok ()))

/-- Reports an event. -/
def report (event : Event) : Transition Unit := give (.log event)

/-- Reports a measurement. -/
def measure (measurement : Measurement) : Transition Unit := give (.measure measurement)

/-! ## Running -/

/-- What a run comes to: a value or an error, the store after it, and what was given out, in
order. -/
structure Outcome (σ α : Type) where
  /-- The value or error. -/
  result : Except ProviderError α
  /-- The store after the run. -/
  store : σ
  /-- What was given out. -/
  outputs : List Output

/-- The outcome with something given out before all else. -/
def Outcome.prepend (outputs : List Output) (outcome : Outcome σ α) : Outcome σ α :=
  { outcome with outputs := outputs ++ outcome.outputs }

/-- The outcome of going on with the value of another, if there is one. -/
def Outcome.andThen (outcome : Outcome σ α) (next : α → σ → Outcome σ β) : Outcome σ β :=
  match outcome.result with
  | .ok value => (next value outcome.store).prepend outcome.outputs
  | .error error => ⟨.error error, outcome.store, outcome.outputs⟩

/-- Runs a transition on a store.  A fault of the store is its error. -/
def run [KeyValueStore σ] : Transition α → σ → Outcome σ α
  | done result, store => ⟨result, store, []⟩
  | ask question next, store =>
    match KeyValueStore.answer question store with
    | (.ok answer, after) => (next answer).run after
    | (.error fault, after) => ⟨.error (.store fault), after, []⟩
  | emit output next, store => (next.run store).prepend [output]

theorem Outcome.prepend_nil (outcome : Outcome σ α) : outcome.prepend [] = outcome := rfl

theorem Outcome.prepend_andThen (outputs : List Output) (outcome : Outcome σ α)
    (next : α → σ → Outcome σ β) :
    (outcome.prepend outputs).andThen next = (outcome.andThen next).prepend outputs := by
  obtain ⟨result, store, given⟩ := outcome
  cases result <;> simp [Outcome.prepend, Outcome.andThen, List.append_assoc]

/-- A sequence of transitions runs one after the other. -/
theorem run_bind [KeyValueStore σ] (t : Transition α) (next : α → Transition β) (store : σ) :
    (t >>= next).run store = (t.run store).andThen fun value after => (next value).run after := by
  rw [bind_eq]
  induction t generalizing store with
  | done result => cases result <;> rfl
  | ask question rest ih =>
    simp only [bind, run]
    cases KeyValueStore.answer question store with
    | mk answer after => cases answer with
      | ok answer => exact ih answer after
      | error fault => rfl
  | emit output rest ih => simp only [bind, run, ih, Outcome.prepend_andThen]

end Transition
end SharedSecurity
