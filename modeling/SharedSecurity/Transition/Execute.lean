import SharedSecurity.Store.Overlay
import SharedSecurity.Transition

/-!
# All or nothing

`Transition.execute` runs a transition on an overlay of a store.  If it ends with a value, its
writes reach the store by one batch; if it ends with an error, none does, the rejection is counted
under the class of the error and reported.  The batch itself may fail, and then none of the writes
is made either.

`Outcome.settle` is the second half, for work that was done on the overlay step by step.
-/

set_option autoImplicit false
namespace SharedSecurity
namespace Transition

variable {α σ : Type}

/-- What is given out when a transition is given up. -/
def rejectionOutputs (error : ProviderError) : List Output :=
  [.measure (.rejection error.errorClass.label), .log (.transitionGivenUp error)]

/-- Ends the work on an overlay: commits its writes after a value, drops them after an error. -/
def Outcome.settle [KeyValueStore σ] (outcome : Outcome (Overlay σ) α) : Outcome σ α :=
  match outcome.result with
  | .ok value =>
    match outcome.store.commit with
    | (.ok (), store) => ⟨.ok value, store, outcome.outputs⟩
    | (.error fault, store) => ⟨.error (.store fault), store, outcome.outputs⟩
  | .error error =>
    ⟨.error error, outcome.store.backing, outcome.outputs ++ rejectionOutputs error⟩

/-- Runs a transition on an overlay of a store, all or nothing. -/
def execute [KeyValueStore σ] (transition : Transition α) (store : σ) : Outcome σ α :=
  (transition.run (Overlay.ofStore store)).settle

end Transition
end SharedSecurity
