import SharedSecurity.Proofs.BestEffort
import SharedSecurity.Proofs.Counters

/-!
# What is counted of rejections

A transition that is run all or nothing can fail at two points.  The script may end with an error,
and then the error is counted under its class.  Or the script succeeds and the store does not take
its writes; the host is told the fault, and nothing is counted.

* `Host.Measured` — the metrics that can come about, from steps on whatever stores.
* `Host.Measured.byClass` — in them rejections are known under the names of classes only.  No two of
  these have the same hash, so a class is counted under its own name.
* `Host.RejectionCount`, `Host.rejectionCount` — **what a step adds to the rejections**, on any
  store.
* `Host.commit_fault_not_counted` — a store that fails at the second point.
-/

set_option autoImplicit false
namespace SharedSecurity

open Transition

/-! ## Labels of classes -/

/-- The hash of a label tells the classes apart. -/
theorem ErrorClass.eq_of_labelHash_eq {a b : ErrorClass}
    (h : Metrics.labelHash a.label = Metrics.labelHash b.label) : a = b := by
  revert h
  cases a <;> cases b <;> decide +kernel

namespace Metrics

variable {metrics : Metrics}

/-- How often a rejection was counted under a label. -/
def rejected (metrics : Metrics) (label : String) : UInt64 :=
  (metrics.rejections.get? label).getD 0

/-- Rejections are known under the names of classes only. -/
def ByClass (metrics : Metrics) : Prop :=
  ∀ label ∈ metrics.rejections.keys, ∃ known : ErrorClass, label = known.label

theorem ByClass.countedUnder (h : metrics.ByClass) (counted : ErrorClass) :
    countedUnder metrics.rejections counted.label = counted.label := by
  rw [Metrics.countedUnder]
  cases hfound : metrics.rejections.keys.find? fun known =>
      labelHash known == labelHash counted.label with
  | none => rfl
  | some known =>
    obtain ⟨other, rfl⟩ := h known (List.mem_of_find?_eq_some hfound)
    have hhash : labelHash other.label = labelHash counted.label :=
      beq_iff_eq.1 (List.find?_some hfound :)
    rw [ErrorClass.eq_of_labelHash_eq hhash, Option.getD_some]

/-- **A rejection is counted once, under its class.** -/
theorem ByClass.get?_bump (h : metrics.ByClass) (counted : ErrorClass) (label : String) :
    (bump metrics.rejections counted.label).get? label =
      if label = counted.label then some (metrics.rejected counted.label + 1)
      else metrics.rejections.get? label := by
  rw [bump, h.countedUnder, SortedMap.get?_insert]
  rfl

theorem ByClass.bump (h : metrics.ByClass) (counted : ErrorClass) :
    (metrics.record (.rejection counted.label)).ByClass := by
  intro label hlabel
  rcases (mem_keys_bump metrics.rejections counted.label).1 hlabel with hnew | hknown
  · exact ⟨counted, hnew.trans (h.countedUnder counted)⟩
  · exact h label hknown

/-- Measurements of other kinds leave the rejections alone. -/
theorem rejections_recordAll {measurements : List Measurement}
    (h : ∀ label, .rejection label ∉ measurements) (metrics : Metrics) :
    (metrics.recordAll measurements).rejections = metrics.rejections := by
  refine kept_recordAll rejections (fun measurement hmem _ => ?_) metrics
  cases measurement with
  | rejection label => exact absurd hmem (h label)
  | _ => rfl

end Metrics

/-! ## Calls count no rejection -/

/-- No operation counts a rejection. -/
theorem Call.rejection_not_mem {σ : Type} [KeyValueStore σ] (call : Call) (store : σ)
    (label : String) :
    .rejection label ∉ Output.measurements (call.transition.run store).outputs := by
  intro hmem
  have hgiven := of_mem_measurements (call.service.perform_gives call.operation) hmem
  revert hgiven
  cases call.operation <;> simp [Operation.mayGive]

/-- Nor does a script, until it is given up. -/
theorem Script.rejection_not_mem {σ : Type} [KeyValueStore σ] (script : Script Call) (store : σ)
    (label : String) : .rejection label ∉ Output.measurements (script.play store).outputs := by
  induction script generalizing store with
  | stop result => exact List.not_mem_nil
  | make call next ih =>
    rw [play, Outcome.prepend, Output.measurements_append, List.mem_append, not_or]
    exact ⟨call.rejection_not_mem store label, ih _ _⟩

/-! ## Steps -/

namespace Host

variable {σ : Type} [KeyValueStore σ]

/-- The metrics after a step. -/
def Step.measured (step : Step) (metrics : Metrics) (store : σ) : Metrics :=
  metrics.recordAll (Output.measurements (step.outcome store).outputs)

/-- The metrics that can come about: from steps of whatever providers on whatever stores, and from
measurements of other kinds. -/
inductive Measured : Metrics → Prop where
  /-- Nothing has been measured. -/
  | none : Measured {}
  /-- A step is made. -/
  | step {σ : Type} [KeyValueStore σ] {metrics : Metrics} (h : Measured metrics) (step : Step)
    (store : σ) : Measured (step.measured metrics store)
  /-- Something else is measured. -/
  | other {metrics : Metrics} (h : Measured metrics) {measurement : Measurement}
    (hother : ∀ label, measurement ≠ .rejection label) : Measured (metrics.record measurement)

/-- What becomes of the counts of rejections in a step: by what its script came to on the overlay,
and by what the step came to after the commit. -/
structure RejectionCount (metrics : Metrics) (store : σ) (script : Script Call) : Prop where
  /-- A script that ends with an error is given up with this error, which is counted once under its
  class; all other samples are as they were. -/
  counted : ∀ error, (script.play (Overlay.ofStore store)).result = .error error →
    (Step.outcome store (.execute script)).result = .error error ∧
      ∀ label, (Step.measured (.execute script) metrics store).rejections.get? label =
        if label = error.errorClass.label then some (metrics.rejected label + 1)
        else metrics.rejections.get? label
  /-- Success changes no sample. -/
  succeeded : (Step.outcome store (.execute script)).result = .ok () →
    (Step.measured (.execute script) metrics store).rejections = metrics.rejections
  /-- What a script that succeeds is given up with is the fault of its commit; it changes no sample
  either. -/
  faulted : ∀ error, (script.play (Overlay.ofStore store)).result = .ok () →
    (Step.outcome store (.execute script)).result = .error error →
      (∃ fault, error = .store fault ∧
        (script.play (Overlay.ofStore store)).store.commit.1 = .error fault) ∧
      (Step.measured (.execute script) metrics store).rejections = metrics.rejections

/-- Work that succeeds on the overlay gives out nothing more, whether or not its commit succeeds. -/
theorem outputs_settle_of_ok {α : Type} {outcome : Outcome (Overlay σ) α} {value : α}
    (h : outcome.result = .ok value) : outcome.settle.outputs = outcome.outputs := by
  rw [Outcome.settle, h]
  rcases outcome.store.commit with ⟨fault | done, after⟩ <;> rfl

/-- Work that succeeds on the overlay fails only with the fault of its commit. -/
theorem fault_of_settle {α : Type} {outcome : Outcome (Overlay σ) α} {value : α}
    (h : outcome.result = .ok value) {error : ProviderError}
    (herror : outcome.settle.result = .error error) :
    ∃ fault, error = .store fault ∧ outcome.store.commit.1 = .error fault := by
  rw [Outcome.settle, h] at herror
  rcases hcommit : outcome.store.commit with ⟨fault | done, after⟩
  · rw [hcommit] at herror
    exact ⟨fault, (Except.error.inj herror).symm, rfl⟩
  · rw [hcommit] at herror
    cases herror

/-- A step whose script succeeds changes no sample. -/
theorem rejections_of_ok {script : Script Call} {store : σ}
    (h : (script.play (Overlay.ofStore store)).result = .ok ()) (metrics : Metrics) :
    (Step.measured (.execute script) metrics store).rejections = metrics.rejections := by
  rw [Step.measured, Step.outcome, outputs_settle_of_ok h]
  exact Metrics.rejections_recordAll (script.rejection_not_mem _) metrics

/-- A step whose script ends with an error counts it. -/
theorem rejections_of_error {script : Script Call} {store : σ} {error : ProviderError}
    (h : (script.play (Overlay.ofStore store)).result = .error error) (metrics : Metrics) :
    (Step.measured (.execute script) metrics store).rejections =
      Metrics.bump metrics.rejections error.errorClass.label := by
  have hquiet := Metrics.rejections_recordAll
    (script.rejection_not_mem (Overlay.ofStore store)) metrics
  rw [Step.measured, Step.outcome, Outcome.settle, h]
  simp only [Output.measurements_append]
  rw [Metrics.recordAll_append, ← hquiet]
  rfl

/-- **Rejections are known by class** in all metrics that can come about. -/
theorem Measured.byClass {metrics : Metrics} (h : Measured metrics) : metrics.ByClass := by
  induction h with
  | none => exact List.forall_mem_nil _
  | @other metrics _ measurement hother ih =>
    have hnone : ∀ label, .rejection label ∉ [measurement] :=
      fun label hmem => hother label (List.mem_singleton.1 hmem).symm
    intro label hlabel
    exact ih label (Metrics.rejections_recordAll hnone metrics ▸ hlabel)
  | @step σ _ metrics _ step store ih =>
    cases step with
    | direct call =>
      have hsame := Metrics.rejections_recordAll (call.rejection_not_mem store) metrics
      intro label hlabel
      exact ih label (hsame ▸ hlabel)
    | execute script =>
      cases hresult : (script.play (Overlay.ofStore store)).result with
      | ok done =>
        intro label hlabel
        rw [rejections_of_ok hresult] at hlabel
        exact ih label hlabel
      | error error =>
        intro label hlabel
        rw [rejections_of_error hresult] at hlabel
        exact ih.bump error.errorClass label hlabel

/-- **What a step adds to the rejections.**  For all metrics that can come about, on any store,
whatever of its requests may fail, and for any script of calls: an error of the script is counted
once, under its class and no other, and success and a failed commit are not counted. -/
theorem rejectionCount {metrics : Metrics} (h : Measured metrics) (store : σ)
    (script : Script Call) : RejectionCount metrics store script where
  counted error herror := by
    refine ⟨?_, fun label => ?_⟩
    · rw [Step.outcome, Outcome.settle, herror]
    · rw [rejections_of_error herror, h.byClass.get?_bump]
      split
      · next hlabel => rw [hlabel]
      · rfl
  succeeded hok := by
    cases hresult : (script.play (Overlay.ofStore store)).result with
    | ok done => exact rejections_of_ok hresult metrics
    | error error =>
      rw [Step.outcome, Outcome.settle, hresult] at hok
      cases hok
  faulted error hresult herror := ⟨fault_of_settle hresult herror, rejections_of_ok hresult metrics⟩

/-- A handshake begins and begins once more, in one transaction. -/
def begunTwice : Script Call :=
  .make ⟨Registry.racedProvider, .openInit ⟨"ch-0"⟩⟩ fun _ =>
    .make ⟨Registry.racedProvider, .openInit ⟨"ch-0"⟩⟩ fun result => .stop result

/-- The second start is refused, which is counted once. -/
theorem rejectionCount_begunTwice :
    Measured {} ∧ RejectionCount {} (.empty : Store) begunTwice ∧
      (Step.measured (.execute begunTwice) {} (.empty : Store)).rejected "validation" = 1 :=
  ⟨.none, rejectionCount .none (.empty : Store) begunTwice, by decide +kernel⟩

/-- A consumer is approved, and the store does not take the write.  The host is told so, and no
rejection is counted. -/
theorem commit_fault_not_counted :
    let fault : StoreFault := .io "disk full"
    let store := FaultTable.store [((.put, (Key.clientOf ⟨"foo"⟩).bytes), fault)] .empty
    let step : Step := .execute (.make ⟨Registry.racedProvider,
      .registerConsumer ⟨⟨"foo"⟩, ⟨"client-0"⟩, []⟩⟩ fun result => .stop result)
    (step.outcome store).result = .error (.store fault) ∧
      (ProviderError.store fault).errorClass.label = "storage" ∧
      (step.measured {} store).rejected "storage" = 0 := by
  decide +kernel

end Host
end SharedSecurity
