import SharedSecurity.Proofs.Outputs

/-!
# Closing is best-effort

What becomes of a close request, and whether one can be made at all, is up to the transport: the
provider asks once, reports a refusal, and goes on.  So two providers that differ only in that do the
same on any store whatever, be it damaged or failing.

* `Transition.core` — a transition without reports and close requests, and
  `Transition.observed_core`: running it shows what running the whole transition does.
* `Service.Alike.core_perform` — **the operations of providers that are alike have one core.**
* `Host.Step` — what a host does on a store of which nothing is known.  Nothing is made of faults: a
  script is told of them like of any other result.
* `Host.bestEffort` — **runs on providers that are alike are the same** in results, store and metrics
  after every step, and in each the close requests are exactly those that are due.
-/

set_option autoImplicit false
namespace SharedSecurity

open Transition

/-! ## The core of a transition -/

namespace Transition

variable {α β σ : Type}

/-- The transition without what it gives out besides measurements. -/
def core : Transition α → Transition α
  | done result => done result
  | ask question next => ask question fun answer => (next answer).core
  | emit (.log _) next => next.core
  | emit (.measure measurement) next => emit (.measure measurement) next.core
  | emit (.close _ _) next => next.core

theorem core_bind (t : Transition α) (next : α → Transition β) :
    (t >>= next).core = t.core >>= fun value => (next value).core := by
  simp only [bind_eq]
  induction t with
  | done result => cases result <;> rfl
  | ask question rest ih => exact congrArg (ask question) (funext ih)
  | emit output rest ih =>
    cases output with
    | log event => exact ih
    | measure measurement => exact congrArg (emit (.measure measurement)) ih
    | close port channel => exact ih

/-- What of a run concerns the provider's state: the result, the store and the measurements. -/
def Outcome.observed (outcome : Outcome σ α) : Except ProviderError α × σ × List Measurement :=
  (outcome.result, outcome.store, Output.measurements outcome.outputs)

theorem Outcome.observed_eq_iff {outcome other : Outcome σ α} :
    outcome.observed = other.observed ↔ outcome.result = other.result ∧ outcome.store = other.store ∧
      Output.measurements outcome.outputs = Output.measurements other.outputs := by
  simp only [observed, Prod.mk.injEq]

theorem Outcome.observed_prepend {outcome other : Outcome σ α} {outputs others : List Output}
    (h : outcome.observed = other.observed)
    (houtputs : Output.measurements outputs = Output.measurements others) :
    (outcome.prepend outputs).observed = (other.prepend others).observed := by
  obtain ⟨hresult, hstore, hmeasurements⟩ := observed_eq_iff.1 h
  refine observed_eq_iff.2 ⟨hresult, hstore, ?_⟩
  simp only [prepend, Output.measurements_append, houtputs, hmeasurements]

/-- **A core shows what the whole transition does.** -/
theorem observed_core [KeyValueStore σ] (t : Transition α) (store : σ) :
    (t.core.run store).observed = (t.run store).observed := by
  induction t generalizing store with
  | done result => rfl
  | ask question rest ih =>
    simp only [core, run]
    rcases KeyValueStore.answer question store with ⟨fault | answer, after⟩
    · rfl
    · exact ih answer after
  | emit output rest ih =>
    have hrest := ih store
    cases output with
    | log event => exact hrest
    | measure measurement => exact Outcome.observed_prepend hrest rfl
    | close port channel => exact hrest

theorem observed_eq_of_core_eq [KeyValueStore σ] {t u : Transition α} (h : t.core = u.core)
    (store : σ) : (t.run store).observed = (u.run store).observed := by
  rw [← observed_core, h, observed_core]

/-- Transactions that look the same look the same when they are committed or given up. -/
theorem Outcome.observed_settle [KeyValueStore σ] {outcome other : Outcome (Overlay σ) α}
    (h : outcome.observed = other.observed) :
    outcome.settle.observed = other.settle.observed := by
  obtain ⟨hresult, hstore, hmeasurements⟩ := observed_eq_iff.1 h
  rw [settle, settle, ← hresult, ← hstore]
  cases outcome.result with
  | error error =>
    refine observed_eq_iff.2 ⟨rfl, rfl, ?_⟩
    simp only [Output.measurements_append, hmeasurements]
  | ok value =>
    rcases outcome.store.commit with ⟨fault | answer, after⟩ <;>
      exact observed_eq_iff.2 ⟨rfl, rfl, hmeasurements⟩

end Transition

/-! ## Providers that are alike -/

/-- Two providers that differ at most in what becomes of close requests and in the tickets they
hold. -/
structure Service.Alike (service other : Service) : Prop where
  /-- They are set up the same. -/
  config : service.config = other.config
  /-- The transport reports the same to both. -/
  lookup : service.lookup = other.lookup

/-- A close request does nothing. -/
theorem Handshake.core_closeLoser (service : Service) (channel : ChannelId) :
    (closeLoser service channel).core = pure () := by
  rw [closeLoser]
  cases service.capabilities service.config.port channel with
  | none => rfl
  | some ticket =>
    cases hclose : service.closer service.config.port channel ticket <;>
      simp only [requestClose, hclose] <;> rfl

theorem Handshake.core_rejectDuplicate {α : Type} (service other : Service) (chain : ChainId)
    (existing rejected : ChannelId) :
    (rejectDuplicate (α := α) service chain existing rejected).core =
      (rejectDuplicate other chain existing rejected).core := by
  simp only [rejectDuplicate, core_bind, core_closeLoser]

/-- Providers that are alike confirm a channel in the same way. -/
theorem Service.Alike.core_bind {service other : Service} (h : service.Alike other)
    (height : Height) (channel : ChannelId) :
    (Handshake.bind service height channel).core = (Handshake.bind other height channel).core := by
  have hresolve : Handshake.resolveChain service channel =
      Handshake.resolveChain other channel := by
    rw [Handshake.resolveChain, Handshake.resolveChain, h.config, h.lookup]
  simp only [Handshake.bind, Transition.core_bind, hresolve]
  refine congrArg (_ >>= ·) (funext fun chain => congrArg (_ >>= ·) (funext fun found => ?_))
  cases found with
  | none => rfl
  | some existing =>
    by_cases hsame : existing = channel
    · simp only [if_pos hsame]
    · simp only [if_neg hsame]
      exact Handshake.core_rejectDuplicate service other chain existing channel

/-- **The operations of providers that are alike have one core.** -/
theorem Service.Alike.core_perform {service other : Service} (h : service.Alike other)
    (operation : Operation) :
    (service.perform operation).core = (other.perform operation).core := by
  have hbind (height : Height) (channel : ChannelId) := h.core_bind height channel
  obtain ⟨config, lookup, closer, capabilities⟩ := service
  obtain ⟨_, _, otherCloser, otherCapabilities⟩ := other
  obtain ⟨rfl, rfl⟩ := h
  cases operation with
  | openConfirm height channel =>
    show (Handshake.bind _ height channel >>= fun _ => pure ()).core =
      (Handshake.bind _ height channel >>= fun _ => pure ()).core
    rw [Transition.core_bind, hbind height channel, ← Transition.core_bind]
  | _ => rfl

/-! ## Runs on any store -/

/-- Scripts that make the same calls on providers that are alike, each with its own. -/
inductive Script.Alike : Script Call → Script Call → Prop where
  /-- They end the same. -/
  | stop (result : Except ProviderError Unit) : Alike (.stop result) (.stop result)
  /-- They ask the same of providers that are alike, and go on alike whatever comes of it. -/
  | make {service other : Service} (operation : Operation)
    {next later : Except ProviderError operation.Answer → Script Call} (h : service.Alike other)
    (hnext : ∀ result, Alike (next result) (later result)) :
    Alike (.make ⟨service, operation⟩ next) (.make ⟨other, operation⟩ later)

/-- A script that is played requests the closes that are due for the results of its calls. -/
theorem Script.closeRequests_play {σ : Type} [KeyValueStore σ] (script : Script Call) (store : σ) :
    Output.closeRequests (script.play store).outputs =
      (script.settled store).filterMap Call.Settled.due? := by
  induction script generalizing store with
  | stop result => rfl
  | make call next ih =>
    have hcall : Output.closeRequests ((Steps.transition call).run store).outputs =
        (Call.Settled.due? ⟨call, ((Steps.transition call).run store).result⟩).toList :=
      call.closeRequests_run store
    rw [play, settled, Outcome.prepend, Output.closeRequests_append, ih, hcall,
      List.filterMap_cons]
    cases Call.Settled.due? ⟨call, ((Steps.transition call).run store).result⟩ <;> rfl

/-- What was asked in a call, and what it came to. -/
abbrev Call.Reply := (operation : Operation) × Except ProviderError operation.Answer

/-- What was asked in a call, and what it came to, without the provider. -/
def Call.Settled.reply (settled : Call.Settled) : Call.Reply := ⟨settled.1.operation, settled.2⟩

/-- Scripts that are alike look the same, and so do their calls. -/
theorem Script.Alike.observed {σ : Type} [KeyValueStore σ] {script other : Script Call}
    (h : script.Alike other) (store : σ) :
    (script.play store).observed = (other.play store).observed ∧
      (script.settled store).map Call.Settled.reply =
        (other.settled store).map Call.Settled.reply := by
  induction h generalizing store with
  | stop result => exact ⟨rfl, rfl⟩
  | @make service other operation next later h hnext ih =>
    have hcall := observed_eq_of_core_eq (h.core_perform operation) store
    obtain ⟨hresult, hstore, hmeasurements⟩ := Outcome.observed_eq_iff.1 hcall
    simp only [Script.play, Script.settled, Steps.transition, Call.transition, hresult, hstore]
    obtain ⟨hplay, hreplies⟩ := ih ((other.perform operation).run store).result
      ((other.perform operation).run store).store
    exact ⟨Outcome.observed_prepend hplay hmeasurements,
      congrArg (List.cons (⟨operation, _⟩ : Call.Reply)) hreplies⟩

namespace Host

/-- What a host does in one go on a store of which nothing is known: a call made directly, or a
script, run all or nothing. -/
abbrev Step := Move Call (Script Call)

/-- Steps that do the same with providers that are alike. -/
inductive Step.Alike : Step → Step → Prop where
  /-- The same is asked. -/
  | direct {service other : Service} (operation : Operation) (h : service.Alike other) :
    Alike (.direct ⟨service, operation⟩) (.direct ⟨other, operation⟩)
  /-- The scripts are alike. -/
  | execute {script other : Script Call} (h : script.Alike other) :
    Alike (.execute script) (.execute other)

variable {σ : Type} [KeyValueStore σ]

namespace Step

/-- What a step comes to; of a call only whether it succeeded. -/
def outcome (store : σ) : Step → Outcome σ Unit
  | .direct call =>
    let outcome := call.transition.run store
    ⟨outcome.result.map fun _ => (), outcome.store, outcome.outputs⟩
  | .execute script => (script.play (Overlay.ofStore store)).settle

/-- The calls of a step, with what they came to. -/
def settled (store : σ) : Step → List Call.Settled
  | .direct call => [⟨call, (call.transition.run store).result⟩]
  | .execute script => script.settled (Overlay.ofStore store)

/-- A step requests the closes that are due for the results of its calls. -/
theorem closeRequests_outcome (step : Step) (store : σ) :
    Output.closeRequests (step.outcome store).outputs =
      (step.settled store).filterMap Call.Settled.due? := by
  cases step with
  | direct call =>
    rw [outcome, settled, call.closeRequests_run, List.filterMap_cons, List.filterMap_nil]
    cases Call.Settled.due? ⟨call, (call.transition.run store).result⟩ <;> rfl
  | execute script =>
    exact (Outcome.closeRequests_settle _).trans (script.closeRequests_play _)

/-- Steps that are alike look the same, and so do their calls. -/
theorem Alike.observed {step other : Step} (h : step.Alike other) (store : σ) :
    (step.outcome store).observed = (other.outcome store).observed ∧
      (step.settled store).map Call.Settled.reply =
        (other.settled store).map Call.Settled.reply := by
  cases h with
  | @direct service other operation h =>
    have hcall := observed_eq_of_core_eq (h.core_perform operation) store
    obtain ⟨hresult, hstore, hmeasurements⟩ := Outcome.observed_eq_iff.1 hcall
    refine ⟨Outcome.observed_eq_iff.2 ⟨?_, hstore, hmeasurements⟩, ?_⟩
    · exact congrArg (Except.map fun _ => ()) hresult
    · exact congrArg (fun result => [(⟨operation, result⟩ : Call.Reply)]) hresult
  | execute h =>
    obtain ⟨hplay, hreplies⟩ := h.observed (Overlay.ofStore store)
    exact ⟨Outcome.observed_settle hplay, hreplies⟩

end Step

/-- What a host sees of a step. -/
structure Report (σ : Type) where
  /-- What was asked, and what it came to. -/
  replies : List Call.Reply
  /-- Whether the step succeeded. -/
  result : Except ProviderError Unit
  /-- The store after it. -/
  store : σ
  /-- The metrics after it. -/
  metrics : Metrics

/-- What a host sees of steps on a store, one after the other. -/
def reports : σ → Metrics → List Step → List (Report σ)
  | _, _, [] => []
  | store, metrics, step :: rest =>
    let outcome := step.outcome store
    let metrics := metrics.recordAll (Output.measurements outcome.outputs)
    ⟨(step.settled store).map Call.Settled.reply, outcome.result, outcome.store, metrics⟩ ::
      reports outcome.store metrics rest

/-- The close requests of steps on a store. -/
def closes : σ → List Step → List (PortId × ChannelId)
  | _, [] => []
  | store, step :: rest =>
    let outcome := step.outcome store
    Output.closeRequests outcome.outputs ++ closes outcome.store rest

/-- The calls of steps on a store, with what they came to. -/
def settled : σ → List Step → List Call.Settled
  | _, [] => []
  | store, step :: rest => step.settled store ++ settled (step.outcome store).store rest

/-- Steps request exactly the closes that are due for the results of their calls. -/
theorem closes_eq (store : σ) (steps : List Step) :
    closes store steps = (settled store steps).filterMap Call.Settled.due? := by
  induction steps generalizing store with
  | nil => rfl
  | cons step rest ih =>
    rw [closes, settled, List.filterMap_append, step.closeRequests_outcome, ih]

/-- Steps that are alike show the same. -/
theorem reports_eq {steps others : List Step} (h : List.Forall₂ Step.Alike steps others)
    (store : σ) (metrics : Metrics) : reports store metrics steps = reports store metrics others := by
  induction h generalizing store metrics with
  | nil => rfl
  | @cons step other rest others hstep _ ih =>
    obtain ⟨hobserved, hreplies⟩ := hstep.observed store
    obtain ⟨hresult, hstore, hmeasurements⟩ := Outcome.observed_eq_iff.1 hobserved
    simp only [reports, hreplies, hresult, hstore, hmeasurements, ih]

/-- What two runs of a host have in common whose providers differ only in their ties to the transport
for closing channels. -/
structure BestEffort (store : σ) (metrics : Metrics) (steps others : List Step) : Prop where
  /-- After every step the results, the store and the metrics are the same. -/
  same : reports store metrics steps = reports store metrics others
  /-- The close requests of the one are those due for the results of its calls: in order, one for
  each confirm that was refused as a duplicate and for whose channel there is a ticket. -/
  closes : closes store steps = (settled store steps).filterMap Call.Settled.due?
  /-- And so are those of the other. -/
  closesOther : Host.closes store others = (settled store others).filterMap Call.Settled.due?

/-- **Closing is best-effort and has no influence.**  On any store, runs on providers that differ only
in what becomes of close requests and in the tickets they hold, at any call in another way, show the
same, and each requests exactly the closes that are due. -/
theorem bestEffort {steps others : List Step} (h : List.Forall₂ Step.Alike steps others) (store : σ)
    (metrics : Metrics) : BestEffort store metrics steps others where
  same := reports_eq h store metrics
  closes := closes_eq store steps
  closesOther := closes_eq store others

/-- The provider of the race without tickets, whose requests would be refused. -/
def powerless : Service :=
  { Registry.racedProvider with closer := .rejecting, capabilities := .denying }

/-- Two channels to one chain are confirmed, the second in a transaction that is given up and then
directly. -/
def raceOn (service : Service) : List Step :=
  [.direct ⟨service, .openConfirm 5 ⟨"ch-0"⟩⟩,
    .execute (.make ⟨service, .openConfirm 6 ⟨"ch-1"⟩⟩ fun result => .stop result),
    .direct ⟨service, .openConfirm 7 ⟨"ch-1"⟩⟩]

/-- The race is the same without tickets.  With them, two closes are requested. -/
theorem bestEffort_race :
    BestEffort (.empty : Store) {} (raceOn Registry.racedProvider) (raceOn powerless) ∧
      closes (.empty : Store) (raceOn Registry.racedProvider) =
        [(⟨"provider"⟩, ⟨"ch-1"⟩), (⟨"provider"⟩, ⟨"ch-1"⟩)] ∧
      closes (.empty : Store) (raceOn powerless) = [] := by
  have halike : Registry.racedProvider.Alike powerless := ⟨rfl, rfl⟩
  have hscript : Script.Alike
      (.make ⟨Registry.racedProvider, .openConfirm 6 ⟨"ch-1"⟩⟩ fun result => .stop result)
      (.make ⟨powerless, .openConfirm 6 ⟨"ch-1"⟩⟩ fun result => .stop result) :=
    .make (.openConfirm 6 ⟨"ch-1"⟩) halike fun result => .stop result
  refine ⟨bestEffort ?_ (.empty : Store) {}, by decide +kernel, by decide +kernel⟩
  exact .cons (.direct _ halike) (.cons (.execute hscript) (.cons (.direct _ halike) .nil))

end Host
end SharedSecurity
