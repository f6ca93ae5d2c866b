import SharedSecurity.Proofs.Failures
import SharedSecurity.Proofs.Transactions

/-!
# What an operation may give out

`Transition.Gives P` says of a transition, without running it, that apart from reports whatever it
gives out has the property `P`; and `Transition.FailsBy E` that it ends with no error but those with
the property `E` and the faults of its store.  Both are read off the tree and so hold on every store,
of which nothing need be known.

* `Operation.mayGive` — what an operation may give out besides reports, and `Service.perform_gives`.
* `Call.closeRequests_run` — **the close requests of a call are told by its result**: there is one
  exactly for a confirm that is refused as a duplicate, if the provider holds a ticket for the
  channel.
* `History.outputsFrom` — what calls give out one after the other, and `Follows.outputs_eq`.
* `Turn.closeRequests_outputs` — **the close requests of a turn are told by the results of its
  calls**, also if it is given up.
-/

set_option autoImplicit false
namespace SharedSecurity

open Transition

/-! ## Outputs and errors of a transition -/

namespace Transition

variable {α β σ : Type} {P : Output → Prop} {E : ProviderError → Prop}

/-- Whatever the store answers, all that is given out besides reports has the property. -/
def Gives (P : Output → Prop) : Transition α → Prop
  | done _ => True
  | ask _ next => ∀ answer, (next answer).Gives P
  | emit (.log _) next => next.Gives P
  | emit (.measure measurement) next => P (.measure measurement) ∧ next.Gives P
  | emit (.close port channel) next => P (.close port channel) ∧ next.Gives P

/-- Whatever the store answers, an error has the property, if it is not a fault of the store. -/
def FailsBy (E : ProviderError → Prop) : Transition α → Prop
  | done (.ok _) => True
  | done (.error error) => E error
  | ask _ next => ∀ answer, (next answer).FailsBy E
  | emit _ next => next.FailsBy E

theorem Gives.bind {t : Transition α} {next : α → Transition β} (ht : t.Gives P)
    (hnext : ∀ value, (next value).Gives P) : (t >>= next).Gives P := by
  rw [bind_eq]
  induction t with
  | done result => cases result with
    | ok value => exact hnext value
    | error error => trivial
  | ask question rest ih => exact fun answer => ih answer (ht answer)
  | emit output rest ih => cases output with
    | log event => exact ih ht
    | measure measurement => exact ⟨ht.1, ih ht.2⟩
    | close port channel => exact ⟨ht.1, ih ht.2⟩

theorem Gives.forM {f : α → Transition Unit} {values : List α}
    (h : ∀ value ∈ values, (f value).Gives P) : (values.forM f).Gives P := by
  induction values with
  | nil => trivial
  | cons value values ih =>
    have hvalues := List.forall_mem_cons.1 h
    exact .bind hvalues.1 fun _ => ih hvalues.2

theorem Gives.mapM {f : α → Transition β} {values : List α}
    (h : ∀ value ∈ values, (f value).Gives P) : (values.mapM f).Gives P := by
  induction values with
  | nil => trivial
  | cons value values ih =>
    have hvalues := List.forall_mem_cons.1 h
    rw [List.mapM_cons]
    exact .bind hvalues.1 fun _ => .bind (ih hvalues.2) fun _ => trivial

theorem gives_ofExcept (result : Except ProviderError α) : (ofExcept result).Gives P := trivial

/-- A request gives out nothing. -/
theorem gives_request (question : Request) : (request question).Gives P := fun _ => trivial

theorem FailsBy.bind {t : Transition α} {next : α → Transition β} (ht : t.FailsBy E)
    (hnext : ∀ value, (next value).FailsBy E) : (t >>= next).FailsBy E := by
  rw [bind_eq]
  induction t with
  | done result => cases result with
    | ok value => exact hnext value
    | error error => exact ht
  | ask question rest ih => exact fun answer => ih answer (ht answer)
  | emit output rest ih => exact ih ht

variable [KeyValueStore σ]

/-- **A run gives out what the tree says.** -/
theorem outputs_of_gives {t : Transition α} (ht : t.Gives P) (store : σ) :
    ∀ output ∈ (t.run store).outputs, (∃ event, output = .log event) ∨ P output := by
  induction t generalizing store with
  | done result => exact List.forall_mem_nil _
  | ask question rest ih =>
    simp only [run]
    rcases KeyValueStore.answer question store with ⟨fault | answer, after⟩
    · exact List.forall_mem_nil _
    · exact ih answer (ht answer) after
  | emit output rest ih =>
    cases output with
    | log event => exact List.forall_mem_cons.2 ⟨.inl ⟨event, rfl⟩, ih ht store⟩
    | measure measurement => exact List.forall_mem_cons.2 ⟨.inr ht.1, ih ht.2 store⟩
    | close port channel => exact List.forall_mem_cons.2 ⟨.inr ht.1, ih ht.2 store⟩

/-- **A run fails as the tree says**, or by a fault of its store. -/
theorem error_of_failsBy {t : Transition α} (ht : t.FailsBy E) {store : σ} {error : ProviderError}
    (h : (t.run store).result = .error error) : (∃ fault, error = .store fault) ∨ E error := by
  induction t generalizing store with
  | done result =>
    simp only [run] at h
    subst h
    exact .inr ht
  | ask question rest ih =>
    simp only [run] at h
    rcases hanswer : KeyValueStore.answer question store with ⟨fault | answer, after⟩
    · rw [hanswer] at h
      exact .inl ⟨fault, (Except.error.inj h).symm⟩
    · rw [hanswer] at h
      exact ih answer (ht answer) h
  | emit output rest ih => exact ih ht h

/-- A run measures only what the tree says. -/
theorem of_mem_measurements {t : Transition α} (ht : t.Gives P) {store : σ}
    {measurement : Measurement} (h : measurement ∈ Output.measurements (t.run store).outputs) :
    P (.measure measurement) := by
  obtain ⟨output, houtput, hmeasure⟩ := List.mem_filterMap.1 h
  rcases outputs_of_gives ht store output houtput with ⟨event, rfl⟩ | hgiven
  · cases hmeasure
  · cases output with
    | measure other =>
      obtain rfl : other = measurement := Option.some.inj hmeasure
      exact hgiven
    | log event => cases hmeasure
    | close port channel => cases hmeasure

theorem measurements_eq_nil {t : Transition α} (ht : t.Gives P)
    (hP : ∀ measurement, ¬ P (.measure measurement)) (store : σ) :
    Output.measurements (t.run store).outputs = [] :=
  List.eq_nil_iff_forall_not_mem.2 fun measurement hmem =>
    hP measurement (of_mem_measurements ht hmem)

theorem closeRequests_eq_nil {t : Transition α} (ht : t.Gives P)
    (hP : ∀ port channel, ¬ P (.close port channel)) (store : σ) :
    Output.closeRequests (t.run store).outputs = [] := by
  rw [Output.closeRequests, List.filterMap_eq_nil_iff]
  intro output houtput
  rcases outputs_of_gives ht store output houtput with ⟨event, rfl⟩ | hgiven
  · rfl
  · cases output with
    | close port channel => exact absurd hgiven (hP port channel)
    | _ => rfl

end Transition

/-! ## The functions of the provider -/

section

variable {α β : Type} {P : Output → Prop}

theorem Stored.gives_read? (decode : Bytes → Except ProviderError α) (key : Key) :
    (read? decode key).Gives P :=
  .bind (gives_request _) fun found => by cases found <;> trivial

theorem Stored.gives_visit (family : KeyFamily)
    (decode : Bytes × Bytes → Except ProviderError (Option α)) (start : β)
    (see : α → β → ForInStep β) : (visit family decode start see).Gives P :=
  .bind (gives_request _) fun _ => trivial

namespace Registry

theorem gives_channelOf (chain : ChainId) : (channelOf chain).Gives P :=
  .bind (Stored.gives_read? _ _) fun _ => trivial

theorem gives_chainOf (channel : ChannelId) : (chainOf channel).Gives P :=
  .bind (Stored.gives_read? _ _) fun _ => trivial

theorem gives_status (channel : ChannelId) : (status channel).Gives P :=
  .bind (Stored.gives_read? _ _) fun _ => trivial

theorem gives_markInitializing (channel : ChannelId) : (markInitializing channel).Gives P :=
  .bind (gives_status channel) fun current => by
    split
    · exact gives_request _
    · trivial

theorem gives_client? (chain : ChainId) : (client? chain).Gives P :=
  .bind (Stored.gives_read? _ _) fun _ => trivial

theorem gives_port? : port?.Gives P := .bind (Stored.gives_read? _ _) fun _ => trivial

theorem gives_register (registration : ConsumerRegistration) : (register registration).Gives P :=
  .bind (gives_request _) fun _ => by
    split
    · exact .bind (gives_request _) fun _ => trivial
    · trivial

theorem gives_registrations : registrations.Gives P :=
  .bind (gives_request _) fun _ => .mapM fun _ _ => .bind trivial fun _ => .bind trivial fun _ =>
    .bind (gives_request _) fun _ => trivial

end Registry

namespace Handshake

theorem gives_boundChannel (chain : ChainId) : (boundChannel chain).Gives P :=
  .bind (Registry.gives_channelOf chain) fun found => by
    cases found with
    | none => trivial
    | some existing => exact .bind (Registry.gives_status existing) fun _ => trivial

theorem gives_requireInitializing (config : ProviderConfig) (channel : ChannelId) :
    (requireInitializing config channel).Gives P := by
  rw [requireInitializing.eq_def]
  split
  · exact .bind (Registry.gives_status channel) fun _ => by split <;> trivial
  · trivial

theorem gives_verify (service : Service) (channel : ChannelId) (hops : List ConnectionId)
    (claimed : ChainId) : (verify service channel hops claimed).Gives P :=
  .bind trivial fun _ => .bind (gives_requireInitializing _ _) fun _ => .bind trivial fun _ =>
    .bind trivial fun _ => .bind (Registry.gives_client? _) fun _ => .bind trivial fun _ =>
    .bind (gives_boundChannel _) fun _ => .bind trivial fun _ => trivial

theorem gives_closeLoser (service : Service) (channel : ChannelId)
    (hclose : ∀ port channel, P (.close port channel)) : (closeLoser service channel).Gives P := by
  rw [closeLoser]
  split
  · trivial
  · exact .bind ⟨hclose _ _, trivial⟩ fun answer => by cases answer <;> trivial

theorem gives_rejectDuplicate (service : Service) (chain : ChainId) (existing rejected : ChannelId)
    (hclose : ∀ port channel, P (.close port channel)) (hrejected : P (.measure .duplicateRejected)) :
    (rejectDuplicate (α := α) service chain existing rejected).Gives P :=
  .bind (gives_request _) fun _ => .bind (gives_closeLoser service rejected hclose) fun _ =>
    ⟨hrejected, trivial⟩

theorem gives_writeBinding (chain : ChainId) (channel : ChannelId) (height : Height)
    (hbound : P (.measure .channelBound)) : (writeBinding chain channel height).Gives P :=
  .bind (gives_request _) fun _ => .bind (gives_request _) fun _ => .bind (gives_request _) fun _ =>
    .bind (gives_request _) fun _ => ⟨hbound, trivial⟩

theorem gives_bind (service : Service) (height : Height) (channel : ChannelId)
    (hclose : ∀ port channel, P (.close port channel)) (hrejected : P (.measure .duplicateRejected))
    (hbound : P (.measure .channelBound)) : (bind service height channel).Gives P :=
  .bind trivial fun chain => .bind (Registry.gives_channelOf chain) fun found => by
    cases found with
    | none => exact .bind (gives_writeBinding chain channel height hbound) fun _ => trivial
    | some existing =>
      show Gives P (if existing = channel then _ else _)
      split
      · trivial
      · exact gives_rejectDuplicate service chain existing channel hclose hrejected

end Handshake

namespace Versioning

theorem gives_current : current.Gives P := .bind (Stored.gives_read? _ _) fun _ => trivial

theorem gives_set (version : Version) (h : P (.measure (.version version))) :
    (set version).Gives P :=
  .bind (gives_request _) fun _ => ⟨h, trivial⟩

theorem gives_advance (h : ∀ version, P (.measure (.version version))) : advance.Gives P :=
  .bind gives_current fun _ => .bind trivial fun following =>
    .bind (gives_set following (h following)) fun _ => trivial

end Versioning

namespace Unbonding

theorem gives_bucket (chain : ChainId) (version : Version) : (bucket chain version).Gives P :=
  .bind (Stored.gives_read? _ _) fun _ => trivial

theorem gives_entriesInBucket (chain : ChainId) (version : Version) :
    (entriesInBucket chain version).Gives P :=
  .bind (gives_bucket chain version) fun _ => .mapM fun _ _ =>
    .bind (Stored.gives_read? _ _) fun found => by cases found <;> trivial

theorem gives_addToBucket (id : EntryId) (version : Version) (chain : ChainId) :
    (addToBucket id version chain).Gives P :=
  .bind (gives_bucket chain version) fun _ => gives_request _

theorem gives_create (id : EntryId) (h : P (.measure .entryCreated)) : (create id).Gives P :=
  .bind (.bind (gives_request _) fun _ => trivial) fun stored => by
    show Gives P (if stored = true then _ else _)
    split
    · trivial
    · refine .bind Versioning.gives_current fun version => .bind (Stored.gives_visit _ _ _ _)
        fun chains => ?_
      show Gives P (if chains.isEmpty = true then _ else _)
      split
      · trivial
      · exact .bind (.forM fun chain _ => gives_addToBucket id version chain) fun _ =>
          .bind (gives_request _) fun _ => ⟨h, trivial⟩

theorem gives_settleEntry (entry : UnbondingEntry) : (settleEntry entry).Gives P := by
  rw [settleEntry]
  split <;> exact gives_request _

theorem gives_acknowledge (chain : ChainId) (version : Version)
    (h : ∀ count, P (.measure (.entriesCompleted count))) : (acknowledge chain version).Gives P :=
  .bind (gives_entriesInBucket chain version) fun entries => by
    show Gives P (if entries.isEmpty = true then _ else _)
    split
    · trivial
    · exact .bind trivial fun _ => .bind (.forM fun entry _ => gives_settleEntry entry) fun _ =>
        .bind (gives_request _) fun _ => ⟨h _, trivial⟩

end Unbonding

namespace SlashQueue

theorem gives_pending (chain : ChainId) : (pending chain).Gives P :=
  .bind (Stored.gives_read? _ _) fun _ => trivial

theorem gives_append (chain : ChainId) (token : String) (h : P (.measure (.slashAck chain.name))) :
    (append chain token).Gives P :=
  .bind (gives_pending chain) fun _ => .bind (gives_request _) fun _ => ⟨h, trivial⟩

theorem gives_drain (chain : ChainId) : (drain chain).Gives P :=
  .bind (gives_pending chain) fun queue => by
    show Gives P (if (!queue.isEmpty) = true then _ else _)
    split
    · exact .bind (gives_request _) fun _ => trivial
    · trivial

theorem gives_sweep : sweep.Gives P :=
  .bind (Stored.gives_visit _ _ _ _) fun _ => .mapM fun chain _ =>
    .bind (gives_drain chain) fun _ => trivial

end SlashQueue

end

/-! ## Operations -/

/-- What an operation may give out besides reports. -/
def Operation.mayGive : Operation → Output → Prop
  | .initGenesis genesis, output => output = .measure (.version genesis.version)
  | .exportGenesis, _ => False
  | .registerConsumer _, _ => False
  | .openInit _, _ => False
  | .openTry .., _ => False
  | .openConfirm .., output => (∃ port channel, output = .close port channel) ∨
      output = .measure .duplicateRejected ∨ output = .measure .channelBound
  | .unbondingCreated _, output => output = .measure .entryCreated
  | .beforeUnbondingCompletes _, _ => False
  | .acknowledgePacket .., output => (∃ count, output = .measure (.entriesCompleted count)) ∨
      ∃ chain : ChainId, output = .measure (.slashAck chain.name)
  | .endBlock _, output => ∃ version, output = .measure (.version version)
  | .sweep, _ => False

/-- **An operation gives out nothing else.** -/
theorem Service.perform_gives (service : Service) (operation : Operation) :
    (service.perform operation).Gives operation.mayGive := by
  cases operation with
  | initGenesis genesis =>
    show (service.initGenesis genesis).Gives _
    rw [initGenesis]
    have hload : Gives (Operation.initGenesis genesis).mayGive
        (do
          Registry.setPort genesis.port
          Versioning.set genesis.version
          genesis.consumers.forM Registry.register
          report (.genesisLoaded genesis.port genesis.version genesis.consumers.length)) :=
      .bind (gives_request _) fun _ => .bind (Versioning.gives_set _ rfl) fun _ =>
        .bind (.forM fun registration _ => Registry.gives_register registration) fun _ => trivial
    split
    · exact .bind trivial fun _ => hload
    · exact hload
  | exportGenesis =>
    exact .bind Registry.gives_port? fun _ => .bind Versioning.gives_current fun _ =>
      .bind Registry.gives_registrations fun _ => trivial
  | registerConsumer registration => exact Registry.gives_register registration
  | openInit channel => exact Registry.gives_markInitializing channel
  | openTry channel hops claimed => exact Handshake.gives_verify service channel hops claimed
  | openConfirm height channel =>
    exact .bind (Handshake.gives_bind service height channel
      (fun port channel => .inl ⟨port, channel, rfl⟩) (.inr (.inl rfl)) (.inr (.inr rfl)))
      fun _ => trivial
  | unbondingCreated notice => exact .bind trivial fun _ => Unbonding.gives_create notice.id rfl
  | beforeUnbondingCompletes id =>
    exact .bind (.bind (gives_request _) fun _ => trivial) fun _ => trivial
  | acknowledgePacket channel ack =>
    refine .bind (Registry.gives_chainOf channel) fun found => ?_
    cases found with
    | none => trivial
    | some chain =>
      exact .bind (Unbonding.gives_acknowledge chain _ fun count => .inl ⟨count, rfl⟩) fun _ =>
        .bind (.forM fun token _ => SlashQueue.gives_append chain token (.inr ⟨chain, rfl⟩))
          fun _ => trivial
  | endBlock height =>
    show (service.endBlock height).Gives _
    rw [endBlock]
    have hadvance : Versioning.advance.Gives (Operation.endBlock height).mayGive :=
      Versioning.gives_advance fun version => ⟨version, rfl⟩
    split
    · exact .bind Versioning.gives_current fun _ => .bind (gives_request _) fun _ => hadvance
    · exact hadvance
  | sweep => exact SlashQueue.gives_sweep

/-! ## Close requests -/

namespace Output

/-- Not a close request. -/
def NoClose (output : Output) : Prop := ∀ port channel, output ≠ .close port channel

theorem not_noClose (port : PortId) (channel : ChannelId) : ¬ NoClose (.close port channel) :=
  fun h => h port channel rfl

@[simp] theorem closeRequests_append (first second : List Output) :
    closeRequests (first ++ second) = closeRequests first ++ closeRequests second :=
  List.filterMap_append

@[simp] theorem measurements_append (first second : List Output) :
    measurements (first ++ second) = measurements first ++ measurements second :=
  List.filterMap_append

end Output

namespace Handshake

variable {α β σ : Type} [KeyValueStore σ]

/-- The close request that an error of a confirm calls for: one for the channel that is refused as a
duplicate, if the provider holds a ticket for it. -/
def dueFor? (service : Service) : ProviderError → Option (PortId × ChannelId)
  | .duplicateRegistration _ _ rejected =>
    if (service.capabilities service.config.port rejected).isSome then
      some (service.config.port, rejected)
    else none
  | _ => none

/-- The close request that a result of a confirm calls for. -/
def due? (service : Service) : Except ProviderError α → Option (PortId × ChannelId)
  | .ok _ => none
  | .error error => dueFor? service error

/-- An error that is not a refusal of a duplicate. -/
def Undisputed (error : ProviderError) : Prop :=
  ∀ chain existing rejected, error ≠ .duplicateRegistration chain existing rejected

theorem due?_error (service : Service) {error : ProviderError} (h : Undisputed error) :
    due? service (.error error : Except ProviderError α) = none := by
  cases error with
  | duplicateRegistration chain existing rejected => exact absurd rfl (h chain existing rejected)
  | _ => rfl

/-- On a store, the transition requests the close that its result calls for. -/
def ClosesDue (service : Service) (t : Transition α) (store : σ) : Prop :=
  Output.closeRequests (t.run store).outputs = (due? service (t.run store).result).toList

/-- What fails by no duplicate ends with no duplicate. -/
theorem undisputed_of_run {t : Transition α} (ht : t.FailsBy Undisputed) {store : σ}
    {error : ProviderError} (h : (t.run store).result = .error error) : Undisputed error := by
  rcases error_of_failsBy ht h with ⟨fault, rfl⟩ | hother
  · exact fun _ _ _ => nofun
  · exact hother

/-- What requests no close and fails by no duplicate. -/
theorem closesDue_of_quiet (service : Service) {t : Transition α} (hquiet : t.Gives Output.NoClose)
    (ht : t.FailsBy Undisputed) (store : σ) : ClosesDue service t store := by
  rw [ClosesDue, closeRequests_eq_nil hquiet Output.not_noClose store]
  cases hresult : (t.run store).result with
  | ok value => rfl
  | error error => rw [due?_error service (undisputed_of_run ht hresult), Option.toList_none]

/-- After a part that requests no close and fails by no duplicate, it is up to what follows. -/
theorem closesDue_bind {service : Service} {t : Transition α} {next : α → Transition β}
    (hquiet : t.Gives Output.NoClose) (ht : t.FailsBy Undisputed) {store : σ}
    (hnext : ∀ value, ClosesDue service (next value) (t.run store).store) :
    ClosesDue service (t >>= next) store := by
  have hnone := closeRequests_eq_nil hquiet Output.not_noClose store
  rw [ClosesDue, run_bind, Outcome.andThen]
  cases hresult : (t.run store).result with
  | ok value =>
    simp only [Outcome.prepend, Output.closeRequests_append, hnone, List.nil_append]
    exact hnext value
  | error error =>
    simp only [hnone, due?_error service (undisputed_of_run ht hresult), Option.toList_none]

/-- A channel that cannot be resolved is not a duplicate. -/
theorem undisputed_of_resolveChain {service : Service} {channel : ChannelId}
    {error : ProviderError} (h : resolveChain service channel = .error error) :
    Undisputed error := by
  have hrefused : Call.Refused .empty ⟨service, .openConfirm 0 channel⟩ error :=
    refused_of_resolveChain h
  rintro chain existing rejected rfl
  cases hrefused with
  | openConfirm_unresolved _ hunresolved => cases hunresolved
  | openConfirm_duplicate hresolve =>
    rw [h] at hresolve
    cases hresolve

theorem failsBy_channelOf (chain : ChainId) : (Registry.channelOf chain).FailsBy Undisputed := by
  refine .bind (fun found => ?_) fun _ => trivial
  cases found with
  | none => trivial
  | some bytes =>
    show FailsBy Undisputed (ofExcept ((Stored.nameOfValue "channel id" bytes).map some))
    rw [Stored.nameOfValue]
    cases Utf8.decode? bytes with
    | none =>
      intro chain existing rejected heq
      cases heq
    | some name => trivial

/-- A binding that is written fails only by a fault of the store. -/
theorem failsBy_writeBinding (chain : ChainId) (channel : ChannelId) (height : Height) :
    (writeBinding chain channel height).FailsBy Undisputed :=
  fun _ _ _ _ => trivial

theorem closeRequests_closing (service : Service) (channel : ChannelId) :
    Output.closeRequests (closing service channel) =
      if (service.capabilities service.config.port channel).isSome then
        [(service.config.port, channel)]
      else [] := by
  rw [closing]
  cases service.capabilities service.config.port channel with
  | none => rfl
  | some ticket =>
    cases hclose : service.closer service.config.port channel ticket <;>
      simp [hclose, Output.closeRequests]

/-- A refusal of a duplicate requests the close that it calls for, once the refusal is recorded. -/
theorem closesDue_rejectDuplicate (service : Service) (chain : ChainId)
    (existing rejected : ChannelId) (store : σ) :
    ClosesDue service (rejectDuplicate (α := α) service chain existing rejected) store := by
  refine closesDue_bind (gives_request _) (fun _ => trivial) fun _ => ?_
  rw [ClosesDue, run_bind_ok (run_closeLoser service rejected _)]
  show Output.closeRequests (closing service rejected ++ _) = _
  rw [Output.closeRequests_append, closeRequests_closing]
  show _ ++ [] = (if _ then _ else _ : Option _).toList
  split <;> rfl

/-- A confirm requests the close that it calls for. -/
theorem closesDue_bindChannel (service : Service) (height : Height) (channel : ChannelId)
    (store : σ) : ClosesDue service (bind service height channel) store := by
  have hresolve : (ofExcept (resolveChain service channel)).FailsBy Undisputed := by
    cases h : resolveChain service channel with
    | ok chain => trivial
    | error error => exact undisputed_of_resolveChain h
  refine closesDue_bind (gives_ofExcept _) hresolve fun chain => ?_
  refine closesDue_bind (Registry.gives_channelOf chain) (failsBy_channelOf chain) fun found => ?_
  cases found with
  | none =>
    have hquiet : Gives Output.NoClose (do writeBinding chain channel height; pure chain) :=
      .bind (gives_writeBinding chain channel height fun _ _ => nofun) fun _ => trivial
    have hfails : FailsBy Undisputed (do writeBinding chain channel height; pure chain) :=
      .bind (failsBy_writeBinding chain channel height) fun _ => trivial
    exact closesDue_of_quiet service hquiet hfails _
  | some existing =>
    show ClosesDue service (if existing = channel then _ else _) _
    split
    · have hquiet : Gives Output.NoClose
          (do report (.channelAlreadyBound chain channel); pure chain) := trivial
      exact closesDue_of_quiet service hquiet trivial _
    · exact closesDue_rejectDuplicate service chain existing channel _

end Handshake

/-- The close request that is due for a call that came to a result. -/
def Call.Settled.due? : Call.Settled → Option (PortId × ChannelId)
  | ⟨⟨service, .openConfirm _ _⟩, result⟩ => Handshake.due? service result
  | _ => none

/-- **The close requests of a call are told by its result**, on any store: one is made exactly for a
confirm that is refused as a duplicate, if the provider holds a ticket for the channel. -/
theorem Call.closeRequests_run {σ : Type} [KeyValueStore σ] (call : Call) (store : σ) :
    Output.closeRequests (call.transition.run store).outputs =
      (Settled.due? ⟨call, (call.transition.run store).result⟩).toList := by
  obtain ⟨service, operation⟩ := call
  cases operation with
  | openConfirm height channel =>
    have hdue := Handshake.closesDue_bindChannel service height channel store
    show Output.closeRequests ((Handshake.bind service height channel >>= fun _ => pure ()).run
      store).outputs = (Handshake.due? service ((Handshake.bind service height channel >>=
        fun _ => pure ()).run store).result).toList
    rw [Handshake.ClosesDue] at hdue
    rw [run_bind]
    generalize (Handshake.bind service height channel).run store = outcome at hdue
    obtain ⟨error | chain, after, outputs⟩ := outcome
    · exact hdue
    · show Output.closeRequests (outputs ++ []) = []
      rw [List.append_nil]
      exact hdue
  | _ =>
    refine closeRequests_eq_nil (service.perform_gives _) ?_ store
    simp [Operation.mayGive]

/-- No close request is due after a fault of the store. -/
theorem Call.Settled.due?_fault (call : Call) (fault : StoreFault) :
    due? ⟨call, .error (.store fault)⟩ = none := by
  obtain ⟨service, operation⟩ := call
  cases operation <;> rfl

/-! ## Calls, turns and runs -/

/-- What a call made directly gives out. -/
def Call.outputs (call : Call) (store : Store) : List Output := (call.transition.run store).outputs

/-- What calls give out that are made directly, one after the other. -/
def History.outputsFrom : Store → History → List Output
  | _, [] => []
  | store, call :: rest => call.outputs store ++ outputsFrom (call.after store) rest

theorem History.outputsFrom_append (store : Store) (past later : History) :
    outputsFrom store (past ++ later) =
      outputsFrom store past ++ outputsFrom (afterFrom store past) later := by
  induction past generalizing store with
  | nil => rfl
  | cons call rest ih =>
    rw [List.cons_append, outputsFrom, outputsFrom, ih, List.append_assoc]
    rfl

/-- Calls that were made one after the other gave out what they give out as a history. -/
theorem Follows.outputs_eq {before after : Store} {performed : List (Performed Call)}
    (h : Follows before performed after) : performed.flatMap Performed.outputs =
      History.outputsFrom before (performed.map Performed.step) := by
  induction h with
  | nil => rfl
  | cons call _ ih => exact congrArg (_ ++ ·) ih

/-- The close request that is due for a call that was made. -/
def Performed.due? (performed : Performed Call) : Option (PortId × ChannelId) :=
  Call.Settled.due? ⟨performed.step, performed.result⟩

/-- The close requests of a script are those due for the results of its calls; a call that meets a
fault requests none. -/
theorem Script.closeRequests_transition {σ : Type} [KeyValueStore σ] [Contents σ]
    (script : Script Call) (store : σ) :
    Output.closeRequests (script.transition.run store).outputs =
      (script.performed store).filterMap Performed.due? := by
  induction script generalizing store with
  | stop result => rfl
  | make call next ih =>
    have hdue : Output.closeRequests ((Steps.transition call).run store).outputs =
        (Call.Settled.due? ⟨call, ((Steps.transition call).run store).result⟩).toList :=
      call.closeRequests_run store
    rw [transition, performed]
    rcases run_attempt_or_fault (Steps.transition call) store with
      ⟨fault, hfault, hattempt⟩ | hattempt
    · rw [hfault, Call.Settled.due?_fault] at hdue
      rw [run_bind_error hattempt, hattempt]
      exact hdue
    · rw [run_bind_ok hattempt, hattempt, Outcome.prepend, Output.closeRequests_append, hdue, ih,
        List.filterMap_cons, Performed.due?]
      cases Call.Settled.due? ⟨call, ((Steps.transition call).run store).result⟩ <;> rfl

/-- What is given out when a transaction is given up is no close request. -/
theorem Transition.Outcome.closeRequests_settle {α σ : Type} [KeyValueStore σ]
    (outcome : Outcome (Overlay σ) α) :
    Output.closeRequests outcome.settle.outputs = Output.closeRequests outcome.outputs := by
  obtain ⟨error | value, overlay, outputs⟩ := outcome
  · have hnone : Output.closeRequests (rejectionOutputs error) = [] := rfl
    show Output.closeRequests (outputs ++ rejectionOutputs error) = _
    rw [Output.closeRequests_append, hnone, List.append_nil]
  · rw [settle]
    rcases overlay.commit with ⟨fault | answer, after⟩ <;> rfl

/-- **The close requests of a turn** are those due for the results of its calls, whether or not their
effects stay. -/
theorem Turn.closeRequests_outputs (turn : Turn Call) (store : Store) :
    Output.closeRequests (turn.outputs store) =
      (turn.performed store).filterMap Performed.due? := by
  cases turn with
  | direct call =>
    refine (call.closeRequests_run store).trans ?_
    show _ = [Steps.performed call store].filterMap Performed.due?
    rw [List.filterMap_cons, List.filterMap_nil, Performed.due?, Steps.performed]
    cases Call.Settled.due? ⟨call, ((Steps.transition call).run store).result⟩ <;> rfl
  | execute transaction =>
    exact (Outcome.closeRequests_settle _).trans (transaction.script.closeRequests_transition _)

end SharedSecurity
