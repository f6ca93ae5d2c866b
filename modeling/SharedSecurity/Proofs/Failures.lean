import SharedSecurity.Proofs.Blocks
import SharedSecurity.Proofs.Identity
import SharedSecurity.Proofs.Mirror
import SharedSecurity.Proofs.Queues

/-!
# How calls fail

The provider checks what it reads: that bytes are a record, that an id in a bucket has an entry,
that the entry waits for the chain of the bucket.  A failure of such a check is fatal, since the
store is then not what the provider wrote.  In a store that only the provider has written none of
them ever fails.  What is left are refusals, each for a reason that the caller, the transport or an
earlier call gave.

* `Transition.FailsWithin` — the errors a run can end with, with one rule for a sequence.
* `Lookup.Unresolved`, `Call.Refused` — **the table of refusals**: which call can end with which
  error, and why.
* `Call.Orderly`, `Call.orderly_after` — every error of every call after every run is in the table.
-/

set_option autoImplicit false
namespace SharedSecurity

open Transition

/-! ## The errors of a run -/

namespace Transition

variable {α β : Type} {P : ProviderError → Prop} {t : Transition α} {next : α → Transition β}
  {store after : Store} {value : α} {outputs : List Output}

/-- Every error that a run on a plain store can end with has the property. -/
def FailsWithin (t : Transition α) (store : Store) (P : ProviderError → Prop) : Prop :=
  ∀ error, (t.run store).result = .error error → P error

theorem failsWithin_of_ok (h : (t.run store).result = .ok value) : t.FailsWithin store P := by
  intro error herror
  rw [h] at herror
  cases herror

theorem failsWithin_fail {error : ProviderError} (h : P error) :
    (fail error : Transition α).FailsWithin store P := by
  rintro _ ⟨⟩
  exact h

/-- A sequence fails as its first part does, or as its second part does after that. -/
theorem FailsWithin.bind (ht : t.FailsWithin store P) (hnext : ∀ value, t.Tells store value →
    (next value).FailsWithin (t.run store).store P) : (t >>= next).FailsWithin store P := by
  intro error herror
  rw [run_bind, Outcome.andThen] at herror
  cases hresult : (t.run store).result with
  | ok value =>
    rw [hresult] at herror
    exact hnext value hresult error herror
  | error other =>
    rw [hresult] at herror
    cases herror
    exact ht error hresult

/-- A sequence fails as its second part does, after a first part that succeeds. -/
theorem FailsWithin.bind_of_run (h : t.run store = ⟨.ok value, after, outputs⟩)
    (hnext : (next value).FailsWithin after P) : (t >>= next).FailsWithin store P := by
  intro error herror
  rw [run_bind_ok h] at herror
  exact hnext error herror

/-- A sequence that begins with a check fails as the check does or as what follows. -/
theorem FailsWithin.check {check : Except ProviderError α}
    (hcheck : ∀ error, check = .error error → P error)
    (hnext : ∀ value, check = .ok value → (next value).FailsWithin store P) :
    (ofExcept check >>= next).FailsWithin store P :=
  .bind hcheck hnext

/-- A loop fails as its steps do, on whatever stores they are made. -/
theorem FailsWithin.mapM {f : α → Transition β} {xs : List α}
    (hstep : ∀ x ∈ xs, ∀ store, (f x).FailsWithin store P) (store : Store) :
    (xs.mapM f).FailsWithin store P := by
  induction xs generalizing store with
  | nil => exact failsWithin_of_ok rfl
  | cons x xs ih =>
    obtain ⟨hfirst, hrest⟩ := List.forall_mem_cons.1 hstep
    rw [List.mapM_cons]
    refine .bind (hfirst store) fun _ _ => .bind (ih hrest _) fun _ _ => ?_
    exact failsWithin_of_ok rfl

end Transition

/-! ## Refusals -/

/-- Why the transport does not lead from connections to a light client. -/
inductive Lookup.Unresolved (lookup : Lookup) : List ConnectionId → ProviderError → Prop where
  /-- There is not a single connection. -/
  | hops {hops : List ConnectionId} (h : hops.length ≠ 1) :
    lookup.Unresolved hops (.invalidHopCount hops.length)
  /-- The connection is unknown. -/
  | connection {hop : ConnectionId} (h : lookup.client hop = none) :
    lookup.Unresolved [hop] (.connectionNotFound hop)
  /-- The light client is unknown. -/
  | client {hop : ConnectionId} {client : ClientId} (hclient : lookup.client hop = some client)
    (h : lookup.clientState client = none) : lookup.Unresolved [hop] (.clientNotFound client)

/-- **The table of refusals**: the errors that a call on a store can end with, and for each the
reason, in what the provider itself answers or the transport reports.  Calls without a row cannot be
refused. -/
inductive Call.Refused (store : Store) : Call → ProviderError → Prop where
  /-- A handshake begins on a channel that has a status. -/
  | openInit {service : Service} {channel : ChannelId} {actual : ChannelStatus}
    (hstatus : (Registry.status channel).Tells store actual) (h : actual ≠ .uninitialized) :
    Refused store ⟨service, .openInit channel⟩ (.invalidStatus channel .uninitialized actual)
  /-- The connections of a channel that is checked lead nowhere. -/
  | openTry_unresolved {service : Service} {channel : ChannelId} {hops : List ConnectionId}
    {claimed : ChainId} {error : ProviderError} (h : service.lookup.Unresolved hops error) :
    Refused store ⟨service, .openTry channel hops claimed⟩ error
  /-- Under a strict configuration, a channel is checked that is not initializing. -/
  | openTry_status {service : Service} {channel : ChannelId} {hops : List ConnectionId}
    {claimed : ChainId} {actual : ChannelStatus}
    (hstrict : service.config.requireInitializing = true)
    (hstatus : (Registry.status channel).Tells store actual) (h : actual ≠ .initializing) :
    Refused store ⟨service, .openTry channel hops claimed⟩
      (.invalidStatus channel .initializing actual)
  /-- A channel is checked that is not built on a Tendermint client. -/
  | openTry_clientType {service : Service} {channel : ChannelId} {hops : List ConnectionId}
    {claimed : ChainId} {client : ClientId} {state : LightClient} {name : String}
    (hbuilt : service.lookup.BuiltOn hops client state) (h : state.clientType = .other name) :
    Refused store ⟨service, .openTry channel hops claimed⟩ (.invalidClientType client name)
  /-- A channel is checked whose client is not the approved one, or tracks another chain. -/
  | openTry_mismatch {service : Service} {channel : ChannelId} {hops : List ConnectionId}
    {claimed : ChainId} {approved : Option ClientId} {client : ClientId} {state : LightClient}
    (hbuilt : service.lookup.BuiltOn hops client state)
    (hclient : (Registry.client? claimed).Tells store approved)
    (h : approved ≠ some client ∨ state.chain ≠ claimed) :
    Refused store ⟨service, .openTry channel hops claimed⟩
      (.clientMismatch claimed approved client)
  /-- Another channel validates the claimed chain. -/
  | openTry_duplicate {service : Service} {channel existing : ChannelId} {hops : List ConnectionId}
    {claimed : ChainId} (hchannel : (Registry.channelOf claimed).Tells store (some existing))
    (hstatus : (Registry.status existing).Tells store .validating) (h : existing ≠ channel) :
    Refused store ⟨service, .openTry channel hops claimed⟩
      (.duplicateRegistration claimed existing channel)
  /-- The transport does not know the channel that is confirmed. -/
  | openConfirm_unknown {service : Service} {height : Height} {channel : ChannelId}
    (h : service.lookup.hops service.config.port channel = none) :
    Refused store ⟨service, .openConfirm height channel⟩ (.channelNotFound channel)
  /-- The connections of the channel that is confirmed lead nowhere. -/
  | openConfirm_unresolved {service : Service} {height : Height} {channel : ChannelId}
    {hops : List ConnectionId} {error : ProviderError}
    (hreported : service.lookup.hops service.config.port channel = some hops)
    (h : service.lookup.Unresolved hops error) :
    Refused store ⟨service, .openConfirm height channel⟩ error
  /-- The chain of the channel that is confirmed has another channel. -/
  | openConfirm_duplicate {service : Service} {height : Height} {channel existing : ChannelId}
    {chain : ChainId} (hresolve : Handshake.resolveChain service channel = .ok chain)
    (hchannel : (Registry.channelOf chain).Tells store (some existing)) (h : existing ≠ channel) :
    Refused store ⟨service, .openConfirm height channel⟩
      (.duplicateRegistration chain existing channel)
  /-- A consumer acknowledges on a channel that is not bound. -/
  | acknowledgePacket {service : Service} {channel : ChannelId} {ack : MaturityAcknowledgement}
    (h : (Registry.chainOf channel).Tells store none) :
    Refused store ⟨service, .acknowledgePacket channel ack⟩ (.channelNotFound channel)
  /-- An unbonding is announced while it is held. -/
  | unbondingCreated {service : Service} {notice : UnbondingNotice}
    (h : (Unbonding.mayComplete notice.id).Tells store false) :
    Refused store ⟨service, .unbondingCreated notice⟩ (.duplicateEntry notice.id)
  /-- A block ends at the last version. -/
  | endBlock {service : Service} {height : Height} {current : Version}
    (hcurrent : Versioning.current.Tells store current) (h : UInt64.size ≤ current.toNat + 1) :
    Refused store ⟨service, .endBlock height⟩ (.versionOverflow current)

theorem Lookup.Unresolved.not_fatal {lookup : Lookup} {hops : List ConnectionId}
    {error : ProviderError} (h : lookup.Unresolved hops error) :
    error.isFatal = false ∧ ∀ fault, error ≠ .store fault := by
  cases h <;> exact ⟨rfl, fun _ => nofun⟩

/-- A refusal is neither fatal nor a fault of the store. -/
theorem Call.Refused.not_fatal {store : Store} {call : Call} {error : ProviderError}
    (h : call.Refused store error) :
    error.isFatal = false ∧ ∀ fault, error ≠ .store fault := by
  cases h with
  | openTry_unresolved h => exact h.not_fatal
  | openConfirm_unresolved _ h => exact h.not_fatal
  | _ => exact ⟨rfl, fun _ => nofun⟩

/-- The operations that the table has no row for. -/
def Operation.NeverRefused : Operation → Prop
  | .initGenesis _ => True
  | .exportGenesis => True
  | .registerConsumer _ => True
  | .beforeUnbondingCompletes _ => True
  | .sweep => True
  | _ => False

theorem Call.Refused.not_neverRefused {store : Store} {call : Call} {error : ProviderError}
    (h : call.Refused store error) : ¬ call.operation.NeverRefused := by
  cases h <;> exact id

/-! ## When a rule is not met -/

namespace Handshake

theorem unresolved_of_singleHop {lookup : Lookup} {hops : List ConnectionId} {error : ProviderError}
    (h : singleHop hops = .error error) : lookup.Unresolved hops error := by
  rcases hops with _ | ⟨first, _ | ⟨second, rest⟩⟩
  · cases h
    exact .hops (by simp)
  · cases h
  · cases h
    exact .hops (by simp)

theorem unresolved_of_resolveClient {lookup : Lookup} {hop : ConnectionId} {error : ProviderError}
    (h : resolveClient lookup hop = .error error) : lookup.Unresolved [hop] error := by
  rw [resolveClient] at h
  split at h
  · next hclient =>
    cases h
    exact .connection hclient
  · next client hclient =>
    split at h
    · next hstate =>
      cases h
      exact .client hclient hstate
    · cases h

theorem exists_of_tendermintClient {client : ClientId} {state : LightClient}
    {error : ProviderError} (h : tendermintClient client state = .error error) :
    ∃ name, state.clientType = .other name ∧ error = .invalidClientType client name := by
  rw [tendermintClient] at h
  split at h
  · cases h
  · next name htype =>
    cases h
    exact ⟨name, htype, rfl⟩

theorem mismatch_of_clientMatches {claimed : ChainId} {registered : Option ClientId}
    {actual : ClientId} {state : LightClient} {error : ProviderError}
    (h : clientMatches claimed registered actual state = .error error) :
    (registered ≠ some actual ∨ state.chain ≠ claimed) ∧
      error = .clientMismatch claimed registered actual := by
  rw [clientMatches] at h
  split at h
  · cases h
  · next hmismatch =>
    cases h
    exact ⟨not_and_or.1 hmismatch, rfl⟩

theorem exists_of_noValidatingChannel {chain : ChainId} {candidate : ChannelId}
    {bound : Option (ChannelId × ChannelStatus)} {error : ProviderError}
    (h : noValidatingChannel chain candidate bound = .error error) :
    ∃ existing, bound = some (existing, .validating) ∧ existing ≠ candidate ∧
      error = .duplicateRegistration chain existing candidate := by
  rw [noValidatingChannel.eq_def] at h
  split at h
  · next existing =>
    split at h
    · cases h
    · next hother =>
      cases h
      exact ⟨existing, rfl, hother, rfl⟩
  · cases h

theorem refused_of_resolveChain {store : Store} {service : Service} {height : Height}
    {channel : ChannelId} {error : ProviderError} (h : resolveChain service channel = .error error) :
    Call.Refused store ⟨service, .openConfirm height channel⟩ error := by
  rw [resolveChain] at h
  cases hreported : service.lookup.hops service.config.port channel with
  | none =>
    rw [hreported] at h
    cases h
    exact .openConfirm_unknown hreported
  | some hops =>
    rw [hreported] at h
    refine .openConfirm_unresolved hreported ?_
    simp only [bind_eq_error_iff] at h
    rcases h with ⟨⟨⟩⟩ | ⟨_, ⟨⟩, hhop | ⟨hop, hhop, hclient | ⟨_, -, ⟨⟩⟩⟩⟩
    · exact unresolved_of_singleHop hhop
    · obtain rfl := singleHop_eq_ok_iff.1 hhop
      exact unresolved_of_resolveClient hclient

end Handshake

/-! ## The errors of each operation -/

section

variable {store : Store} {service : Service} {height : Height} {channel : ChannelId}

theorem Registry.failsWithin_markInitializing (h : store.WellFormed) :
    (markInitializing channel).FailsWithin store
      (Call.Refused store ⟨service, .openInit channel⟩) := by
  have hrun := run_status (h.sound (.statusOf channel))
  have hstatus := (tells_iff hrun).2 rfl
  refine .bind_of_run hrun ?_
  generalize (store.status? channel).getD .uninitialized = actual at hstatus
  cases actual with
  | uninitialized => exact failsWithin_of_ok rfl
  | initializing => exact failsWithin_fail (.openInit hstatus (by decide))
  | validating => exact failsWithin_fail (.openInit hstatus (by decide))
  | invalid => exact failsWithin_fail (.openInit hstatus (by decide))

theorem Handshake.failsWithin_requireInitializing (h : store.WellFormed) {P : ProviderError → Prop}
    {config : ProviderConfig} (hrefused : config.requireInitializing = true →
      ∀ actual, (Registry.status channel).Tells store actual → actual ≠ .initializing →
        P (.invalidStatus channel .initializing actual)) :
    (requireInitializing config channel).FailsWithin store P := by
  rw [requireInitializing]
  cases hstrict : config.requireInitializing with
  | false => exact failsWithin_of_ok rfl
  | true =>
    have hrun := Registry.run_status (h.sound (.statusOf channel))
    have hstatus := (tells_iff hrun).2 rfl
    refine .bind_of_run hrun ?_
    generalize (store.status? channel).getD .uninitialized = actual at hstatus
    split
    · next hne => exact failsWithin_fail (hrefused hstrict actual hstatus (bne_iff_ne.1 hne))
    · exact failsWithin_of_ok rfl

theorem Handshake.failsWithin_verify (h : store.WellFormed) (hops : List ConnectionId)
    (claimed : ChainId) : (verify service channel hops claimed).FailsWithin store
      (Call.Refused store ⟨service, .openTry channel hops claimed⟩) := by
  have hrequire : ((requireInitializing service.config channel).run store).store = store :=
    store_run_of_reads (within_requireInitializing ..) store
  refine .check (fun error herror => .openTry_unresolved (unresolved_of_singleHop herror)) ?_
  intro hop hhop
  obtain rfl := singleHop_eq_ok_iff.1 hhop
  refine .bind (failsWithin_requireInitializing h fun hstrict actual hstatus hne =>
    .openTry_status hstrict hstatus hne) ?_
  intro _ _
  rw [hrequire]
  refine .check (fun error herror => .openTry_unresolved (unresolved_of_resolveClient herror)) ?_
  rintro ⟨client, state⟩ hresolve
  obtain ⟨hclient, hstate⟩ := resolveClient_eq_ok_iff.1 hresolve
  have hbuilt : service.lookup.BuiltOn [hop] client state := ⟨hop, rfl, hclient, hstate⟩
  refine .check (fun error herror => ?_) fun _ _ => ?_
  · obtain ⟨name, htype, rfl⟩ := exists_of_tendermintClient herror
    exact .openTry_clientType hbuilt htype
  refine .bind_of_run (Registry.run_client? (h.sound (.clientOf claimed))) ?_
  refine .check (fun error herror => ?_) fun _ _ => ?_
  · obtain ⟨hmismatch, rfl⟩ := mismatch_of_clientMatches herror
    exact .openTry_mismatch hbuilt ((Registry.tells_client h.typed).2 rfl) hmismatch
  refine .bind_of_run (run_boundChannel h.typed) ?_
  refine .check (fun error herror => ?_) fun _ _ => failsWithin_of_ok rfl
  obtain ⟨existing, hbound, hother, rfl⟩ := exists_of_noValidatingChannel herror
  obtain ⟨hchannel, hstatus⟩ := boundChannel?_eq_validating_iff.1 hbound
  exact .openTry_duplicate ((Registry.tells_channelOf h.typed).2 hchannel)
    ((Registry.tells_validating h.typed).2 hstatus) hother

theorem Service.failsWithin_openConfirm (h : store.WellFormed) :
    (service.openConfirm height channel).FailsWithin store
      (Call.Refused store ⟨service, .openConfirm height channel⟩) := by
  refine .bind (fun error herror => ?_) fun _ _ => failsWithin_of_ok rfl
  cases hresolve : Handshake.resolveChain service channel with
  | error other =>
    rw [Handshake.run_bind_of_unresolved hresolve] at herror
    cases herror
    exact Handshake.refused_of_resolveChain hresolve
  | ok chain =>
    obtain ⟨outputs, ⟨-, hrun⟩ | ⟨-, hrun⟩ | ⟨existing, hfound, hne, hrun⟩⟩ :=
      Handshake.run_bind_cases hresolve height h.typed
    · rw [hrun] at herror
      cases herror
    · rw [hrun] at herror
      cases herror
    · rw [hrun] at herror
      cases herror
      exact .openConfirm_duplicate hresolve ((Registry.tells_channelOf h.typed).2 hfound) hne

theorem Service.failsWithin_unbondingCreated (h : store.WellFormed) {notice : UnbondingNotice}
    (hshort : (service.unbondingCreated notice).Short store) :
    (service.unbondingCreated notice).FailsWithin store
      (Call.Refused store ⟨service, .unbondingCreated notice⟩) := by
  have hreport := run_report (.unbondingAnnounced notice.id notice.validator
    notice.creationHeight) store
  refine .bind_of_run hreport ?_
  rcases Unbonding.create_cases notice.id h (hshort.after hreport) with
    ⟨hheld, hrun⟩ | ⟨-, hok, -⟩
  · intro error herror
    rw [hrun] at herror
    cases herror
    refine .unbondingCreated ((tells_iff (Unbonding.run_mayComplete (h.sound _))).2 ?_)
    exact Option.isNone_eq_false_iff.2 hheld
  · exact failsWithin_of_ok hok

theorem Service.failsWithin_acknowledgePacket (h : store.WellFormed) (hmirrored : store.Mirrored)
    {ack : MaturityAcknowledgement}
    (hshort : (service.acknowledgePacket channel ack).Short store) :
    (service.acknowledgePacket channel ack).FailsWithin store
      (Call.Refused store ⟨service, .acknowledgePacket channel ack⟩) := by
  rcases service.acknowledgePacket_cases channel ack h hmirrored.backed hmirrored.bucket_ne_nil
    hshort with ⟨hfree, hrun⟩ | ⟨_, -, hok, -⟩
  · intro error herror
    rw [hrun] at herror
    cases herror
    exact .acknowledgePacket ((Registry.tells_chainOf h.typed).2 hfree)
  · exact failsWithin_of_ok hok

theorem Service.failsWithin_endBlock (h : store.Typed) :
    (service.endBlock height).FailsWithin store
      (Call.Refused store ⟨service, .endBlock height⟩) := by
  intro error herror
  obtain ⟨outputs, hrun⟩ := service.endBlock_cases height h
  rw [hrun] at herror
  cases hnext : Versioning.next store.version with
  | ok following =>
    rw [hnext] at herror
    cases herror
  | error other =>
    rw [hnext] at herror
    cases herror
    obtain ⟨rfl, hlast⟩ := Versioning.next_eq_error_iff.1 hnext
    have hcurrent := Versioning.run_current (h.sound .version fun _ => trivial)
    exact .endBlock ((tells_iff hcurrent).2 rfl) (Nat.le_of_eq hlast.symm)

theorem SlashQueue.failsWithin_sweep (h : store.WellFormed) {P : ProviderError → Prop} :
    sweep.FailsWithin store P := by
  obtain ⟨after, outputs, hrun, -⟩ := run_sweep h
  exact failsWithin_of_ok (congrArg Outcome.result hrun)

/-- The registration of a listed client can be read in any store. -/
theorem Registry.failsWithin_registrationOfEntry (chain : ChainId) (client : ClientId)
    {P : ProviderError → Prop} : (registrationOfEntry ((Key.clientOf chain).bytes,
      (Key.clientOf chain).encode client)).FailsWithin store P := by
  have hchain : Stored.nameOfKey .clientOfChain "chain id" (Key.clientOf chain).bytes =
      .ok chain.name := Stored.nameOfKey_key .clientOfChain "chain id" chain.name
  have hclient : Stored.nameOfValue "client id" ((Key.clientOf chain).encode client) =
      .ok client.name := Stored.nameOfValue_encode "client id" client.name
  rw [registrationOfEntry]
  simp only [hchain, hclient]
  exact failsWithin_of_ok rfl

theorem Registry.failsWithin_registrations (h : store.WellFormed) {P : ProviderError → Prop} :
    registrations.FailsWithin store P := by
  refine .bind_of_run (run_scan _ store) (.mapM (fun entry hentry before => ?_) store)
  obtain ⟨key, hfamily, client, -, rfl⟩ := h.listed hentry
  cases key <;> cases hfamily
  exact failsWithin_registrationOfEntry _ client

theorem Service.failsWithin_exportGenesis (h : store.WellFormed) {P : ProviderError → Prop} :
    service.exportGenesis.FailsWithin store P := by
  refine .bind_of_run (Registry.run_port? (h.sound .port)) ?_
  refine .bind_of_run (Versioning.run_current (h.sound .version)) ?_
  exact .bind (Registry.failsWithin_registrations h) fun _ _ => failsWithin_of_ok rfl

end

/-! ## Every reachable state -/

/-- A call on a store comes to a value or to one of its refusals. -/
structure Call.Orderly (call : Call) (store : Store) : Prop where
  /-- Every error is in the table. -/
  refused : ∀ error, (call.transition.run store).result = .error error →
    call.Refused store error
  /-- No error halts the host. -/
  not_fatal : ∀ error, (call.transition.run store).result = .error error → error.isFatal = false
  /-- No error is a fault of the store. -/
  no_fault : ∀ fault, (call.transition.run store).result ≠ .error (.store fault)
  /-- An operation that the table has no row for succeeds. -/
  succeeds : call.operation.NeverRefused → ∃ answer, call.transition.Tells store answer

theorem Call.failsWithin {call : Call} {store : Store} (h : store.WellFormed)
    (hmirrored : store.Mirrored) (hshort : call.transition.Short store) :
    call.transition.FailsWithin store (call.Refused store) := by
  obtain ⟨service, operation⟩ := call
  cases operation with
  | initGenesis genesis =>
    obtain ⟨outputs, hrun⟩ := service.run_initGenesis genesis store
    exact failsWithin_of_ok (congrArg Outcome.result hrun)
  | exportGenesis => exact Service.failsWithin_exportGenesis h
  | registerConsumer registration =>
    exact failsWithin_of_ok (congrArg Outcome.result (Registry.run_register registration store))
  | openInit channel => exact Registry.failsWithin_markInitializing h
  | openTry channel hops claimed => exact Handshake.failsWithin_verify h hops claimed
  | openConfirm height channel => exact Service.failsWithin_openConfirm h
  | unbondingCreated notice => exact Service.failsWithin_unbondingCreated h hshort
  | beforeUnbondingCompletes id =>
    exact failsWithin_of_ok (congrArg Outcome.result (Unbonding.run_mayComplete (h.sound _)))
  | acknowledgePacket channel ack =>
    exact Service.failsWithin_acknowledgePacket h hmirrored hshort
  | endBlock height => exact Service.failsWithin_endBlock h.typed
  | sweep => exact SlashQueue.failsWithin_sweep h

/-- **No call halts the host.**  After every run, whatever is asked of whatever provider comes to a
value or to one of the refusals in the table; none of the checks of what is stored fails, and the
store itself gives no error. -/
theorem Call.orderly_after {run : Run Call} {call : Call}
    (hshort : History.Short (run.committed ++ [call])) : call.Orderly run.after := by
  obtain ⟨hpast, hcall⟩ := History.short_snoc.1 hshort
  rw [run.after_eq]
  have hrefused := call.failsWithin (History.wellFormed_after hpast)
    (History.mirrored_after hpast) hcall
  refine ⟨hrefused, ?_, ?_, ?_⟩
  · intro error herror
    exact (hrefused error herror).not_fatal.1
  · intro fault herror
    exact (hrefused _ herror).not_fatal.2 fault rfl
  · intro hnever
    cases hresult : (call.transition.run run.committed.after).result with
    | ok answer => exact ⟨answer, hresult⟩
    | error error => exact absurd hnever (hrefused error hresult).not_neverRefused

/-- An unbonding is announced again while one of two chains has yet to acknowledge. -/
theorem Call.orderly_after_halfAcknowledged :
    let again : Call := ⟨Unbonding.twoChains, .unbondingCreated ⟨7, "validator", 9⟩⟩
    History.Short (Unbonding.halfAcknowledged.committed ++ [again]) ∧
      again.Orderly Unbonding.halfAcknowledged.after ∧
      (again.transition.run Unbonding.halfAcknowledged.after).result =
        .error (.duplicateEntry 7) := by
  intro again
  have hshort : History.Short (Unbonding.halfAcknowledged.committed ++ [again]) := by
    decide +kernel
  exact ⟨hshort, orderly_after hshort, by decide +kernel⟩

end SharedSecurity
