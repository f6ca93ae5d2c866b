import SharedSecurity.Proofs.Verification

/-!
# Whose channel is bound

The confirm stage binds a channel to the chain that the light client under it tracks.  That the
client is the one approved for the chain is looked at in the try stage only.  Nothing makes a host
run that stage first, and what it has found may be out of date at the confirm, when another client
has been approved in between.

* `Handshake.NewlyBinds` — a confirm that binds a chain to a channel it did not have before, and
  `Handshake.newlyBinds_iff`, when that is so.
* `Registry.run_register`, `Service.run_initGenesis_eq` — what an approval does to a store.
* `History.client?_afterFrom` — a client stays approved until another is.
* `Handshake.BoundIdentity`, `Handshake.boundIdentity_after` — **what is known of a channel that is
  newly bound**, without and with an earlier try stage.
-/

set_option autoImplicit false
namespace SharedSecurity

open Transition

/-! ## New bindings -/

namespace Handshake

/-- A confirm gives a chain a channel that it did not have. -/
structure NewlyBinds (service : Service) (height : Height) (channel : ChannelId) (chain : ChainId)
    (store : Store) : Prop where
  /-- Before the confirm the chain does not have the channel. -/
  unbound : ¬ (Registry.channelOf chain).Tells store (some channel)
  /-- After the confirm it does. -/
  bound : (Registry.channelOf chain).Tells
    (Call.after ⟨service, .openConfirm height channel⟩ store) (some channel)

/-- A chain that a channel is newly bound to is the one the channel resolves to, and was free. -/
theorem newlyBinds_iff {service : Service} {height : Height} {channel : ChannelId}
    {chain : ChainId} {store : Store} (h : store.Typed) :
    NewlyBinds service height channel chain store ↔
      resolveChain service channel = .ok chain ∧ store.channel? chain = none := by
  have hafter : (Call.after ⟨service, .openConfirm height channel⟩ store).Typed :=
    typed_run (service.perform_within (.openConfirm height channel)) h
  have hiff : NewlyBinds service height channel chain store ↔
      ¬ store.channel? chain = some channel ∧
        ((bind service height channel).run store).store.channel? chain = some channel := by
    rw [← Call.after_openConfirm, ← Registry.tells_channelOf h, ← Registry.tells_channelOf hafter]
    exact ⟨fun hnew => ⟨hnew.unbound, hnew.bound⟩, fun ⟨hunbound, hbound⟩ => ⟨hunbound, hbound⟩⟩
  rw [hiff]
  constructor
  · rintro ⟨hunbound, hbound⟩
    rcases store_bind_cases service height channel h with
      hsame | ⟨resolved, hresolve, ⟨existing, -, -, hmark⟩ | ⟨hfree, hbind⟩⟩
    · rw [hsame] at hbound
      exact absurd hbound hunbound
    · rw [hmark, Store.channel?_mark] at hbound
      exact absurd hbound hunbound
    · rw [hbind, Store.channel?_bind] at hbound
      split at hbound
      · next hchain => exact hchain ▸ ⟨hresolve, hfree⟩
      · exact absurd hbound hunbound
  · rintro ⟨hresolve, hfree⟩
    obtain ⟨outputs, ⟨-, hrun⟩ | ⟨hsame, -⟩ | ⟨existing, hfound, -, -⟩⟩ :=
      run_bind_cases hresolve height h
    · rw [hrun, hfree]
      exact ⟨nofun, by rw [Store.channel?_bind, if_pos rfl]⟩
    · rw [hfree] at hsame
      cases hsame
    · rw [hfree] at hfound
      cases hfound

end Handshake

/-! ## Approved clients -/

/-- The approvals that an operation brings. -/
def Operation.approvals : Operation → List ConsumerRegistration
  | .initGenesis genesis => genesis.consumers
  | .registerConsumer registration => [registration]
  | _ => []

/-- The store after a consumer is approved. -/
def Store.approve (store : Store) (registration : ConsumerRegistration) : Store :=
  let approved := store.hold (.clientOf registration.chain) registration.client
  if registration.genesis.isEmpty then approved
  else approved.hold (.genesisOf registration.chain) registration.genesis

theorem Store.client?_approve (store : Store) (registration : ConsumerRegistration)
    (chain : ChainId) : (store.approve registration).client? chain =
      if chain = registration.chain then some registration.client else store.client? chain := by
  have hclient : (store.hold (.clientOf registration.chain) registration.client).client? chain =
      if chain = registration.chain then some registration.client else store.client? chain := by
    by_cases hchain : chain = registration.chain <;>
      simp [client?, record?, get?_hold, Key.decode?, Key.encode, hchain]
  have hother : Key.clientOf chain ≠ .genesisOf registration.chain := by simp
  rw [approve, ← hclient]
  split
  · rfl
  · exact record?_hold_of_ne _ hother registration.genesis

/-- An approval always succeeds. -/
theorem Registry.run_register (registration : ConsumerRegistration) (store : Store) :
    (register registration).run store = ⟨.ok (), store.approve registration,
      [.log (.consumerRegistered registration.chain registration.client)]⟩ := by
  have hclient : (setClient registration.chain registration.client).run store =
      ⟨.ok (), store.hold (.clientOf registration.chain) registration.client, []⟩ := rfl
  rw [register, run_bind_ok hclient, Store.approve]
  cases registration.genesis.isEmpty <;> rfl

theorem Registry.run_registerAll (registrations : List ConsumerRegistration) (store : Store) :
    (registrations.forM register).run store = ⟨.ok (), registrations.foldl Store.approve store,
      registrations.map fun registration =>
        .log (.consumerRegistered registration.chain registration.client)⟩ := by
  induction registrations generalizing store with
  | nil => rfl
  | cons registration rest ih =>
    show (register registration >>= fun _ => rest.forM register).run store = _
    rw [run_bind_ok (run_register registration store), ih]
    rfl

/-- What is given out when a genesis is loaded. -/
def Service.loading (service : Service) (genesis : ProviderGenesis) : List Output :=
  (if genesis.port ≠ service.config.port then
    [.log (.genesisPortDiffers genesis.port service.config.port)] else []) ++
  .measure (.version genesis.version) ::
  ((genesis.consumers.map fun registration =>
    .log (.consumerRegistered registration.chain registration.client)) ++
  [.log (.genesisLoaded genesis.port genesis.version genesis.consumers.length)])

/-- **Loading a genesis** always succeeds. -/
theorem Service.run_initGenesis_eq (service : Service) (genesis : ProviderGenesis) (store : Store) :
    (service.initGenesis genesis).run store =
      ⟨.ok (), genesis.consumers.foldl Store.approve
        ((store.hold .port genesis.port).hold .version genesis.version),
        service.loading genesis⟩ := by
  have hport (before : Store) : (Registry.setPort genesis.port).run before =
      ⟨.ok (), before.hold .port genesis.port, []⟩ := rfl
  have hversion (before : Store) : (Versioning.set genesis.version).run before =
      ⟨.ok (), before.hold .version genesis.version, [.measure (.version genesis.version)]⟩ := rfl
  have hconsumers := Registry.run_registerAll genesis.consumers
    ((store.hold .port genesis.port).hold .version genesis.version)
  rw [initGenesis, loading]
  split
  · rw [run_bind_ok (run_report _ store), run_bind_ok (hport _), run_bind_ok (hversion _),
      run_bind_ok hconsumers]
    rfl
  · rw [run_bind_ok (hport _), run_bind_ok (hversion _), run_bind_ok hconsumers]
    rfl

theorem Service.run_initGenesis (service : Service) (genesis : ProviderGenesis) (store : Store) :
    ∃ outputs, (service.initGenesis genesis).run store =
      ⟨.ok (), genesis.consumers.foldl Store.approve
        ((store.hold .port genesis.port).hold .version genesis.version), outputs⟩ :=
  ⟨_, service.run_initGenesis_eq genesis store⟩

/-- A client stays approved over approvals of the same client. -/
theorem Store.client?_foldl_approve {chain : ChainId} {client : ClientId}
    {registrations : List ConsumerRegistration}
    (hsame : ∀ registration ∈ registrations, registration.chain = chain →
      registration.client = client) {store : Store} (h : store.client? chain = some client) :
    (registrations.foldl approve store).client? chain = some client := by
  induction registrations generalizing store with
  | nil => exact h
  | cons registration rest ih =>
    obtain ⟨hfirst, hrest⟩ := List.forall_mem_cons.1 hsame
    refine ih hrest ?_
    rw [client?_approve]
    split
    · next hchain => rw [hfirst hchain.symm]
    · exact h

/-- A call that approves no other client for a chain leaves the chain its client. -/
theorem Call.client?_after {call : Call} {chain : ChainId} {client : ClientId}
    (hsame : ∀ registration ∈ call.operation.approvals, registration.chain = chain →
      registration.client = client) {store : Store} (h : store.client? chain = some client) :
    (call.after store).client? chain = some client := by
  obtain ⟨service, operation⟩ := call
  have hframe (hkey : ¬ operation.footprint (.clientOf chain)) :
      (Call.after ⟨service, operation⟩ store).client? chain = some client := by
    rw [← h]
    exact Call.record?_after ⟨service, operation⟩ hkey store
  cases operation with
  | initGenesis genesis =>
    obtain ⟨outputs, hrun⟩ := service.run_initGenesis genesis store
    show ((service.initGenesis genesis).run store).store.client? chain = _
    rw [hrun]
    refine Store.client?_foldl_approve hsame ?_
    have hport := Store.record?_hold_of_ne store (nofun : Key.clientOf chain ≠ .port) genesis.port
    have hversion := Store.record?_hold_of_ne (store.hold .port genesis.port)
      (nofun : Key.clientOf chain ≠ .version) genesis.version
    exact (hversion.trans hport).trans h
  | registerConsumer registration =>
    show ((Registry.register registration).run store).store.client? chain = _
    rw [Registry.run_register]
    have hone : ([registration].foldl Store.approve store).client? chain = some client :=
      Store.client?_foldl_approve hsame h
    exact hone
  | _ => exact hframe (by simp [Operation.footprint])

/-- **A client stays approved until another is.** -/
theorem History.client?_afterFrom {later : History} {chain : ChainId} {client : ClientId}
    (hsame : ∀ call ∈ later, ∀ registration ∈ call.operation.approvals,
      registration.chain = chain → registration.client = client) {store : Store}
    (h : store.client? chain = some client) :
    (afterFrom store later).client? chain = some client := by
  induction later generalizing store with
  | nil => exact h
  | cons call rest ih =>
    obtain ⟨hcall, hrest⟩ := List.forall_mem_cons.1 hsame
    exact ih hrest (Call.client?_after hcall h)

/-! ## What a new binding rests on -/

namespace Handshake

/-- Of all approvals for a chain in the calls, every one is of the client under the connections. -/
def KeepsClient (lookup : Lookup) (hops : List ConnectionId) (chain : ChainId)
    (calls : History) : Prop :=
  ∀ call ∈ calls, ∀ registration ∈ call.operation.approvals, registration.chain = chain →
    ∃ state, lookup.BuiltOn hops registration.client state

/-- What is known, after a history, of a channel that is newly bound to a chain. -/
structure BoundIdentity (service : Service) (channel : ChannelId) (chain : ChainId)
    (history : History) : Prop where
  /-- The transport reports a single connection for the channel, and the light client under it
  tracks the chain. -/
  tracked : ∃ hops client state, service.lookup.hops service.config.port channel = some hops ∧
    service.lookup.BuiltOn hops client state ∧ state.chain = chain
  /-- If the try stage has accepted the channel over those connections, then for this very chain,
  whose approved Tendermint client the channel led to at that time.  It still does if no other
  client was approved for the chain since. -/
  verified : ∀ (past later : History) provider hops claimed,
    history = past ++ ⟨provider, .openTry channel hops claimed⟩ :: later →
    service.lookup.hops service.config.port channel = some hops →
    (verify provider channel hops claimed).Tells past.after () →
    claimed = chain ∧ Identified service.lookup hops chain past.after ∧
      (KeepsClient service.lookup hops chain later →
        Identified service.lookup hops chain history.after)

/-- **What a new binding rests on**, after every run of calls on one transport: the light client
under the channel tracks the chain, and it is the chain's own as far as an earlier try stage has
seen to that. -/
theorem boundIdentity_after {service : Service} {run : Run Call}
    (hshared : ∀ call ∈ run.committed, call.service.SharesTransport service) {height : Height}
    {channel : ChannelId} {chain : ChainId}
    (hnew : NewlyBinds service height channel chain run.after) :
    BoundIdentity service channel chain run.committed := by
  rw [run.after_eq] at hnew
  generalize run.committed = history at hshared hnew ⊢
  obtain ⟨hresolve, -⟩ := (newlyBinds_iff (History.typed_after history)).1 hnew
  obtain ⟨hops, client, state, hreported, hbuilt, htracks⟩ := resolveChain_eq_ok_iff.1 hresolve
  refine ⟨⟨hops, client, state, hreported, hbuilt, htracks⟩, ?_⟩
  rintro past later provider _ claimed rfl hsame htells
  rw [hreported] at hsame
  cases hsame
  have hprovider : provider.lookup = service.lookup :=
    (hshared ⟨provider, .openTry channel hops claimed⟩ (by simp)).lookup
  have htyped := History.typed_after past
  obtain ⟨other, otherState, hverified, -, htype, hclaimed, hregistered, -⟩ :=
    (tells_verify htyped).1 htells
  rw [hprovider] at hverified
  obtain ⟨rfl, rfl⟩ := hbuilt.unique hverified
  have hchain : claimed = chain := hclaimed.symm.trans htracks
  subst hchain
  refine ⟨rfl, ⟨client, state, hbuilt, htype, (Registry.tells_client htyped).2 hregistered⟩, ?_⟩
  intro hkeeps
  refine ⟨client, state, hbuilt, htype, ?_⟩
  rw [Registry.tells_client (History.typed_after _), History.after, History.afterFrom_append]
  refine History.client?_afterFrom ?_ hregistered
  intro call hcall registration hregistration hchain
  -- the try stage itself approves nothing
  rcases List.mem_cons.1 hcall with rfl | hcall
  · cases hregistration
  · obtain ⟨_, hclient⟩ := hkeeps call hcall registration hregistration hchain
    exact (hbuilt.unique hclient).1.symm

/-- The chain's own client is approved twice, with the try stage in between. -/
def tried : Run Call :=
  [.direct ⟨Registry.racedProvider, .registerConsumer ⟨⟨"foo"⟩, ⟨"client-0"⟩, []⟩⟩,
    .direct ⟨Registry.racedProvider, .openTry ⟨"ch-0"⟩ [⟨"conn-0"⟩] ⟨"foo"⟩⟩,
    .direct ⟨Registry.racedProvider, .registerConsumer ⟨⟨"foo"⟩, ⟨"client-0"⟩, [1]⟩⟩]

/-- A confirm after the try stage binds a channel that leads to the approved client. -/
theorem boundIdentity_after_tried :
    (∀ call ∈ tried.committed, call.service.SharesTransport Registry.racedProvider) ∧
      NewlyBinds Registry.racedProvider 5 ⟨"ch-0"⟩ ⟨"foo"⟩ tried.after ∧
      BoundIdentity Registry.racedProvider ⟨"ch-0"⟩ ⟨"foo"⟩ tried.committed ∧
      Identified Registry.racedProvider.lookup [⟨"conn-0"⟩] ⟨"foo"⟩ tried.committed.after := by
  have hcommitted : tried.committed =
      [⟨Registry.racedProvider, .registerConsumer ⟨⟨"foo"⟩, ⟨"client-0"⟩, []⟩⟩] ++
        ⟨Registry.racedProvider, .openTry ⟨"ch-0"⟩ [⟨"conn-0"⟩] ⟨"foo"⟩⟩ ::
        [⟨Registry.racedProvider, .registerConsumer ⟨⟨"foo"⟩, ⟨"client-0"⟩, [1]⟩⟩] := rfl
  have hshared : ∀ call ∈ tried.committed,
      call.service.SharesTransport Registry.racedProvider := by
    apply Run.forall_committed
    simp [tried]
  have hnew : NewlyBinds Registry.racedProvider 5 ⟨"ch-0"⟩ ⟨"foo"⟩ tried.after := by
    rw [tried.after_eq, newlyBinds_iff (History.typed_after _)]
    exact ⟨by decide +kernel, by decide +kernel⟩
  have hidentity := boundIdentity_after hshared hnew
  refine ⟨hshared, hnew, hidentity, ?_⟩
  refine (hidentity.verified _ _ _ _ _ hcommitted (by decide) (by decide +kernel)).2.2 ?_
  simp only [KeepsClient, List.forall_mem_singleton, Operation.approvals]
  exact fun _ => ⟨⟨.tendermint, ⟨"foo"⟩⟩, ⟨"conn-0"⟩, rfl, by decide, by decide⟩

/-- Another client than the one under the channel is approved for the chain. -/
def approvedElsewhere : Run Call :=
  [.direct ⟨Registry.racedProvider, .registerConsumer ⟨⟨"foo"⟩, ⟨"client-1"⟩, []⟩⟩]

/-- Without the try stage a confirm binds a chain to a channel over a client that is not approved
for it, be it a Tendermint client. -/
theorem newlyBinds_unapproved :
    (∀ call ∈ approvedElsewhere.committed, call.service.SharesTransport Registry.racedProvider) ∧
      NewlyBinds Registry.racedProvider 5 ⟨"ch-0"⟩ ⟨"foo"⟩ approvedElsewhere.after ∧
      Registry.racedProvider.lookup.hops .provider ⟨"ch-0"⟩ = some [⟨"conn-0"⟩] ∧
      Registry.racedProvider.lookup.BuiltOn [⟨"conn-0"⟩] ⟨"client-0"⟩ ⟨.tendermint, ⟨"foo"⟩⟩ ∧
      ¬ Identified Registry.racedProvider.lookup [⟨"conn-0"⟩] ⟨"foo"⟩ approvedElsewhere.after := by
  have hshared : ∀ call ∈ approvedElsewhere.committed,
      call.service.SharesTransport Registry.racedProvider := by
    apply Run.forall_committed
    simp [approvedElsewhere]
  have hnew : NewlyBinds Registry.racedProvider 5 ⟨"ch-0"⟩ ⟨"foo"⟩ approvedElsewhere.after := by
    rw [approvedElsewhere.after_eq, newlyBinds_iff (History.typed_after _)]
    exact ⟨by decide +kernel, by decide +kernel⟩
  have hbuilt : Registry.racedProvider.lookup.BuiltOn [⟨"conn-0"⟩] ⟨"client-0"⟩
      ⟨.tendermint, ⟨"foo"⟩⟩ := ⟨⟨"conn-0"⟩, rfl, by decide, by decide⟩
  refine ⟨hshared, hnew, by decide, hbuilt, ?_⟩
  rintro ⟨client, state, hclient, -, hregistered⟩
  obtain ⟨rfl, -⟩ := hbuilt.unique hclient
  have hother : (Registry.client? ⟨"foo"⟩).Tells approvedElsewhere.after
      (some ⟨"client-1"⟩) := by decide +kernel
  rw [Tells, hregistered] at hother
  exact absurd hother (by decide)

end Handshake
end SharedSecurity
