import Mathlib.Logic.Unique
import SharedSecurity.Proofs.Binding

/-!
# What a handshake verifies

The two stages of a handshake look at different things.  The try stage is given connections and a
chain by its caller and checks the light client; the confirm stage goes by what the transport
reports and checks only whether the chain is free.  The try stage is stopped by a channel that
validates, the confirm stage by any channel that is bound.

* `Lookup.BuiltOn` — the light client under the single connection of a channel.
* `Handshake.tells_verify`, `Handshake.tells_bind` — when each stage succeeds, in terms of the
  records in the store.
* `Handshake.StagesAgree`, `Handshake.stagesAgree_after` — **the stages agree**, after every run:
  what the try stage accepts the confirm stage binds.
-/

set_option autoImplicit false
namespace SharedSecurity

open Transition

/-- A channel over the given connections runs over a single one, which is built on the client. -/
def Lookup.BuiltOn (lookup : Lookup) (hops : List ConnectionId) (client : ClientId)
    (state : LightClient) : Prop :=
  ∃ hop, hops = [hop] ∧ lookup.client hop = some client ∧ lookup.clientState client = some state

/-- Connections lead to one client. -/
theorem Lookup.BuiltOn.unique {lookup : Lookup} {hops : List ConnectionId}
    {client other : ClientId} {state otherState : LightClient}
    (h : lookup.BuiltOn hops client state) (hother : lookup.BuiltOn hops other otherState) :
    client = other ∧ state = otherState := by
  obtain ⟨hop, rfl, hclient, hstate⟩ := h
  obtain ⟨_, ⟨⟩, hother, hotherState⟩ := hother
  rw [hclient] at hother
  cases hother
  rw [hstate] at hotherState
  exact ⟨rfl, Option.some.inj hotherState⟩

namespace Handshake

/-! ## When a rule is met -/

theorem singleHop_eq_ok_iff {hops : List ConnectionId} {hop : ConnectionId} :
    singleHop hops = .ok hop ↔ hops = [hop] := by
  rcases hops with _ | ⟨first, _ | ⟨second, rest⟩⟩ <;> simp [singleHop]

theorem resolveClient_eq_ok_iff {lookup : Lookup} {hop : ConnectionId} {client : ClientId}
    {state : LightClient} : resolveClient lookup hop = .ok (client, state) ↔
      lookup.client hop = some client ∧ lookup.clientState client = some state := by
  rw [resolveClient]
  cases hclient : lookup.client hop with
  | none => simp
  | some found =>
    constructor
    · intro h
      cases hstate : lookup.clientState found with
      | none => simp [hstate] at h
      | some other =>
        simp only [hstate, Except.ok.injEq, Prod.mk.injEq] at h
        obtain ⟨rfl, rfl⟩ := h
        exact ⟨rfl, hstate⟩
    · rintro ⟨⟨⟩, hstate⟩
      simp [hstate]

theorem tendermintClient_eq_ok_iff {client : ClientId} {state : LightClient} :
    tendermintClient client state = .ok () ↔ state.clientType = .tendermint := by
  rw [tendermintClient]
  cases state.clientType <;> simp

theorem clientMatches_eq_ok_iff {claimed : ChainId} {registered : Option ClientId}
    {actual : ClientId} {state : LightClient} :
    clientMatches claimed registered actual state = .ok () ↔
      registered = some actual ∧ state.chain = claimed := by
  rw [clientMatches]
  split <;> simp_all

theorem noValidatingChannel_eq_ok_iff {chain : ChainId} {candidate : ChannelId}
    {bound : Option (ChannelId × ChannelStatus)} :
    noValidatingChannel chain candidate bound = .ok () ↔
      ∀ existing, bound = some (existing, .validating) → existing = candidate := by
  rw [noValidatingChannel.eq_def]
  split
  · split <;> simp_all
  · simp_all

theorem resolveChain_eq_ok_iff {service : Service} {channel : ChannelId} {chain : ChainId} :
    resolveChain service channel = .ok chain ↔ ∃ hops client state,
      service.lookup.hops service.config.port channel = some hops ∧
        service.lookup.BuiltOn hops client state ∧ state.chain = chain := by
  rw [resolveChain]
  cases service.lookup.hops service.config.port channel with
  | none =>
    constructor
    · intro h
      cases h
    · rintro ⟨_, _, _, ⟨⟩, _⟩
  | some hops =>
    simp only [bind_eq_ok_iff, singleHop_eq_ok_iff, Prod.exists, resolveClient_eq_ok_iff,
      Except.ok.injEq]
    constructor
    · rintro ⟨_, rfl, hop, rfl, client, state, ⟨hclient, hstate⟩, rfl⟩
      exact ⟨_, client, state, rfl, ⟨hop, rfl, hclient, hstate⟩, rfl⟩
    · rintro ⟨_, client, state, ⟨⟩, ⟨hop, rfl, hclient, hstate⟩, rfl⟩
      exact ⟨_, rfl, hop, rfl, client, state, ⟨hclient, hstate⟩, rfl⟩

/-! ## When a stage succeeds -/

variable {service : Service} {store : Store} {height : Height} {channel : ChannelId}
  {hops : List ConnectionId} {claimed chain : ChainId}

theorem tells_requireInitializing (h : store.Typed) {config : ProviderConfig} :
    (requireInitializing config channel).Tells store () ↔
      (config.requireInitializing = true → store.status? channel = some .initializing) := by
  have hstatus := Registry.run_status (h.sound (.statusOf channel) fun _ => trivial)
  rw [requireInitializing, ← Registry.tells_status h (by decide), tells_iff hstatus]
  cases config.requireInitializing with
  | false => exact ⟨fun _ => nofun, fun _ => rfl⟩
  | true =>
    rw [if_pos rfl, tells_bind_of_run hstatus]
    cases (store.status? channel).getD .uninitialized <;> simp [Tells, fail, run]

/-- The channel recorded for a chain, with that channel's status. -/
def boundChannel? (store : Store) (chain : ChainId) : Option (ChannelId × ChannelStatus) :=
  (store.channel? chain).map fun existing =>
    (existing, (store.status? existing).getD .uninitialized)

theorem run_boundChannel (h : store.Typed) :
    (boundChannel chain).run store = ⟨.ok (boundChannel? store chain), store, []⟩ := by
  rw [boundChannel, boundChannel?,
    run_bind_ok (Registry.run_channelOf (h.sound (.channelOf chain) fun _ => trivial))]
  cases store.channel? chain with
  | none => rfl
  | some existing =>
    rw [Outcome.prepend_nil]
    show (Registry.status existing >>= fun status => pure (some (existing, status))).run store = _
    rw [run_bind_ok (Registry.run_status (h.sound (.statusOf existing) fun _ => trivial))]
    rfl

theorem boundChannel?_eq_validating_iff {existing : ChannelId} :
    boundChannel? store chain = some (existing, .validating) ↔
      store.channel? chain = some existing ∧ store.status? existing = some .validating := by
  rw [boundChannel?, Option.map_eq_some_iff]
  constructor
  · rintro ⟨found, hchannel, hpair⟩
    obtain ⟨rfl, hstatus⟩ := Prod.mk.inj hpair
    refine ⟨hchannel, ?_⟩
    cases hrecorded : store.status? found with
    | none =>
      rw [hrecorded] at hstatus
      cases hstatus
    | some recorded =>
      rw [hrecorded] at hstatus
      exact congrArg some hstatus
  · rintro ⟨hchannel, hstatus⟩
    exact ⟨existing, hchannel, by rw [hstatus]; rfl⟩

/-- **When the try stage succeeds**, by the records in the store. -/
theorem tells_verify (h : store.Typed) :
    (verify service channel hops claimed).Tells store () ↔
      ∃ client state, service.lookup.BuiltOn hops client state ∧
        (service.config.requireInitializing = true → store.status? channel = some .initializing) ∧
        state.clientType = .tendermint ∧ state.chain = claimed ∧
        store.client? claimed = some client ∧
        ∀ existing, store.channel? claimed = some existing →
          store.status? existing = some .validating → existing = channel := by
  have hrequire : ((requireInitializing service.config channel).run store).store = store :=
    store_run_of_reads (within_requireInitializing ..) store
  have hclient := Registry.run_client? (h.sound (.clientOf claimed) fun _ => trivial)
  have hbound : (boundChannel claimed).run store = _ := run_boundChannel h
  simp only [verify, tells_ofExcept_bind, tells_bind (t := requireInitializing ..), hrequire,
    Unique.exists_iff, PUnit.default_eq_unit, Prod.exists, tells_requireInitializing h,
    tells_bind_of_run hclient, tells_bind_of_run hbound, tells_iff (run_report _ _),
    singleHop_eq_ok_iff, resolveClient_eq_ok_iff, tendermintClient_eq_ok_iff,
    clientMatches_eq_ok_iff,
    noValidatingChannel_eq_ok_iff, boundChannel?_eq_validating_iff]
  constructor
  · rintro ⟨hop, rfl, hstrict, client, state, ⟨hconnection, hstate⟩, htype, ⟨hregistered, htracks⟩,
      hfree, -⟩
    exact ⟨client, state, ⟨hop, rfl, hconnection, hstate⟩, hstrict, htype, htracks, hregistered,
      fun existing hchannel hstatus => hfree existing ⟨hchannel, hstatus⟩⟩
  · rintro ⟨client, state, ⟨hop, rfl, hconnection, hstate⟩, hstrict, htype, htracks, hregistered,
      hfree⟩
    exact ⟨hop, rfl, hstrict, client, state, ⟨hconnection, hstate⟩, htype, ⟨hregistered, htracks⟩,
      fun existing hbound => hfree existing hbound.1 hbound.2, trivial⟩

/-- **When the confirm stage succeeds**: with the chain the channel resolves to, if that chain is
free or has the channel already. -/
theorem tells_bind (h : store.Typed) :
    (bind service height channel).Tells store chain ↔
      resolveChain service channel = .ok chain ∧
        ∀ existing, store.channel? chain = some existing → existing = channel := by
  cases hresolve : resolveChain service channel with
  | error error =>
    rw [Tells, run_bind_of_unresolved hresolve]
    constructor
    · intro htells
      cases htells
    · rintro ⟨hsame, -⟩
      cases hsame
  | ok resolved =>
    obtain ⟨outputs, ⟨hfree, hrun⟩ | ⟨hsame, hrun⟩ | ⟨existing, hfound, hne, hrun⟩⟩ :=
      run_bind_cases hresolve height h
    · rw [tells_iff hrun, Except.ok.injEq]
      refine ⟨fun hchain => ⟨hchain, fun existing hexisting => ?_⟩, And.left⟩
      rw [← hchain, hfree] at hexisting
      cases hexisting
    · rw [tells_iff hrun, Except.ok.injEq]
      refine ⟨fun hchain => ⟨hchain, fun existing hexisting => ?_⟩, And.left⟩
      rw [← hchain, hsame] at hexisting
      exact (Option.some.inj hexisting).symm
    · rw [Tells, hrun]
      constructor
      · intro htells
        cases htells
      · rintro ⟨hsame, hfree⟩
        cases hsame
        exact absurd (hfree existing hfound) hne

/-- After a confirm that succeeds, the chain and the channel are bound to each other. -/
theorem bound_of_tells_bind (h : store.Bound service) (htyped : store.Typed)
    (hbind : (bind service height channel).Tells store chain) :
    ((bind service height channel).run store).store.channel? chain = some channel ∧
      ((bind service height channel).run store).store.chain? channel = some chain := by
  obtain ⟨hresolve, hheld⟩ := (tells_bind htyped).1 hbind
  obtain ⟨outputs, ⟨-, hrun⟩ | ⟨hsame, hrun⟩ | ⟨existing, hfound, hne, -⟩⟩ :=
    run_bind_cases hresolve height htyped
  · rw [hrun]
    exact ⟨by rw [Store.channel?_bind, if_pos rfl], by rw [Store.chain?_bind, if_pos rfl]⟩
  · rw [hrun]
    exact ⟨hsame, (h.mirror _ _).1 hsame⟩
  · exact absurd (hheld existing hfound) hne

/-! ## The stages compared -/

/-- The connections of a channel lead to a chain's own light client: the channel is built on a
Tendermint client, and that client is the one registered for the chain. -/
def Identified (lookup : Lookup) (hops : List ConnectionId) (chain : ChainId) (store : Store) :
    Prop :=
  ∃ client state, lookup.BuiltOn hops client state ∧ state.clientType = .tendermint ∧
    (Registry.client? chain).Tells store (some client)

/-- The two stages agree about a channel and a chain that is claimed for it. -/
structure StagesAgree (service : Service) (height : Height) (channel : ChannelId)
    (hops : List ConnectionId) (claimed : ChainId) (store : Store) : Prop where
  /-- The try stage accepts exactly if the confirm stage would bind the claimed chain, the channel
  leads to the client of that chain, and under a strict configuration it is initializing. -/
  accepts_iff : (verify service channel hops claimed).Tells store () ↔
    (bind service height channel).Tells store claimed ∧
      Identified service.lookup hops claimed store ∧
      (service.config.requireInitializing = true →
        (Registry.status channel).Tells store .initializing)
  /-- What the try stage accepts the confirm stage does not refuse. -/
  confirms : (verify service channel hops claimed).Tells store () →
    (service.openConfirm height channel).Tells store ()
  /-- After the confirm the claimed chain has the channel. -/
  binds_channel : (verify service channel hops claimed).Tells store () →
    (Registry.channelOf claimed).Tells
      (Call.after ⟨service, .openConfirm height channel⟩ store) (some channel)
  /-- After the confirm the channel has the claimed chain. -/
  binds_chain : (verify service channel hops claimed).Tells store () →
    (Registry.chainOf channel).Tells
      (Call.after ⟨service, .openConfirm height channel⟩ store) (some claimed)

theorem tells_openConfirm : (service.openConfirm height channel).Tells store () ↔
    ∃ chain, (bind service height channel).Tells store chain := by
  rw [Service.openConfirm, Transition.tells_bind]
  exact exists_congr fun chain => and_iff_left rfl

/-- Where the bindings are in order, the stages agree about every channel whose connections the
transport reports. -/
theorem stagesAgree_of_bound (h : store.Bound service) (htyped : store.Typed)
    (hreported : service.lookup.hops service.config.port channel = some hops) :
    StagesAgree service height channel hops claimed store := by
  have haccepts : (verify service channel hops claimed).Tells store () ↔
      (bind service height channel).Tells store claimed ∧
        Identified service.lookup hops claimed store ∧
        (service.config.requireInitializing = true →
          (Registry.status channel).Tells store .initializing) := by
    simp only [tells_verify htyped, tells_bind htyped, resolveChain_eq_ok_iff, Identified,
      Registry.tells_client htyped, Registry.tells_status htyped (nofun :
        ChannelStatus.initializing ≠ .uninitialized)]
    constructor
    · rintro ⟨client, state, hbuilt, hstrict, htype, htracks, hregistered, hfree⟩
      -- whatever channel the chain has validates, so it is the only one the try stage lets pass
      refine ⟨⟨⟨hops, client, state, hreported, hbuilt, htracks⟩, fun existing hexisting => ?_⟩,
        ⟨client, state, hbuilt, htype, hregistered⟩, hstrict⟩
      exact hfree existing hexisting (h.status?_eq_validating hexisting)
    · rintro ⟨⟨⟨_, _, _, hsame, hbuilt, htracks⟩, hfree⟩,
        ⟨client, state, hidentified, htype, hregistered⟩, hstrict⟩
      rw [hreported] at hsame
      cases hsame
      obtain ⟨rfl, rfl⟩ := hbuilt.unique hidentified
      exact ⟨_, _, hbuilt, hstrict, htype, htracks, hregistered,
        fun existing hexisting _ => hfree existing hexisting⟩
  have hbinds (haccepted : (verify service channel hops claimed).Tells store ()) :=
    bound_of_tells_bind h htyped (haccepts.1 haccepted).1
  have hafter : (Call.after ⟨service, .openConfirm height channel⟩ store).Typed :=
    typed_run (service.perform_within (.openConfirm height channel)) htyped
  refine ⟨haccepts, ?_, ?_, ?_⟩
  · intro haccepted
    exact tells_openConfirm.2 ⟨claimed, (haccepts.1 haccepted).1⟩
  · intro haccepted
    rw [Registry.tells_channelOf hafter, Call.after_openConfirm]
    exact (hbinds haccepted).1
  · intro haccepted
    rw [Registry.tells_chainOf hafter, Call.after_openConfirm]
    exact (hbinds haccepted).2

/-- **The try stage and the confirm stage agree**, after every run of calls on one transport.  They
test different things in a different order: the try stage is stopped only by another channel that
validates, the confirm stage by any other channel of the chain.  They agree since a channel of a
chain always validates. -/
theorem stagesAgree_after {service : Service} {run : Run Call}
    (hshared : ∀ call ∈ run.committed, call.service.SharesTransport service) {channel : ChannelId}
    {hops : List ConnectionId}
    (hreported : service.lookup.hops service.config.port channel = some hops) (height : Height)
    (claimed : ChainId) : StagesAgree service height channel hops claimed run.after := by
  have hbound : run.committed.after.Bound service := History.bound_after hshared
  rw [run.after_eq]
  exact stagesAgree_of_bound hbound (History.typed_after run.committed) hreported

/-- A provider with a strict configuration, on a transport with one channel. -/
def strictProvider : Service where
  config := { requireInitializing := true }
  lookup := Lookup.empty.withPath .provider ⟨"ch-0"⟩ ⟨"conn-0"⟩ ⟨"client-0"⟩ ⟨"foo"⟩
  closer := .accepting
  capabilities := .granting []

/-- The chain at the other end is approved and the handshake begins. -/
def opening : Run Call :=
  [.direct ⟨strictProvider, .registerConsumer ⟨⟨"foo"⟩, ⟨"client-0"⟩, []⟩⟩,
    .direct ⟨strictProvider, .openInit ⟨"ch-0"⟩⟩]

/-- The strict provider accepts the opened channel, and confirms it for the chain. -/
theorem stagesAgree_after_opening :
    (∀ call ∈ opening.committed, call.service.SharesTransport strictProvider) ∧
      strictProvider.lookup.hops .provider ⟨"ch-0"⟩ = some [⟨"conn-0"⟩] ∧
      StagesAgree strictProvider 5 ⟨"ch-0"⟩ [⟨"conn-0"⟩] ⟨"foo"⟩ opening.after ∧
      (verify strictProvider ⟨"ch-0"⟩ [⟨"conn-0"⟩] ⟨"foo"⟩).Tells opening.after () := by
  have hshared : ∀ call ∈ opening.committed, call.service.SharesTransport strictProvider := by
    apply Run.forall_committed
    simp [opening]
  have hreported : strictProvider.lookup.hops .provider ⟨"ch-0"⟩ = some [⟨"conn-0"⟩] := by
    decide
  exact ⟨hshared, hreported, stagesAgree_after hshared hreported 5 ⟨"foo"⟩, by decide +kernel⟩

end Handshake
end SharedSecurity
