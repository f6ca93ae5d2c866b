import SharedSecurity.Proofs.Identity
import SharedSecurity.Proofs.Queues
import SharedSecurity.Proofs.Release

/-!
# What a binding outlasts

What the transport reports may change from one call to the next.  The confirm stage looks up whether
the chain that it finds has a channel, and not whether the channel has a chain.  So the chain's side
of a binding is written once and for all, while the channel's side is written again when the
transport has come to resolve the channel to another chain that is free.

* `Call.bindings_after` — all that a call can do to bindings, whatever the transport reports.
* `Call.Rebinds` — the one way in which a channel comes to another chain.
* `Handshake.LastingBinding`, `Handshake.lastingBinding_after` — **what stays of a binding**: the
  chain's channel and height for good, the channel's chain exactly until it is bound again.
* `Handshake.rebound` — the least run in which a channel comes to serve another chain.
-/

set_option autoImplicit false
namespace SharedSecurity

open Transition

/-! ## What calls do to bindings -/

/-- Two stores have the same records of which chain and channel are bound, and since when. -/
structure Store.SameBindings (before after : Store) : Prop where
  /-- Chains have the same channels. -/
  channel : ∀ chain, after.channel? chain = before.channel? chain
  /-- Channels have the same chains. -/
  chain : ∀ channel, after.chain? channel = before.chain? channel
  /-- Chains are bound since the same heights. -/
  height : ∀ chain, after.boundAt? chain = before.boundAt? chain

theorem Store.sameBindings_mark (store : Store) (channel : ChannelId) (status : ChannelStatus) :
    store.SameBindings (store.mark channel status) where
  channel := channel?_mark store channel status
  chain := chain?_mark store channel status
  height := boundAt?_mark store channel status

namespace Call

variable {store : Store} {chain : ChainId} {channel : ChannelId}

/-- A call that starts or confirms no handshake leaves bindings alone. -/
theorem sameBindings_of_other (call : Call) (store : Store)
    (hinit : ∀ channel, call.operation ≠ .openInit channel)
    (hconfirm : ∀ height channel, call.operation ≠ .openConfirm height channel) :
    store.SameBindings (call.after store) := by
  have hkeep (key : Key) (hkey : key.IsBinding) :
      (call.after store).record? key = store.record? key :=
    record?_after_of_isBinding key hkey store hinit hconfirm
  exact ⟨fun chain => hkeep (.channelOf chain) trivial,
    fun channel => hkeep (.chainOf channel) trivial,
    fun chain => hkeep (.initHeightOf chain) trivial⟩

/-- **All that a call can do to bindings.**  It leaves them alone, or confirms a channel for the
free chain that the channel resolves to at the time. -/
theorem bindings_after (call : Call) (h : store.Typed) :
    store.SameBindings (call.after store) ∨ ∃ service height channel chain,
      call = ⟨service, .openConfirm height channel⟩ ∧
      Handshake.resolveChain service channel = .ok chain ∧ store.channel? chain = none ∧
      call.after store = store.bind chain channel height := by
  obtain ⟨service, operation⟩ := call
  cases operation with
  | openInit channel =>
    left
    show store.SameBindings ((Registry.markInitializing channel).run store).store
    rcases Registry.store_markInitializing_cases channel h with hsame | ⟨-, hmark⟩
    · rw [hsame]
      exact ⟨fun _ => rfl, fun _ => rfl, fun _ => rfl⟩
    · rw [hmark]
      exact store.sameBindings_mark channel .initializing
  | openConfirm height channel =>
    rw [after_openConfirm]
    rcases Handshake.store_bind_cases service height channel h with
      hsame | ⟨chain, hresolve, ⟨_, -, -, hmark⟩ | ⟨hfree, hbind⟩⟩
    · rw [hsame]
      exact .inl ⟨fun _ => rfl, fun _ => rfl, fun _ => rfl⟩
    · rw [hmark]
      exact .inl (store.sameBindings_mark channel .invalid)
    · exact .inr ⟨service, height, channel, chain, rfl, hresolve, hfree, hbind⟩
  | _ => exact .inl (sameBindings_of_other _ store (fun _ => nofun) fun _ _ => nofun)

/-- The call confirms the channel and newly binds it to a chain other than the given one. -/
def Rebinds (call : Call) (store : Store) (channel : ChannelId) (chain : ChainId) : Prop :=
  ∃ service height other, call = ⟨service, .openConfirm height channel⟩ ∧ other ≠ chain ∧
    Handshake.NewlyBinds service height channel other store

/-- The height since which a chain is bound stays. -/
theorem boundAt?_after (htyped : store.Typed) (call : Call)
    (h : store.channel? chain = some channel) :
    (call.after store).boundAt? chain = store.boundAt? chain := by
  rcases call.bindings_after htyped with hsame | ⟨_, _, _, other, -, -, hfree, hbind⟩
  · exact hsame.height chain
  · rw [hbind, Store.boundAt?_bind, if_neg]
    rintro rfl
    rw [hfree] at h
    cases h

/-- A channel of a chain stays with that chain unless the call binds it to another. -/
theorem chain?_after_iff (htyped : store.Typed) (call : Call)
    (h : store.channel? chain = some channel) :
    (call.after store).chain? channel = some chain ↔
      store.chain? channel = some chain ∧ ¬ call.Rebinds store channel chain := by
  rcases call.bindings_after htyped with
    hsame | ⟨service, height, confirmed, other, rfl, hresolve, hfree, hbind⟩
  · rw [hsame.chain]
    refine (and_iff_left ?_).symm
    rintro ⟨service, height, other, rfl, -, hnew⟩
    have hafter : (Call.after ⟨service, .openConfirm height channel⟩ store).Typed :=
      typed_run (service.perform_within (.openConfirm height channel)) htyped
    have hbound := hnew.bound
    rw [Registry.tells_channelOf hafter, hsame.channel] at hbound
    exact hnew.unbound ((Registry.tells_channelOf htyped).2 hbound)
  · -- a chain that is bound now was free, so it is not the one that has the channel
    have hother : other ≠ chain := by
      rintro rfl
      rw [hfree] at h
      cases h
    rw [hbind, Store.chain?_bind]
    by_cases hchannel : channel = confirmed
    · subst hchannel
      have hrebinds : Rebinds ⟨service, .openConfirm height channel⟩ store channel chain :=
        ⟨service, height, other, rfl, hother,
          (Handshake.newlyBinds_iff htyped).2 ⟨hresolve, hfree⟩⟩
      simp [hother, hrebinds]
    · rw [if_neg hchannel]
      refine (and_iff_left ?_).symm
      rintro ⟨_, _, _, heq, -⟩
      cases heq
      exact hchannel rfl

end Call

/-! ## What stays of a binding -/

namespace History

variable {past : History} {chain : ChainId} {channel : ChannelId} {height : Height}

/-- The records of a binding after later calls. -/
theorem binding_afterFrom (later : History)
    (hchannel : (after past).channel? chain = some channel)
    (hheight : (after past).boundAt? chain = some height)
    (hchain : (after past).chain? channel = some chain) :
    (after (past ++ later)).channel? chain = some channel ∧
      (after (past ++ later)).boundAt? chain = some height ∧
      ((after (past ++ later)).chain? channel = some chain ↔
        ¬ Happens (fun call store => call.Rebinds store channel chain) past later) := by
  induction later using induction with
  | nil =>
    rw [List.append_nil]
    exact ⟨hchannel, hheight, iff_of_true hchain not_happens_nil⟩
  | snoc later call ih =>
    obtain ⟨hstays, hsince, hserves⟩ := ih
    have htyped := typed_after (past ++ later)
    rw [← List.append_assoc, after_snoc]
    refine ⟨call.channel?_after htyped hstays, ?_, ?_⟩
    · rw [call.boundAt?_after htyped hstays, hsince]
    · rw [call.chain?_after_iff htyped hstays, happens_snoc, not_or, hserves]

end History

namespace Handshake

/-- What is left of a binding in a store, when calls were made after those up to its confirm. -/
structure LastingBinding (chain : ChainId) (channel : ChannelId) (height : Height)
    (confirmed later : History) (store : Store) : Prop where
  /-- The chain still has the channel. -/
  channelOf : (Registry.channelOf chain).Tells store (some channel)
  /-- The chain is still bound since that height. -/
  initHeight : (Registry.initHeight chain).Tells store height
  /-- The channel has the chain exactly if no confirm since has newly bound it to another. -/
  chainOf : (Registry.chainOf channel).Tells store (some chain) ↔
    ¬ History.Happens (fun call store => call.Rebinds store channel chain) confirmed later
  /-- Such a confirm takes a transport that resolves the channel to the other chain. -/
  rebinding : History.Happens (fun call store => call.Rebinds store channel chain) confirmed later →
    ∃ service height other, ⟨service, .openConfirm height channel⟩ ∈ later ∧ other ≠ chain ∧
      resolveChain service channel = .ok other
  /-- As long as there is none, an acknowledgement on the channel is credited to the chain. -/
  credited : ¬ History.Happens (fun call store => call.Rebinds store channel chain) confirmed
      later → ∀ (provider : Service) (ack : MaturityAcknowledgement),
    (provider.acknowledgePacket channel ack).run store = (ack.creditTo chain).run store

/-- A confirm that newly binds a chain records the binding. -/
theorem NewlyBinds.after_eq {service : Service} {height : Height} {channel : ChannelId}
    {chain : ChainId} {store : Store} (h : NewlyBinds service height channel chain store)
    (htyped : store.Typed) : Call.after ⟨service, .openConfirm height channel⟩ store =
      store.bind chain channel height := by
  obtain ⟨hresolve, hfree⟩ := (newlyBinds_iff htyped).1 h
  rw [Call.after_openConfirm]
  obtain ⟨outputs, ⟨-, hbind⟩ | ⟨hsame, -⟩ | ⟨existing, hfound, -⟩⟩ :=
    run_bind_cases hresolve height htyped
  · rw [hbind]
  · rw [hfree] at hsame
    cases hsame
  · rw [hfree] at hfound
    cases hfound

/-- **What stays of a binding**, after every run, whatever the transport reports from one call to
the next. -/
theorem lastingBinding_after {run : Run Call} {past later : History} {service : Service}
    {height : Height} {channel : ChannelId} {chain : ChainId}
    (hrun : run.committed = past ++ ⟨service, .openConfirm height channel⟩ :: later)
    (hnew : NewlyBinds service height channel chain past.after) :
    LastingBinding chain channel height (past ++ [⟨service, .openConfirm height channel⟩]) later
      run.after := by
  have hconfirm : History.after (past ++ [⟨service, .openConfirm height channel⟩]) =
      past.after.bind chain channel height := by
    rw [History.after_snoc, hnew.after_eq (History.typed_after past)]
  obtain ⟨hchannel, hheight, hchain⟩ := History.binding_afterFrom later
    (by rw [hconfirm, Store.channel?_bind, if_pos rfl])
    (by rw [hconfirm, Store.boundAt?_bind, if_pos rfl])
    (by rw [hconfirm, Store.chain?_bind, if_pos rfl])
  have hcommitted : run.committed =
      past ++ [⟨service, .openConfirm height channel⟩] ++ later := by
    rw [hrun]
    exact List.append_cons ..
  rw [run.after_eq, hcommitted]
  have hafter := History.typed_after
    (past ++ [⟨service, .openConfirm height channel⟩] ++ later)
  refine ⟨(Registry.tells_channelOf hafter).2 hchannel, ?_,
    (Registry.tells_chainOf hafter).trans hchain, ?_, fun hnever provider ack => ?_⟩
  · have hword := (Registry.tells_initHeight hafter).2 hheight
    exact Transition.tells_bind.2 ⟨some height, hword, rfl⟩
  · rintro ⟨before, _, others, rfl, service, height, other, rfl, hother, hrebinds⟩
    obtain ⟨hresolve, -⟩ := (newlyBinds_iff (History.typed_after _)).1 hrebinds
    exact ⟨service, height, other, by simp, hother, hresolve⟩
  · exact provider.run_acknowledgePacket ack hafter (hchain.2 hnever)

/-- A transport that has come to resolve a channel to another chain than
`Registry.racedProvider` does, and that knows a second channel to that chain. -/
def revisedProvider : Service where
  lookup := (Lookup.empty.withPath .provider ⟨"ch-0"⟩ ⟨"conn-0"⟩ ⟨"client-0"⟩ ⟨"bar"⟩).withPath
    .provider ⟨"ch-1"⟩ ⟨"conn-1"⟩ ⟨"client-0"⟩ ⟨"bar"⟩
  closer := .accepting
  capabilities := .granting []

/-- A channel is bound.  Later, when it resolves to another chain, that chain is bound to the second
channel, and then the first is confirmed again. -/
def contested : Run Call :=
  [.direct ⟨Registry.racedProvider, .openConfirm 5 ⟨"ch-0"⟩⟩,
    .direct ⟨revisedProvider, .openConfirm 6 ⟨"ch-1"⟩⟩,
    .direct ⟨revisedProvider, .openConfirm 7 ⟨"ch-0"⟩⟩]

/-- The second confirm of the channel is refused.  It marks the channel, but the binding stays. -/
theorem lastingBinding_after_contested :
    contested.committed = [] ++ ⟨Registry.racedProvider, .openConfirm 5 ⟨"ch-0"⟩⟩ ::
        [⟨revisedProvider, .openConfirm 6 ⟨"ch-1"⟩⟩, ⟨revisedProvider, .openConfirm 7 ⟨"ch-0"⟩⟩] ∧
      NewlyBinds Registry.racedProvider 5 ⟨"ch-0"⟩ ⟨"foo"⟩ (History.after []) ∧
      LastingBinding ⟨"foo"⟩ ⟨"ch-0"⟩ 5 [⟨Registry.racedProvider, .openConfirm 5 ⟨"ch-0"⟩⟩]
        [⟨revisedProvider, .openConfirm 6 ⟨"ch-1"⟩⟩, ⟨revisedProvider, .openConfirm 7 ⟨"ch-0"⟩⟩]
        contested.after ∧
      (Registry.chainOf ⟨"ch-0"⟩).Tells contested.after (some ⟨"foo"⟩) ∧
      (Registry.status ⟨"ch-0"⟩).Tells contested.after .invalid := by
  have hcommitted : contested.committed =
      [] ++ ⟨Registry.racedProvider, .openConfirm 5 ⟨"ch-0"⟩⟩ ::
        [⟨revisedProvider, .openConfirm 6 ⟨"ch-1"⟩⟩,
          ⟨revisedProvider, .openConfirm 7 ⟨"ch-0"⟩⟩] := rfl
  have hnew : NewlyBinds Registry.racedProvider 5 ⟨"ch-0"⟩ ⟨"foo"⟩ (History.after []) := by
    rw [newlyBinds_iff (History.typed_after _)]
    exact ⟨by decide +kernel, by decide +kernel⟩
  refine ⟨hcommitted, hnew, lastingBinding_after hcommitted hnew, ?_, ?_⟩ <;> decide +kernel

/-- A channel is bound, and when it resolves to another chain that is free it is confirmed again. -/
def rebound : Run Call :=
  [.direct ⟨Registry.racedProvider, .openConfirm 5 ⟨"ch-0"⟩⟩,
    .direct ⟨revisedProvider, .openConfirm 6 ⟨"ch-0"⟩⟩]

/-- **A channel that is bound again serves the other chain.**  The first chain still has the
channel, but the channel has the second one, which acknowledgements on it are now credited to. -/
theorem rebound_serves_another :
    rebound.committed = [] ++ ⟨Registry.racedProvider, .openConfirm 5 ⟨"ch-0"⟩⟩ ::
        [⟨revisedProvider, .openConfirm 6 ⟨"ch-0"⟩⟩] ∧
      NewlyBinds Registry.racedProvider 5 ⟨"ch-0"⟩ ⟨"foo"⟩ (History.after []) ∧
      (Registry.channelOf ⟨"foo"⟩).Tells rebound.after (some ⟨"ch-0"⟩) ∧
      (Registry.channelOf ⟨"bar"⟩).Tells rebound.after (some ⟨"ch-0"⟩) ∧
      ¬ (Registry.chainOf ⟨"ch-0"⟩).Tells rebound.after (some ⟨"foo"⟩) ∧
      (Registry.chainOf ⟨"ch-0"⟩).Tells rebound.after (some ⟨"bar"⟩) ∧
      ∀ (provider : Service) (ack : MaturityAcknowledgement),
        (provider.acknowledgePacket ⟨"ch-0"⟩ ack).run rebound.after =
          (ack.creditTo ⟨"bar"⟩).run rebound.after := by
  have hnew : NewlyBinds Registry.racedProvider 5 ⟨"ch-0"⟩ ⟨"foo"⟩ (History.after []) := by
    rw [newlyBinds_iff (History.typed_after _)]
    exact ⟨by decide +kernel, by decide +kernel⟩
  have hother : (Registry.chainOf ⟨"ch-0"⟩).Tells rebound.after (some ⟨"bar"⟩) := by decide +kernel
  refine ⟨rfl, hnew, by decide +kernel, by decide +kernel, ?_, hother, fun provider ack => ?_⟩
  · intro hsame
    rw [Tells, hother] at hsame
    exact absurd hsame (by decide)
  · have htyped : rebound.after.Typed := by
      rw [rebound.after_eq]
      exact History.typed_after _
    exact provider.run_acknowledgePacket ack htyped ((Registry.tells_chainOf htyped).1 hother)

end Handshake
end SharedSecurity
