import SharedSecurity.Proofs.Binding

/-!
# The lifecycle of a channel

Only the start of a handshake looks at the status that it overwrites.  The confirm stage records a
new one whatever the old one was.  That a channel that lost its race never validates later, and that
one that validates is never marked invalid, follows from the binding invariant: an invalid channel
resolves to a chain that another channel has, and a channel that validates is its chain's own.

* `ChannelStatus.Advances` — a status is kept, or a later stage is reached.
* `Store.Bound.advances_call`, `History.advances_afterFrom` — no channel ever goes back, over one
  call and over a history.
* `Registry.Lifecycle`, `Registry.lifecycle_after` — **the lifecycle after every run**, in what the
  registry itself answers.
-/

set_option autoImplicit false
namespace SharedSecurity

open Transition

/-! ## Stages -/

namespace ChannelStatus

/-- How far a channel has come.  Validating and invalid channels have come to an end. -/
def stage : ChannelStatus → Nat
  | uninitialized => 0
  | initializing => 1
  | validating => 2
  | invalid => 2

/-- A status is kept, or a later stage is reached. -/
def Advances (before after : ChannelStatus) : Prop := after = before ∨ before.stage < after.stage

theorem Advances.refl (status : ChannelStatus) : status.Advances status := .inl rfl

theorem Advances.trans {first second third : ChannelStatus} (h : first.Advances second)
    (hnext : second.Advances third) : first.Advances third := by
  rcases h with rfl | hlt
  · exact hnext
  · rcases hnext with rfl | hlater
    · exact .inr hlt
    · exact .inr (Nat.lt_trans hlt hlater)

theorem Advances.antisymm {before after : ChannelStatus} (h : before.Advances after)
    (hback : after.Advances before) : after = before := by
  rcases h with heq | hlt
  · exact heq
  · rcases hback with heq | hgt
    · exact heq.symm
    · exact absurd hgt (Nat.lt_asymm hlt)

/-- Reaching a later stage is a move that a handshake may make. -/
theorem Advances.canMoveTo {before after : ChannelStatus} (h : before.Advances after) :
    after = before ∨ before.canMoveTo after = true := by
  refine h.imp_right fun hlt => ?_
  cases before <;> cases after <;> first | rfl | exact absurd hlt (by decide)

/-- A channel that validates or is invalid has nowhere to go. -/
theorem Advances.eq_of_ended {before after : ChannelStatus} (h : before.Advances after)
    (hended : before = .validating ∨ before = .invalid) : after = before := by
  refine h.resolve_right fun hlt => ?_
  have hlast : after.stage ≤ 2 := by cases after <;> decide
  rcases hended with rfl | rfl <;> exact absurd hlt (Nat.not_lt.2 hlast)

end ChannelStatus

/-! ## One call -/

namespace Store

/-- The status of a channel; uninitialized if none is recorded. -/
def statusOf (store : Store) (channel : ChannelId) : ChannelStatus :=
  (store.status? channel).getD .uninitialized

theorem statusOf_mark (store : Store) (channel : ChannelId) (status : ChannelStatus)
    (other : ChannelId) : (store.mark channel status).statusOf other =
      if other = channel then status else store.statusOf other := by
  rw [statusOf, status?_mark]
  split <;> rfl

theorem statusOf_bind (store : Store) (chain : ChainId) (channel : ChannelId) (height : Height)
    (other : ChannelId) : (store.bind chain channel height).statusOf other =
      if other = channel then .validating else store.statusOf other := by
  rw [statusOf, status?_bind]
  split <;> rfl

/-- A status other than the default is one that is recorded. -/
theorem status?_of_statusOf {store : Store} {channel : ChannelId} {status : ChannelStatus}
    (hstatus : status ≠ .uninitialized) (h : store.statusOf channel = status) :
    store.status? channel = some status := by
  rw [statusOf] at h
  cases hrecord : store.status? channel with
  | none =>
    rw [hrecord] at h
    exact absurd h.symm hstatus
  | some recorded =>
    rw [hrecord] at h
    exact congrArg some h

/-- A channel that is given a status advances if that one does, and so does every other. -/
theorem advances_mark {store : Store} {channel : ChannelId} {status : ChannelStatus}
    (h : (store.statusOf channel).Advances status) (other : ChannelId) :
    (store.statusOf other).Advances ((store.mark channel status).statusOf other) := by
  rw [statusOf_mark]
  split
  · next hother => exact hother ▸ h
  · exact .refl _

/-- A call that starts or confirms no handshake leaves every channel its status. -/
theorem advances_of_other (call : Call) (store : Store)
    (hinit : ∀ channel, call.operation ≠ .openInit channel)
    (hconfirm : ∀ height channel, call.operation ≠ .openConfirm height channel)
    (channel : ChannelId) :
    (store.statusOf channel).Advances ((call.after store).statusOf channel) := by
  have hkeep : (call.after store).status? channel = store.status? channel :=
    call.record?_after_of_isBinding (.statusOf channel) trivial store hinit hconfirm
  rw [statusOf, statusOf, hkeep]
  exact .refl _

namespace Bound

variable {service : Service} {store : Store} {chain : ChainId} {channel : ChannelId}

/-- A channel whose chain has another channel can be retired. -/
theorem advances_invalid (h : store.Bound service) (hfree : store.chain? channel = none) :
    (store.statusOf channel).Advances .invalid := by
  have hnot : store.statusOf channel ≠ .validating := by
    intro hstatus
    have hbound := (h.validating channel).1 (status?_of_statusOf nofun hstatus)
    rw [hfree] at hbound
    cases hbound
  cases hstatus : store.statusOf channel with
  | validating => exact absurd hstatus hnot
  | invalid => exact .refl _
  | uninitialized => exact .inr (by decide)
  | initializing => exact .inr (by decide)

/-- A channel that resolves to a chain without a channel can be bound. -/
theorem advances_validating (h : store.Bound service)
    (hresolve : Handshake.resolveChain service channel = .ok chain)
    (hfree : store.channel? chain = none) : (store.statusOf channel).Advances .validating := by
  -- an invalid channel would have lost the chain to a channel that the chain has
  have hnot : store.statusOf channel ≠ .invalid := by
    intro hstatus
    obtain ⟨lost, winner, hlost, hwinner, -⟩ :=
      h.invalid channel (status?_of_statusOf nofun hstatus)
    rw [hresolve] at hlost
    obtain rfl := Except.ok.inj hlost
    rw [hfree] at hwinner
    cases hwinner
  cases hstatus : store.statusOf channel with
  | validating => exact .refl _
  | invalid => exact absurd hstatus hnot
  | uninitialized => exact .inr (by decide)
  | initializing => exact .inr (by decide)

/-- **No call takes a channel back.** -/
theorem advances_call (h : store.Bound service) (htyped : store.Typed) (call : Call)
    (hcall : call.service.SharesTransport service) (channel : ChannelId) :
    (store.statusOf channel).Advances ((call.after store).statusOf channel) := by
  obtain ⟨provider, operation⟩ := call
  cases operation with
  | openInit opened =>
    show (store.statusOf channel).Advances
      (((Registry.markInitializing opened).run store).store.statusOf channel)
    rcases Registry.store_markInitializing_cases opened htyped with hsame | ⟨hstatus, hmark⟩
    · rw [hsame]
      exact .refl _
    · rw [hmark]
      have hfirst : store.statusOf opened = .uninitialized := hstatus
      refine advances_mark ?_ channel
      rw [hfirst]
      exact .inr (by decide)
  | openConfirm height opened =>
    rw [Call.after_openConfirm]
    rcases Handshake.store_bind_cases provider height opened htyped with
      hsame | ⟨chain, hresolve, ⟨existing, hexisting, hne, hmark⟩ | ⟨hfree, hbind⟩⟩
    · rw [hsame]
      exact .refl _
    · rw [hcall.resolveChain_eq] at hresolve
      have hlost : store.channel? chain ≠ some opened := by
        rw [hexisting]
        exact fun heq => hne (Option.some.inj heq)
      rw [hmark]
      exact advances_mark (h.advances_invalid (h.chain?_eq_none hresolve hlost)) channel
    · rw [hcall.resolveChain_eq] at hresolve
      rw [hbind, statusOf_bind]
      split
      · next hopened => exact hopened ▸ h.advances_validating hresolve hfree
      · exact .refl _
  | _ =>
    refine advances_of_other _ store ?_ ?_ channel
    · exact fun _ => nofun
    · exact fun _ _ => nofun

end Bound
end Store

/-! ## Histories -/

/-- **No channel ever goes back**, over any calls on one transport. -/
theorem History.advances_afterFrom {service : Service} {past later : History}
    (h : ∀ call ∈ past ++ later, call.service.SharesTransport service) (channel : ChannelId) :
    ((after past).statusOf channel).Advances ((after (past ++ later)).statusOf channel) := by
  induction later using induction with
  | nil =>
    rw [List.append_nil]
    exact .refl _
  | snoc later call ih =>
    rw [← List.append_assoc] at h ⊢
    obtain ⟨hbefore, hcall⟩ := List.forall_mem_append.1 h
    have hstep := (bound_after hbefore).advances_call (typed_after _) call
      (hcall call (List.mem_singleton_self call)) channel
    rw [after_snoc]
    exact (ih hbefore).trans hstep

/-! ## What the registry answers -/

namespace Registry

/-- How the status that the registry answers for a channel develops while calls are made. -/
structure Lifecycle (history : History) : Prop where
  /-- The status of every channel can be read at any time. -/
  reads : ∀ past : History, past <+: history → ∀ channel,
    ∃ found, (status channel).Tells past.after found
  /-- Every call leaves the status of a channel as it was or makes a move that is allowed. -/
  moves : ∀ (past : History) (call : Call), past ++ [call] <+: history → ∀ channel before after,
    (status channel).Tells past.after before →
      (status channel).Tells (call.after past.after) after →
        after = before ∨ before.canMoveTo after = true
  /-- A channel that validates or is invalid stays so. -/
  ended : ∀ past later : History, past ++ later <+: history → ∀ channel found,
    found = .validating ∨ found = .invalid → (status channel).Tells past.after found →
      (status channel).Tells (History.after (past ++ later)) found
  /-- A channel that has left a status does not come back to it. -/
  left : ∀ past between later : History, past ++ between ++ later <+: history → ∀ channel found,
    (status channel).Tells past.after found →
      ¬ (status channel).Tells (History.after (past ++ between)) found →
        ¬ (status channel).Tells (History.after (past ++ between ++ later)) found

theorem tells_statusOf {store : Store} (h : store.Typed) {channel : ChannelId}
    {found : ChannelStatus} :
    (status channel).Tells store found ↔ store.statusOf channel = found :=
  tells_iff (run_status (h.sound (.statusOf channel) fun _ => trivial))

/-- The lifecycle over calls on one transport. -/
theorem lifecycle_of_shared {service : Service} {history : History}
    (h : ∀ call ∈ history, call.service.SharesTransport service) : Lifecycle history := by
  have hadvances {past later : History} (hbegins : past ++ later <+: history)
      (channel : ChannelId) : (past.after.statusOf channel).Advances
        ((History.after (past ++ later)).statusOf channel) :=
    History.advances_afterFrom (fun call hcall => h call (hbegins.subset hcall)) channel
  constructor
  case reads =>
    intro past _ channel
    exact ⟨_, (tells_statusOf (History.typed_after past)).2 rfl⟩
  case moves =>
    intro past call hbegins channel before after hbefore hafter
    rw [← History.after_snoc, tells_statusOf (History.typed_after _)] at hafter
    rw [tells_statusOf (History.typed_after past)] at hbefore
    rw [← hbefore, ← hafter]
    exact (hadvances hbegins channel).canMoveTo
  case ended =>
    intro past later hbegins channel found hended htells
    rw [tells_statusOf (History.typed_after _)] at htells ⊢
    subst htells
    exact (hadvances hbegins channel).eq_of_ended hended
  case left =>
    intro past between later hbegins channel found htells hleft hback
    rw [tells_statusOf (History.typed_after _)] at htells hleft hback
    subst htells
    have hshort : past ++ between <+: history := (List.prefix_append _ later).trans hbegins
    have hreturn := hadvances hbegins channel
    rw [hback] at hreturn
    exact hleft ((hadvances hshort channel).antisymm hreturn)

/-- **The lifecycle of a channel**, over every run of calls on one transport and every call of the
turn after it, direct or in a transaction, committed or not, successful or failing. -/
theorem lifecycle_after {service : Service} {run : Run Call} {turn : Turn Call}
    (h : ∀ call ∈ run.committed ++ turn.made run.after, call.service.SharesTransport service) :
    Lifecycle (run.committed ++ turn.made run.after) :=
  lifecycle_of_shared h

/-- Two channels to one chain begin their handshakes, and one of them is confirmed. -/
def handshakes : Run Call :=
  [.direct ⟨racedProvider, .openInit ⟨"ch-0"⟩⟩,
    .execute ⟨.make ⟨racedProvider, .openInit ⟨"ch-1"⟩⟩ fun _ => .stop (.ok ()), fun _ _ => none⟩,
    .direct ⟨racedProvider, .openConfirm 5 ⟨"ch-0"⟩⟩]

/-- The other is confirmed and begins once more, in a transaction that is given up. -/
def lateConfirm : Turn Call :=
  .execute ⟨.make ⟨racedProvider, .openConfirm 6 ⟨"ch-1"⟩⟩ fun _ =>
    .make ⟨racedProvider, .openInit ⟨"ch-1"⟩⟩ fun _ =>
      .stop (.error (.channelNotFound ⟨"ch-1"⟩)), fun _ _ => none⟩

/-- In that transaction the other channel is invalid to the end. -/
theorem lifecycle_after_handshakes :
    (∀ call ∈ handshakes.committed ++ lateConfirm.made handshakes.after,
        call.service.SharesTransport racedProvider) ∧
      Lifecycle (handshakes.committed ++ lateConfirm.made handshakes.after) ∧
      (status ⟨"ch-1"⟩).Tells handshakes.after .initializing ∧
      (status ⟨"ch-1"⟩).Tells
        (History.after (handshakes.committed ++ lateConfirm.made handshakes.after)) .invalid ∧
      (status ⟨"ch-0"⟩).Tells (History.after
        (handshakes.committed ++ lateConfirm.made handshakes.after)) .validating := by
  have hshared : ∀ call ∈ handshakes.committed ++ lateConfirm.made handshakes.after,
      call.service.SharesTransport racedProvider := by
    have hmade : lateConfirm.All fun call => call.service.SharesTransport racedProvider := by
      simp [lateConfirm]
    refine List.forall_mem_append.2 ⟨Run.forall_committed ?_,
      List.forall_mem_map.2 (hmade.performed _)⟩
    simp [handshakes]
  refine ⟨hshared, lifecycle_after hshared, ?_, ?_, ?_⟩ <;> decide +kernel

end Registry
end SharedSecurity
