import SharedSecurity.Proofs.Outputs

/-!
# Whom a close request is for

A close request goes out while a confirm is being refused, and cannot be taken back.  The bindings of
a transaction can: if it is given up, the chain that the channel lost is free again.  So a channel for
which a close was requested is the loser of a race, but only the winner's binding being kept makes it
lose for good.

* `Store.Lost` — the channel resolves to a chain that is bound to another.  Calls keep this, and with
  the binding invariant it leaves the channel unbound.
* `Follows.lost_of_due` — **calls that request a close leave the channel lost.**
* `Registry.closedRightly` — what that says of a turn of a run, and of everything after it, and
  `Registry.closed_then_bound`, the race that a transaction given up did not decide.
-/

set_option autoImplicit false
namespace SharedSecurity

open Transition

/-! ## Runs on one transport -/

/-- All that a turn may call is on the transport of a provider. -/
def Turn.On (service : Service) (turn : Turn Call) : Prop :=
  turn.All fun call => call.service.SharesTransport service

/-! ## Lost channels -/

/-- The records of bindings are in order, for the transport of a provider. -/
structure Store.Kept (service : Service) (store : Store) : Prop where
  /-- What is stored are records under their keys. -/
  typed : store.Typed
  /-- The bindings agree. -/
  bound : store.Bound service

/-- Calls on one transport keep the bindings in order. -/
theorem Follows.kept {service : Service} {before after : Store} {performed : List (Performed Call)}
    (h : Follows before performed after) (hbefore : before.Kept service)
    (hcalls : ∀ one ∈ performed, one.step.service.SharesTransport service) :
    after.Kept service := by
  induction h with
  | nil => exact hbefore
  | cons call _ ih =>
    obtain ⟨hcall, hrest⟩ := List.forall_mem_cons.1 hcalls
    have htyped : (call.after _).Typed :=
      typed_run (call.service.perform_within call.operation) hbefore.typed
    exact ih ⟨htyped, hbefore.bound.after_call hbefore.typed call hcall⟩ hrest

theorem Store.kept_empty (service : Service) : Store.Kept service .empty :=
  ⟨Store.typed_empty, .empty⟩

/-- Runs on one transport keep the bindings in order. -/
theorem Run.kept_after {service : Service} {run : Run Call} (h : ∀ turn ∈ run, turn.On service) :
    run.after.Kept service :=
  run.follows.kept (Store.kept_empty service)
    (Run.forall_keptFrom (fun turn hturn => (h turn hturn).kept) .empty)

namespace Store

variable {service : Service} {store : Store} {channel : ChannelId}

/-- The channel resolves to a chain that is bound to another. -/
def Lost (service : Service) (store : Store) (channel : ChannelId) : Prop :=
  ∃ chain winner, Handshake.resolveChain service channel = .ok chain ∧
    store.channel? chain = some winner ∧ winner ≠ channel

/-- A channel that has lost stays lost, as its chain keeps the winner. -/
theorem Lost.follows {after : Store} {performed : List (Performed Call)}
    (h : store.Lost service channel) (htyped : store.Typed)
    (hfollows : Follows store performed after) : after.Lost service channel := by
  obtain ⟨chain, winner, hresolve, hwinner, hne⟩ := h
  rw [hfollows.after_eq]
  exact ⟨chain, winner, hresolve, History.channel?_afterFrom htyped _ hwinner, hne⟩

/-- A channel that has lost is bound to no chain. -/
theorem Lost.chain?_eq_none (h : store.Lost service channel) (hkept : store.Kept service) :
    store.chain? channel = none := by
  obtain ⟨chain, winner, hresolve, hwinner, hne⟩ := h
  refine hkept.bound.chain?_eq_none hresolve ?_
  rw [hwinner]
  exact fun heq => hne (Option.some.inj heq)

/-- A channel that has lost in the end was not bound before, as it would have kept its chain. -/
theorem Lost.chain?_eq_none_before {after : Store} {performed : List (Performed Call)}
    (h : after.Lost service channel) (hkept : store.Kept service)
    (hfollows : Follows store performed after) : store.chain? channel = none := by
  obtain ⟨chain, winner, hresolve, hwinner, hne⟩ := h
  refine hkept.bound.chain?_eq_none hresolve fun hown => hne ?_
  rw [hfollows.after_eq, History.channel?_afterFrom hkept.typed _ hown] at hwinner
  exact (Option.some.inj hwinner).symm

/-- A channel that is bound to no chain has lost if its chain is bound. -/
theorem Kept.lost (hkept : store.Kept service) (hnone : store.chain? channel = none)
    {chain : ChainId} {winner : ChannelId}
    (hresolve : Handshake.resolveChain service channel = .ok chain)
    (hwinner : store.channel? chain = some winner) : store.Lost service channel := by
  refine ⟨chain, winner, hresolve, hwinner, ?_⟩
  rintro rfl
  rw [hkept.bound.mirror, hnone] at hwinner
  cases hwinner

end Store

/-! ## Requested closes -/

/-- A close is due only for a channel that has lost. -/
theorem Call.lost_of_due {service : Service} {store : Store} (htyped : store.Typed) {call : Call}
    (hcall : call.service.SharesTransport service) {port : PortId} {channel : ChannelId}
    (hdue : Call.Settled.due? ⟨call, (call.transition.run store).result⟩ = some (port, channel)) :
    store.Lost service channel := by
  obtain ⟨provider, operation⟩ := call
  cases operation with
  | openConfirm height confirmed =>
    have hconfirm : (Call.transition ⟨provider, .openConfirm height confirmed⟩).run store =
        (Handshake.bind provider height confirmed >>= fun _ => pure ()).run store := rfl
    simp only [Call.Settled.due?, hconfirm] at hdue
    cases hresolve : Handshake.resolveChain provider confirmed with
    | error error =>
      have hdispute := Handshake.undisputed_of_resolveChain hresolve
      rw [run_bind_error (Handshake.run_bind_of_unresolved hresolve height store)] at hdue
      rw [show Handshake.due? provider (.error error : Except ProviderError Unit) = none from
        Handshake.due?_error provider hdispute] at hdue
      cases hdue
    | ok chain =>
      obtain ⟨outputs, ⟨-, hrun⟩ | ⟨-, hrun⟩ | ⟨existing, hexisting, hne, hrun⟩⟩ :=
        Handshake.run_bind_cases hresolve height htyped
      · rw [run_bind_ok hrun] at hdue
        cases hdue
      · rw [run_bind_ok hrun] at hdue
        cases hdue
      · rw [run_bind_error hrun] at hdue
        simp only [Handshake.due?, Handshake.dueFor?] at hdue
        split at hdue
        · cases hdue
          rw [hcall.resolveChain_eq] at hresolve
          exact ⟨chain, existing, hresolve, hexisting, hne⟩
        · cases hdue
  | _ => cases hdue

/-- **Calls that request a close leave the channel lost.** -/
theorem Follows.lost_of_due {service : Service} {before after : Store}
    {performed : List (Performed Call)} (h : Follows before performed after)
    (htyped : before.Typed)
    (hcalls : ∀ one ∈ performed, one.step.service.SharesTransport service)
    {port : PortId} {channel : ChannelId}
    (hdue : (port, channel) ∈ performed.filterMap Performed.due?) :
    after.Lost service channel := by
  induction h with
  | nil => cases hdue
  | cons call hrest ih =>
    obtain ⟨hcall, hothers⟩ := List.forall_mem_cons.1 hcalls
    obtain ⟨one, hone, hsome⟩ := List.mem_filterMap.1 hdue
    rcases List.mem_cons.1 hone with rfl | hlater
    · exact (Call.lost_of_due htyped hcall hsome).follows htyped (.cons call hrest)
    · exact ih (typed_run (call.service.perform_within call.operation) htyped) hothers
        (List.mem_filterMap.2 ⟨one, hlater, hsome⟩)

/-! ## What the registry answers -/

namespace Registry

/-- The registry knows the channel as that of no chain, in either direction. -/
structure Unbound (store : Store) (channel : ChannelId) : Prop where
  /-- The channel has no chain. -/
  chainOf : (chainOf channel).Tells store none
  /-- No chain has the channel. -/
  channelOf : ∀ chain, ¬ (channelOf chain).Tells store (some channel)

/-- The chain that a channel resolves to has a channel. -/
def Taken (service : Service) (store : Store) (channel : ChannelId) : Prop :=
  ∃ chain winner, Handshake.resolveChain service channel = .ok chain ∧
    (Registry.channelOf chain).Tells store (some winner)

theorem unbound_of_chain? {service : Service} {store : Store} {channel : ChannelId}
    (hkept : store.Kept service) (hnone : store.chain? channel = none) : Unbound store channel where
  chainOf := (tells_chainOf hkept.typed).2 hnone
  channelOf chain htells := by
    rw [tells_channelOf hkept.typed, hkept.bound.mirror, hnone] at htells
    cases htells

/-- What a close request for a channel, made in a turn of a run, says of the channel. -/
structure ClosedRightly (service : Service) (before : Run Call) (turn : Turn Call)
    (later : Run Call) (channel : ChannelId) : Prop where
  /-- When the turn begins the channel is not bound. -/
  first : Unbound before.after channel
  /-- Nor is it when the turn is over. -/
  next : Unbound (Run.after (before ++ [turn])) channel
  /-- Nor is it at any later time, if the turn leaves what it did, or if the chain of the channel was
  taken when the turn began. -/
  lasting : turn.Commits before.after ∨ Taken service before.after channel →
    Unbound (Run.after (before ++ turn :: later)) channel

/-- **A close is requested only for a loser.**  In every run on one transport, a channel for which a
turn requests a close is bound neither before nor after the turn; and never again, unless the turn is
a transaction that is given up, and with it the binding of the chain that the channel lost. -/
theorem closedRightly {service : Service} {before later : Run Call} {turn : Turn Call}
    (h : ∀ step ∈ before ++ turn :: later, step.On service) {port : PortId} {channel : ChannelId}
    (hclosed : (port, channel) ∈ Output.closeRequests (turn.outputs before.after)) :
    ClosedRightly service before turn later channel := by
  obtain ⟨hbefore, hrest⟩ := List.forall_mem_append.1 h
  obtain ⟨hturn, hlater⟩ := List.forall_mem_cons.1 hrest
  have hkept := Run.kept_after hbefore
  rw [turn.closeRequests_outputs] at hclosed
  obtain ⟨last, hlast⟩ := turn.exists_follows before.after
  have hlost := hlast.lost_of_due hkept.typed (hturn.performed _) hclosed
  have hfree := hlost.chain?_eq_none_before hkept hlast
  have hafter : Run.after (before ++ [turn]) = turn.after before.after :=
    Run.afterFrom_append .empty before [turn]
  have hall : Run.after (before ++ turn :: later) =
      Run.afterFrom (turn.after before.after) later :=
    Run.afterFrom_append .empty before (turn :: later)
  have hkeptAll := Run.kept_after h
  have hkeptAfter : (turn.after before.after).Kept service :=
    (turn.follows _).kept hkept (hturn.kept _)
  -- if the turn leaves what it did, the channel is lost when it is over
  have hcommitted (hcommits : turn.Commits before.after) :
      (turn.after before.after).Lost service channel := by
    rw [← Turn.kept_of_commits hcommits] at hclosed
    exact (turn.follows _).lost_of_due hkept.typed (hturn.kept _) hclosed
  refine ⟨unbound_of_chain? hkept hfree, ?_, fun hlasting => ?_⟩
  · rw [hafter]
    refine unbound_of_chain? hkeptAfter ?_
    by_cases hcommits : turn.Commits before.after
    · exact (hcommitted hcommits).chain?_eq_none hkeptAfter
    · rw [Turn.after_of_not_commits hcommits]
      exact hfree
  · have hend : (turn.after before.after).Lost service channel := by
      rcases hlasting with hcommits | ⟨chain, winner, hresolve, hwinner⟩
      · exact hcommitted hcommits
      · have hlostBefore := hkept.lost hfree hresolve ((tells_channelOf hkept.typed).1 hwinner)
        exact hlostBefore.follows hkept.typed (turn.follows _)
    have hlostAll : (Run.after (before ++ turn :: later)).Lost service channel := by
      rw [hall]
      exact hend.follows hkeptAfter.typed (Run.follows_from _ later)
    exact unbound_of_chain? hkeptAll (hlostAll.chain?_eq_none hkeptAll)

/-- One channel is confirmed, the chain of which the other resolves to as well. -/
def firstConfirmed : Run Call := [.direct ⟨racedProvider, .openConfirm 5 ⟨"ch-0"⟩⟩]

/-- The other is confirmed in a transaction that is committed all the same. -/
def secondConfirmed : Turn Call :=
  .execute ⟨.make ⟨racedProvider, .openConfirm 6 ⟨"ch-1"⟩⟩ fun _ => .stop (.ok ()), fun _ _ => none⟩

/-- The loser of the race is confirmed once more. -/
theorem closedRightly_race :
    (⟨"provider"⟩, ⟨"ch-1"⟩) ∈ Output.closeRequests (secondConfirmed.outputs firstConfirmed.after) ∧
      ClosedRightly racedProvider firstConfirmed secondConfirmed
        [.direct ⟨racedProvider, .openConfirm 7 ⟨"ch-1"⟩⟩] ⟨"ch-1"⟩ := by
  have hclosed : ((⟨"provider"⟩ : PortId), (⟨"ch-1"⟩ : ChannelId)) ∈
      Output.closeRequests (secondConfirmed.outputs firstConfirmed.after) := by
    decide +kernel
  refine ⟨hclosed, closedRightly ?_ hclosed⟩
  simp [firstConfirmed, secondConfirmed, Turn.On]

/-- Both channels are confirmed in one transaction, which is given up when the second is refused. -/
def undecided : Turn Call :=
  .execute ⟨.make ⟨racedProvider, .openConfirm 5 ⟨"ch-0"⟩⟩ fun _ =>
    .make ⟨racedProvider, .openConfirm 6 ⟨"ch-1"⟩⟩ fun result => .stop result, fun _ _ => none⟩

/-- The second channel is confirmed again. -/
def confirmedAgain : Run Call := [undecided, .direct ⟨racedProvider, .openConfirm 7 ⟨"ch-1"⟩⟩]

/-- On one transport a close is requested for a channel that is bound later. -/
theorem closed_then_bound :
    (∀ turn ∈ confirmedAgain, turn.On racedProvider) ∧
      (⟨"provider"⟩, ⟨"ch-1"⟩) ∈ Output.closeRequests (undecided.outputs .empty) ∧
      (chainOf ⟨"ch-1"⟩).Tells confirmedAgain.after (some ⟨"foo"⟩) := by
  refine ⟨?_, by decide +kernel, by decide +kernel⟩
  simp [confirmedAgain, undecided, Turn.On]

end Registry
end SharedSecurity
