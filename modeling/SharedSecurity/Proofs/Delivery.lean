import Mathlib.Data.List.Nodup
import SharedSecurity.Proofs.Mirror
import SharedSecurity.Proofs.Queues

/-!
# Every slash acknowledgement is handed out once

Tokens come in with the packets of consumers or are appended directly, and they go out when one
queue is drained or all are swept.  For one chain and one action the balance is an equation between
lists: what is handed out, then what is queued after, is what was queued before, then what came in.
Over a run the equations add up, whatever else is called in between, in whatever transactions.

* `SlashQueue.Action` — operations, and the ledger's own appends and drains, as steps of a host.
* `Performed.handedOut`, `Performed.takenIn` — what an action handed out and took in, read off what
  it came to.
* `SlashQueue.balance` — **the balance of one action**, and `SlashQueue.balance_all` of many.
* `SlashQueue.Delivery`, `SlashQueue.delivery_after` — exactly once and in order, over every run.
-/

set_option autoImplicit false
namespace SharedSecurity

open Transition

/-! ## What calls do to the queues -/

/-- What an acknowledgement does to the queues: nothing if it fails, and else its tokens join the
queue of the chain. -/
theorem MaturityAcknowledgement.queue_creditTo (ack : MaturityAcknowledgement) (chain : ChainId)
    {store : Store} (hstore : store.WellFormed) (hshort : (ack.creditTo chain).Short store) :
    (∃ error, ((ack.creditTo chain).run store).result = .error error ∧
        ∀ other, ((ack.creditTo chain).run store).store.queue other = store.queue other) ∨
      ∃ completed, ((ack.creditTo chain).run store).result = .ok completed ∧
        ∀ other, ((ack.creditTo chain).run store).store.queue other =
          if other = chain then store.queue other ++ ack.slashAcks else store.queue other := by
  have hother (other : ChainId) (hne : other ≠ chain) :
      ((ack.creditTo chain).run store).store.queue other = store.queue other := by
    refine Store.queue_congr (Store.record?_congr (get?_run (ack.within_creditTo chain) ?_ store))
    rintro (⟨_, hkey⟩ | hkey | hkey)
    · cases hkey
    · cases hkey
    · exact hne (Key.slashQueueOf.inj hkey)
  rcases ack.record?_creditTo chain hstore hshort with
    ⟨error, hresult, hrecord⟩ | ⟨completed, hresult, hrecord⟩
  · refine .inl ⟨error, hresult, fun other => ?_⟩
    by_cases hchain : other = chain
    · subst hchain
      exact Store.queue_congr hrecord
    · exact hother other hchain
  · refine .inr ⟨completed, hresult, fun other => ?_⟩
    by_cases hchain : other = chain
    · subst hchain
      rw [if_pos rfl, Store.queue, hrecord]
      cases ack.slashAcks with
      | nil => exact (List.append_nil _).symm
      | cons token rest => rfl
    · rw [if_neg hchain]
      exact hother other hchain

/-- Other operations than packets and sweeps leave the queues alone. -/
theorem Call.queue_after_of_other (call : Call) (store : Store)
    (hack : ∀ channel ack, call.operation ≠ .acknowledgePacket channel ack)
    (hsweep : call.operation ≠ .sweep) (chain : ChainId) :
    (call.after store).queue chain = store.queue chain := by
  have hfoot : ¬ call.operation.footprint (.slashQueueOf chain) := by
    obtain ⟨service, operation⟩ := call
    cases operation with
    | acknowledgePacket channel ack => exact absurd rfl (hack channel ack)
    | sweep => exact absurd rfl hsweep
    | _ => simp [Operation.footprint]
  exact Store.queue_congr (call.record?_after hfoot store)

namespace SlashQueue

/-! ## Actions -/

/-- What may be asked: an operation of a provider, or an access to a queue of its own. -/
inductive Action where
  /-- An operation is called. -/
  | ask (call : Call)
  /-- A token is appended to the queue of a chain. -/
  | append (chain : ChainId) (token : String)
  /-- The queue of a chain is drained. -/
  | drain (chain : ChainId)

namespace Action

/-- What an action tells when it succeeds. -/
@[reducible] def Answer : Action → Type
  | ask call => call.operation.Answer
  | append .. => Unit
  | drain _ => List String

/-- The work of an action. -/
def transition : (action : Action) → Transition action.Answer
  | ask call => call.transition
  | append chain token => SlashQueue.append chain token
  | drain chain => SlashQueue.drain chain

instance : Steps Action := ⟨Answer, transition⟩

/-- An action writes only records under their keys. -/
theorem within (action : Action) : (Steps.transition action).WritesWithin fun _ => True := by
  cases action with
  | ask call => exact (call.service.perform_within call.operation).mono fun _ _ => trivial
  | append chain token => exact within_append trivial token
  | drain chain => exact within_drain trivial

end Action

end SlashQueue

open SlashQueue

namespace Performed

/-- The chain that a packet on a channel is credited to. -/
def creditedTo? (store : Store) (channel : ChannelId) : Option ChainId :=
  match ((Registry.chainOf channel).run store).result with
  | .ok chain => chain
  | .error _ => none

/-- The tokens of a chain that an action handed out, in order. -/
def handedOut (chain : ChainId) : Performed Action → List String
  | ⟨_, .drain drained, .ok batch⟩ => if drained = chain then batch else []
  | ⟨_, .ask ⟨_, .sweep⟩, .ok batches⟩ =>
    (batches.filter fun batch => batch.1 = chain).flatMap Prod.snd
  | _ => []

/-- The tokens that an action queued for a chain, in order. -/
def takenIn (chain : ChainId) : Performed Action → List String
  | ⟨_, .append appended token, .ok _⟩ => if appended = chain then [token] else []
  | ⟨before, .ask ⟨_, .acknowledgePacket channel ack⟩, .ok _⟩ =>
    if creditedTo? before channel = some chain then ack.slashAcks else []
  | _ => []

end Performed

namespace SlashQueue

/-! ## The balance of one action -/

section

variable {store : Store}

/-- An append. -/
theorem balance_append (hstore : store.WellFormed) (appended : ChainId) (token : String)
    (hshort : (append appended token).Short store) (chain : ChainId) :
    ((append appended token).run store).store.queue chain = store.queue chain ++
      (Steps.performed (Action.append appended token) store).takenIn chain := by
  have hreplaces := replaces_append appended token
  have hok := hreplaces.ok hstore hshort
  have hrecord := hreplaces.record hstore hshort
  show _ = _ ++ Performed.takenIn chain
    ⟨store, .append appended token, ((append appended token).run store).result⟩
  rw [hok]
  by_cases hchain : appended = chain
  · subst hchain
    rw [Performed.takenIn, if_pos rfl, Store.queue, hrecord]
    rfl
  · rw [Performed.takenIn, if_neg hchain, List.append_nil]
    have hkey : Key.slashQueueOf chain ≠ .slashQueueOf appended :=
      fun heq => hchain (Key.slashQueueOf.inj heq).symm
    exact Store.queue_congr (Store.record?_congr (get?_run hreplaces.within hkey store))

/-- A draining. -/
theorem balance_drain (hstore : store.WellFormed) (drained chain : ChainId) :
    (Steps.performed (Action.drain drained) store).handedOut chain ++
      ((drain drained).run store).store.queue chain = store.queue chain := by
  obtain ⟨outputs, hrun⟩ := run_drain hstore drained
  show Performed.handedOut chain
    ⟨store, .drain drained, ((drain drained).run store).result⟩ ++ _ = _
  rw [hrun, Store.queue_drained]
  by_cases hchain : drained = chain
  · subst hchain
    rw [Performed.handedOut, if_pos rfl, if_pos rfl, List.append_nil]
  · rw [Performed.handedOut, if_neg hchain, if_neg (Ne.symm hchain), List.nil_append]

/-- The batches of a sweep for one chain are what the chain has queued. -/
theorem batches_of_chain (store : Store) (chain : ChainId) :
    (((store.queuedChains.map fun queued => (queued, store.queue queued)).filter
      fun batch => batch.1 = chain).flatMap Prod.snd) = store.queue chain := by
  have hfilter : (store.queuedChains.map fun queued => (queued, store.queue queued)).filter
        (fun batch => batch.1 = chain) =
      (store.queuedChains.filter fun queued => queued = chain).map
        fun queued => (queued, store.queue queued) := List.filter_map
  rw [hfilter, List.filter_eq]
  by_cases hchain : chain ∈ store.queuedChains
  · rw [List.count_eq_one_of_mem store.nodup_queuedChains hchain]
    exact List.append_nil _
  · have hempty : store.queue chain = [] := by
      rw [Store.mem_queuedChains, not_not] at hchain
      exact hchain
    rw [List.count_eq_zero_of_not_mem hchain, hempty]
    rfl

/-- A sweep. -/
theorem balance_sweep (hstore : store.WellFormed) (service : Service) (chain : ChainId) :
    (Steps.performed (Action.ask ⟨service, .sweep⟩) store).handedOut chain ++
      (sweep.run store).store.queue chain = store.queue chain := by
  obtain ⟨after, outputs, hrun, hempty⟩ := run_sweep hstore
  show Performed.handedOut chain ⟨store, .ask ⟨service, .sweep⟩, (sweep.run store).result⟩ ++ _ = _
  rw [hrun, hempty, List.append_nil]
  exact batches_of_chain store chain

/-- A packet. -/
theorem balance_packet (hstore : store.WellFormed) (service : Service) (channel : ChannelId)
    (ack : MaturityAcknowledgement) (hshort : (service.acknowledgePacket channel ack).Short store)
    (chain : ChainId) :
    ((service.acknowledgePacket channel ack).run store).store.queue chain = store.queue chain ++
      (Steps.performed (Action.ask ⟨service, .acknowledgePacket channel ack⟩) store).takenIn
        chain := by
  have hfound := Registry.run_chainOf (hstore.sound (.chainOf channel))
  have hcredited : Performed.creditedTo? store channel = store.chain? channel := by
    rw [Performed.creditedTo?, hfound]
  show _ = _ ++ Performed.takenIn chain ⟨store, .ask ⟨service, .acknowledgePacket channel ack⟩,
    ((service.acknowledgePacket channel ack).run store).result⟩
  cases hbound : store.chain? channel with
  | none =>
    rw [service.run_acknowledgePacket_of_unbound ack hstore.typed hbound]
    exact (List.append_nil _).symm
  | some bound =>
    have hcredit := service.short_creditTo hstore.typed hbound hshort
    rw [service.run_acknowledgePacket ack hstore.typed hbound]
    rcases ack.queue_creditTo bound hstore hcredit with
      ⟨error, hresult, hqueue⟩ | ⟨completed, hresult, hqueue⟩
    · rw [hresult, hqueue]
      exact (List.append_nil _).symm
    · rw [hresult, hqueue, Performed.takenIn, hcredited, hbound]
      by_cases hchain : chain = bound <;> simp [hchain, eq_comm]

/-- **The balance of one action.**  What it hands out, then what is queued after it, is what was
queued before it, then what it takes in. -/
theorem balance (hstore : store.WellFormed) (action : Action)
    (hshort : (Steps.transition action).Short store) (chain : ChainId) :
    (Steps.performed action store).handedOut chain ++ (Steps.after action store).queue chain =
      store.queue chain ++ (Steps.performed action store).takenIn chain := by
  -- what neither hands out nor takes in leaves the queues alone
  have hother (call : Call) (hack : ∀ channel ack, call.operation ≠ .acknowledgePacket channel ack)
      (hsweep : call.operation ≠ .sweep) :
      [] ++ (Steps.after (Action.ask call) store).queue chain = store.queue chain ++ [] := by
    rw [List.nil_append, List.append_nil]
    exact call.queue_after_of_other store hack hsweep chain
  cases action with
  | append appended token =>
    exact balance_append hstore appended token hshort chain
  | drain drained =>
    rw [show (Steps.performed (Action.drain drained) store).takenIn chain = [] from rfl,
      List.append_nil]
    exact balance_drain hstore drained chain
  | ask call =>
    obtain ⟨service, operation⟩ := call
    cases operation with
    | sweep =>
      rw [show (Steps.performed (Action.ask ⟨service, .sweep⟩) store).takenIn chain = [] from rfl,
        List.append_nil]
      exact balance_sweep hstore service chain
    | acknowledgePacket channel ack =>
      exact balance_packet hstore service channel ack hshort chain
    | _ =>
      refine hother _ ?_ ?_
      · exact fun _ _ => nofun
      · exact nofun

end

/-! ## Many actions -/

/-- The values that all the actions wrote have lengths that fit in a word. -/
def Short (performed : List (Performed Action)) : Prop :=
  ∀ one ∈ performed, (Steps.transition one.step).Short one.before

instance (performed : List (Performed Action)) : Decidable (Short performed) :=
  inferInstanceAs (Decidable (∀ one ∈ performed, (Steps.transition one.step).Short one.before))

/-- Short actions leave a well-formed store, and each was performed on one. -/
theorem wellFormed_of_follows {before after : Store} {performed : List (Performed Action)}
    (h : Follows before performed after) (hshort : Short performed) (hbefore : before.WellFormed) :
    after.WellFormed ∧ ∀ one ∈ performed, one.before.WellFormed := by
  induction h with
  | nil => exact ⟨hbefore, List.forall_mem_nil _⟩
  | cons action _ ih =>
    obtain ⟨hfirst, hrest⟩ := List.forall_mem_cons.1 hshort
    obtain ⟨hafter, hall⟩ := ih hrest (wellFormed_run action.within hfirst hbefore)
    exact ⟨hafter, List.forall_mem_cons.2 ⟨hbefore, hall⟩⟩

/-- The tokens of a chain that actions handed out, in order. -/
def delivered (chain : ChainId) (performed : List (Performed Action)) : List String :=
  performed.flatMap (Performed.handedOut chain)

/-- The tokens that actions queued for a chain, in order. -/
def queued (chain : ChainId) (performed : List (Performed Action)) : List String :=
  performed.flatMap (Performed.takenIn chain)

/-- **The balance of many actions.** -/
theorem balance_all {before after : Store} {performed : List (Performed Action)}
    (h : Follows before performed after) (hshort : Short performed) (hbefore : before.WellFormed)
    (chain : ChainId) : delivered chain performed ++ after.queue chain =
      before.queue chain ++ queued chain performed := by
  induction h with
  | nil => exact (List.append_nil _).symm
  | @cons before after action rest _ ih =>
    obtain ⟨hfirst, hrest⟩ := List.forall_mem_cons.1 hshort
    have hone := balance hbefore action hfirst chain
    have hothers := ih hrest (wellFormed_run action.within hfirst hbefore)
    rw [delivered, queued, List.flatMap_cons, List.flatMap_cons]
    calc (Steps.performed action before).handedOut chain ++ delivered chain rest ++
          after.queue chain
      _ = (Steps.performed action before).handedOut chain ++
          ((Steps.after action before).queue chain ++ queued chain rest) := by
        rw [List.append_assoc, hothers]
      _ = before.queue chain ++
          ((Steps.performed action before).takenIn chain ++ queued chain rest) := by
        rw [← List.append_assoc, hone, List.append_assoc]

/-! ## Exactly once -/

/-- What a sweep of a store hands out, and what it leaves. -/
structure SweepsAll (before : Store) (batches : List (ChainId × List String))
    (after : Store) : Prop where
  /-- The chains ascend strictly, so each is there once. -/
  ascending : (batches.map Prod.fst).Pairwise ChainId.Before
  /-- There is a batch for a chain exactly if something was pending for it, namely all of that. -/
  batch : ∀ chain tokens, (chain, tokens) ∈ batches ↔
    (pending chain).Tells before tokens ∧ tokens ≠ []
  /-- Nothing is pending for any chain. -/
  emptied : ∀ chain, (pending chain).Tells after []

theorem tells_pending {store : Store} (h : store.WellFormed) {chain : ChainId}
    {tokens : List String} : (pending chain).Tells store tokens ↔ store.queue chain = tokens :=
  tells_iff (run_pending (h.sound (.slashQueueOf chain)))

/-- **A sweep hands out all that is pending.** -/
theorem sweepsAll {store : Store} (h : store.WellFormed)
    (hafter : (sweep.run store).store.WellFormed) :
    ∃ batches, (sweep.run store).result = .ok batches ∧
      SweepsAll store batches (sweep.run store).store := by
  obtain ⟨after, outputs, hrun, hempty⟩ := run_sweep h
  rw [hrun] at hafter ⊢
  refine ⟨_, rfl, ?_, fun chain tokens => ?_, fun chain => (tells_pending hafter).2 (hempty chain)⟩
  · rw [List.map_map]
    exact (List.map_id _).symm ▸ store.sorted_queuedChains
  · rw [tells_pending h, List.mem_map]
    constructor
    · rintro ⟨_, hqueued, heq⟩
      obtain ⟨rfl, rfl⟩ := Prod.mk.inj heq
      exact ⟨rfl, Store.mem_queuedChains.1 hqueued⟩
    · rintro ⟨rfl, hne⟩
      exact ⟨chain, Store.mem_queuedChains.2 hne, rfl⟩

/-- Slash acknowledgements are handed out exactly once and in order. -/
structure Delivery (run : Run Action) (turn : Turn Action) : Prop where
  /-- What is pending for a chain can be read, and is what was queued but not handed out yet: what
  was handed out, then what is pending, is what was queued. -/
  exact : ∀ chain, ∃ tokens, (pending chain).Tells run.after tokens ∧
    delivered chain run.kept ++ tokens = queued chain run.kept
  /-- Every sweep hands out all that is pending, be it committed or not. -/
  sweeps : ∀ before service result, (⟨before, .ask ⟨service, .sweep⟩, result⟩ : Performed Action) ∈
    run.kept ++ turn.performed run.after →
      ∃ batches, result = .ok batches ∧ SweepsAll before batches (sweep.run before).store

/-- **Exactly once and in order**, over every run whose lists and strings fit in memory, direct or
in transactions over a store that may fail at any point, and every action of the turn after it. -/
theorem delivery_after {run : Run Action} {turn : Turn Action}
    (hshort : Short (run.kept ++ turn.performed run.after)) : Delivery run turn := by
  obtain ⟨hrunShort, -⟩ := List.forall_mem_append.1 hshort
  obtain ⟨last, hturn⟩ := turn.exists_follows run.after
  have hafter := (wellFormed_of_follows run.follows hrunShort Store.wellFormed_empty).1
  have hall := run.follows.append hturn
  constructor
  case exact =>
    intro chain
    refine ⟨_, (tells_pending hafter).2 rfl, ?_⟩
    exact balance_all run.follows hrunShort Store.wellFormed_empty chain
  case sweeps =>
    intro before service result hmem
    have hbefore := (wellFormed_of_follows hall hshort Store.wellFormed_empty).2 _ hmem
    have hresult : result = (sweep.run before).result := hall.result_eq hmem
    have hwithin : sweep.WritesWithin fun _ => True := within_sweep fun _ => trivial
    have hswept : sweep.Short before := hshort _ hmem
    rw [hresult]
    exact sweepsAll hbefore (wellFormed_run hwithin hswept hbefore)

/-- Tokens come in directly and with a packet, some of them empty or equal.  One queue is drained,
and a sweep is given up. -/
def exchange : Run Action :=
  [.direct (.ask ⟨Unbonding.twoChains, .openConfirm 5 ⟨"ch-0"⟩⟩),
    .direct (.append ⟨"foo"⟩ "double-sign"), .direct (.append ⟨"foo"⟩ "double-sign"),
    .execute ⟨.make
      (.ask ⟨Unbonding.twoChains, .acknowledgePacket ⟨"ch-0"⟩ ⟨0, ["", "downtime"]⟩⟩)
      fun _ => .stop (.ok ()), fun _ _ => none⟩,
    .direct (.drain ⟨"foo"⟩),
    .execute ⟨.make (.ask ⟨Unbonding.twoChains, .sweep⟩)
      fun _ => .stop (.error (.channelNotFound ⟨"ch-0"⟩)), fun _ _ => none⟩,
    .direct (.append ⟨"foo"⟩ "downtime")]

/-- A sweep is committed. -/
def dispatch : Turn Action :=
  .execute ⟨.make (.ask ⟨Unbonding.twoChains, .sweep⟩) fun _ => .stop (.ok ()), fun _ _ => none⟩

/-- What was drained is not pending, and what the sweep that was given up handed out still is. -/
theorem delivery_after_exchange :
    Short (exchange.kept ++ dispatch.performed exchange.after) ∧
      Delivery exchange dispatch ∧
      delivered ⟨"foo"⟩ exchange.kept = ["double-sign", "double-sign"] ∧
      (pending ⟨"foo"⟩).Tells exchange.after ["downtime"] ∧
      (pending ⟨"bar"⟩).Tells exchange.after ["", "downtime"] := by
  have hshort : Short (exchange.kept ++ dispatch.performed exchange.after) := by
    decide +kernel
  refine ⟨hshort, delivery_after hshort, ?_, ?_, ?_⟩ <;> decide +kernel

end SlashQueue
end SharedSecurity
