import SharedSecurity.Proofs.Queues
import SharedSecurity.Proofs.Release

/-!
# Acknowledgements that arrive again

A relayer may deliver an acknowledgement again at any time.  The gate then finds nothing to do: the
bucket of the chain and version was dropped by the first acknowledgement, and no call but a creation
that waits for this chain and version brings it back.  Entries that the chain has acknowledged may
still be stored, and other chains rewrite and release them; that is all in other buckets.

* `History.Served` — the chain has acknowledged the version, and nothing has been created since that
  waits for it to do so.
* `GateStep.bucket?_eq_none`, `History.bucket?_eq_none_of_served` — a dropped bucket stays dropped,
  by one call and by many.
* `Unbonding.Harmless`, `Unbonding.harmless_after` — **what an acknowledgement does that arrives
  again**: its tokens are queued, and no other byte changes.
-/

set_option autoImplicit false
namespace SharedSecurity

open Transition

/-! ## Dropped buckets -/

/-- The call is an acknowledgement of a version on a channel that is the channel of a chain, and
succeeds. -/
def Call.AckedOn (call : Call) (store : Store) (channel : ChannelId) (chain : ChainId)
    (version : Version) : Prop :=
  ∃ service ack ids, call = ⟨service, .acknowledgePacket channel ack⟩ ∧ ack.version = version ∧
    (Registry.channelOf chain).Tells store (some channel) ∧
    (service.acknowledgePacket channel ack).Tells store ids

/-- The chain has acknowledged the version on its channel, and no entry has been created since that
waits for the chain to acknowledge that version. -/
def History.Served (history : History) (channel : ChannelId) (chain : ChainId)
    (version : Version) : Prop :=
  ∃ past first since, history = past ++ first :: since ∧
    first.AckedOn (after past) channel chain version ∧
    ¬ Happens (fun call store => ∃ id, call.CreatedFor store id version chain)
      (past ++ [first]) since

namespace GateStep

variable {store after : Store} {call : Call} {chain : ChainId} {version : Version}

/-- **A dropped bucket stays dropped** unless an entry is created that waits for its chain and
version. -/
theorem bucket?_eq_none (h : GateStep store call after) (hstore : store.WellFormed)
    (hgone : store.bucket? chain version = none)
    (hcreated : ∀ id, ¬ call.CreatedFor store id version chain) :
    after.bucket? chain version = none := by
  cases h with
  | @gated provider notice _ htells _ _ hleft =>
    rw [hleft.bucket_of_ne chain version ?_, hgone]
    rintro hchain rfl
    exact hcreated notice.id ((Call.createdFor_iff hstore).2
      ⟨⟨provider, notice, rfl, rfl, htells⟩, rfl, hchain⟩)
  | @acknowledged _ _ ack acker _ _ _ hleft =>
    by_cases hsame : chain = acker ∧ version = ack.version
    · obtain ⟨rfl, rfl⟩ := hsame
      exact hleft.bucket
    · rw [hleft.bucket_of_ne chain version fun hchain heq => hsame ⟨hchain, heq⟩, hgone]
  | idle _ hbucket => rw [hbucket, hgone]

/-- An acknowledgement on the channel of a chain drops the bucket. -/
theorem bucket?_of_ackedOn {service : Service} (h : GateStep store call after)
    (htyped : store.Typed) (hbound : store.Bound service) {channel : ChannelId}
    (hack : call.AckedOn store channel chain version) : after.bucket? chain version = none := by
  obtain ⟨provider, ack, ids, rfl, rfl, hchannel, htells⟩ := hack
  rw [Registry.tells_channelOf htyped, hbound.mirror] at hchannel
  cases h with
  | acknowledged hchain _ hleft =>
    rw [hchannel] at hchain
    cases hchain
    exact hleft.bucket
  | idle _ _ _ hrefused => exact absurd htells (hrefused _ _ _ rfl ids)

end GateStep

namespace History

variable {channel : ChannelId} {chain : ChainId} {version : Version}

theorem bucket?_eq_none_append {past later : History} (hshort : Short (past ++ later))
    (hgone : (after past).bucket? chain version = none)
    (hnever : ¬ Happens (fun call store => ∃ id, call.CreatedFor store id version chain)
      past later) :
    (after (past ++ later)).bucket? chain version = none := by
  induction later using induction with
  | nil =>
    rw [List.append_nil]
    exact hgone
  | snoc later call ih =>
    rw [happens_snoc, not_or] at hnever
    rw [← List.append_assoc] at hshort ⊢
    have hstep := gateStep_last hshort
    exact hstep.bucket?_eq_none (wellFormed_after hshort.of_append) (ih hshort.of_append hnever.1)
      fun id hcreated => hnever.2 ⟨id, hcreated⟩

/-- **A chain that is served has no bucket for the version**, and its channel is still its own. -/
theorem bucket?_eq_none_of_served {service : Service} {history : History}
    (hshared : ∀ call ∈ history, call.service.SharesTransport service) (hshort : history.Short)
    (hserved : history.Served channel chain version) :
    (after history).bucket? chain version = none ∧
      (after history).chain? channel = some chain := by
  have hbound := bound_after hshared
  obtain ⟨past, first, since, rfl, hack, hnever⟩ := hserved
  rw [List.append_cons] at hshared hshort hbound ⊢
  have hpast : ∀ call ∈ past, call.service.SharesTransport service :=
    (List.forall_mem_append.1 (List.forall_mem_append.1 hshared).1).1
  have hdropped := (gateStep_last hshort.of_append).bucket?_of_ackedOn (typed_after past)
    (bound_after hpast) hack
  refine ⟨bucket?_eq_none_append hshort hdropped hnever, ?_⟩
  obtain ⟨_, _, _, _, _, hchannel, -⟩ := hack
  have hstays := channel?_afterFrom (typed_after past) (first :: since)
    ((Registry.tells_channelOf (typed_after past)).1 hchannel)
  rw [← hbound.mirror, ← List.append_cons]
  exact (congrArg (Store.channel? · chain) (afterFrom_append .empty past (first :: since))).trans
    hstays

end History

/-! ## Empty buckets -/

namespace Unbonding

variable {store : Store} {chain : ChainId} {version : Version}

/-- An acknowledgement that nobody waits for does nothing. -/
theorem run_acknowledge_of_empty (h : store.Sound (.bucket chain version))
    (hgone : store.bucket? chain version = none) :
    (acknowledge chain version).run store = ⟨.ok [], store, []⟩ := by
  have hbucket := run_bucket h
  rw [Store.waiting, hgone] at hbucket
  have hentries : (entriesInBucket chain version).run store = ⟨.ok [], store, []⟩ := by
    rw [entriesInBucket, run_bind_ok hbucket]
    rfl
  rw [acknowledge, run_bind_ok hentries]
  rfl

end Unbonding

/-- What crediting an acknowledgement comes to if nobody waits for it: the tokens are queued. -/
theorem MaturityAcknowledgement.run_creditTo_of_empty {ack : MaturityAcknowledgement}
    {chain : ChainId} {store : Store} (hstore : store.WellFormed)
    (hshort : (ack.creditTo chain).Short store)
    (hgone : store.bucket? chain ack.version = none) :
    ((ack.creditTo chain).run store).result = .ok [] ∧
      store.SameBut (.slashQueueOf chain) ((ack.creditTo chain).run store).store ∧
      ((ack.creditTo chain).run store).store.queue chain = store.queue chain ++ ack.slashAcks ∧
      (ack.slashAcks = [] → ((ack.creditTo chain).run store).store = store) := by
  have hnothing := Unbonding.run_acknowledge_of_empty
    (hstore.sound (.bucket chain ack.version)) hgone
  have htokens := (short_bind.1 (hshort.after hnothing)).1
  obtain ⟨hok, hrecord⟩ := SlashQueue.run_appendAll hstore htokens
  have hframe := sameBut_run (SlashQueue.within_appendAll chain ack.slashAcks) store
  rw [creditTo, run_bind_ok hnothing, run_bind_of_result hok]
  refine ⟨rfl, hframe, ?_, ?_⟩
  · show ((ack.slashAcks.forM (SlashQueue.append chain)).run store).store.queue chain = _
    rw [Store.queue, hrecord]
    cases ack.slashAcks with
    | nil => exact (List.append_nil _).symm
    | cons token rest => rfl
  · intro hnone
    show ((ack.slashAcks.forM (SlashQueue.append chain)).run store).store = store
    rw [hnone]
    rfl

/-! ## Every later time -/

namespace Unbonding

/-- What an acknowledgement does on a store where the gate has nothing to do for it. -/
structure Harmless (service : Service) (channel : ChannelId) (chain : ChainId)
    (ack : MaturityAcknowledgement) (store : Store) : Prop where
  /-- It succeeds and releases nothing. -/
  releasesNone : (service.acknowledgePacket channel ack).Tells store []
  /-- It changes no key but that of the chain's queue. -/
  untouched : store.SameBut (.slashQueueOf chain)
    (Call.after ⟨service, .acknowledgePacket channel ack⟩ store)
  /-- Its tokens join the queue at the end, once and in order. -/
  queued : ∃ tokens, (SlashQueue.pending chain).Tells store tokens ∧
    (SlashQueue.pending chain).Tells (Call.after ⟨service, .acknowledgePacket channel ack⟩ store)
      (tokens ++ ack.slashAcks)
  /-- Without tokens it changes nothing at all. -/
  tokenless : ack.slashAcks = [] →
    Call.after ⟨service, .acknowledgePacket channel ack⟩ store = store

theorem harmless_of_bucket {service : Service} {channel : ChannelId} {chain : ChainId}
    {ack : MaturityAcknowledgement} {store : Store} (hstore : store.WellFormed)
    (hshort : (service.acknowledgePacket channel ack).Short store)
    (hgone : store.bucket? chain ack.version = none)
    (hbound : store.chain? channel = some chain) : Harmless service channel chain ack store := by
  have hcredit := service.run_acknowledgePacket ack hstore.typed hbound
  have hafter : Call.after ⟨service, .acknowledgePacket channel ack⟩ store =
      ((ack.creditTo chain).run store).store := congrArg Outcome.store hcredit
  obtain ⟨hresult, hframe, hqueue, hsame⟩ := ack.run_creditTo_of_empty hstore
    (service.short_creditTo hstore.typed hbound hshort) hgone
  have hleft : (Call.after ⟨service, .acknowledgePacket channel ack⟩ store).WellFormed :=
    wellFormed_run (service.perform_within (.acknowledgePacket channel ack)) hshort hstore
  have htells {store : Store} (h : store.WellFormed) :
      (SlashQueue.pending chain).Tells store (store.queue chain) :=
    (tells_iff (SlashQueue.run_pending (h.sound _))).2 rfl
  refine ⟨(congrArg Outcome.result hcredit).trans hresult, hafter ▸ hframe,
    ⟨_, htells hstore, ?_⟩, fun hnone => hafter.trans (hsame hnone)⟩
  rw [← hqueue, ← hafter]
  exact htells hleft

/-- **An acknowledgement that arrives again is harmless to the gate**, at any later time: after
every run of calls on one transport, direct or in transactions, and after whatever further calls the
transaction has made that it arrives in. -/
theorem harmless_after {service provider : Service} {run : Run Call} {calls : History}
    {channel : ChannelId} {chain : ChainId} {ack : MaturityAcknowledgement}
    (hshared : ∀ call ∈ run.committed ++ calls, call.service.SharesTransport service)
    (hserved : (run.committed ++ calls).Served channel chain ack.version)
    (hshort : History.Short
      (run.committed ++ calls ++ [⟨provider, .acknowledgePacket channel ack⟩])) :
    Harmless provider channel chain ack (History.afterFrom run.after calls) := by
  obtain ⟨hpast, hcall⟩ := History.short_snoc.1 hshort
  obtain ⟨hgone, hbound⟩ := History.bucket?_eq_none_of_served hshared hpast hserved
  have hafter : History.afterFrom run.after calls = (run.committed ++ calls).after := by
    rw [run.after_eq]
    exact (History.afterFrom_append .empty run.committed calls).symm
  rw [hafter]
  exact harmless_of_bucket (History.wellFormed_after hpast) hcall hgone hbound

/-- A block ends and an entry is created, in a transaction that is under way. -/
def blockAndCreation : History :=
  [⟨twoChains, .endBlock 7⟩, ⟨twoChains, .unbondingCreated ⟨9, "validator", 7⟩⟩]

/-- One of two chains has acknowledged, and does so again when the next entry waits for it. -/
theorem harmless_after_halfAcknowledged :
    let again : MaturityAcknowledgement := ⟨0, ["late"]⟩
    (∀ call ∈ halfAcknowledged.committed ++ blockAndCreation,
        call.service.SharesTransport twoChains) ∧
      (halfAcknowledged.committed ++ blockAndCreation).Served ⟨"ch-1"⟩ ⟨"foo"⟩ again.version ∧
      History.Short (halfAcknowledged.committed ++ blockAndCreation ++
        [⟨twoChains, .acknowledgePacket ⟨"ch-1"⟩ again⟩]) ∧
      Harmless twoChains ⟨"ch-1"⟩ ⟨"foo"⟩ again
        (History.afterFrom halfAcknowledged.after blockAndCreation) := by
  intro again
  have hcommitted : halfAcknowledged.committed =
      [⟨twoChains, .openConfirm 5 ⟨"ch-0"⟩⟩, ⟨twoChains, .openConfirm 6 ⟨"ch-1"⟩⟩,
        ⟨twoChains, .unbondingCreated ⟨7, "validator", 6⟩⟩,
        ⟨twoChains, .acknowledgePacket ⟨"ch-1"⟩ ⟨0, ["token"]⟩⟩] := by
    have hone : ∀ turn ∈ halfAcknowledged, turn.All fun call => call.service = twoChains := by
      simp [halfAcknowledged]
    have hoperations : halfAcknowledged.committed.map Call.operation =
        [.openConfirm 5 ⟨"ch-0"⟩, .openConfirm 6 ⟨"ch-1"⟩,
          .unbondingCreated ⟨7, "validator", 6⟩, .acknowledgePacket ⟨"ch-1"⟩ ⟨0, ["token"]⟩] := by
      decide +kernel
    exact Run.committed_eq_of_operations hone hoperations
  have hshared : ∀ call ∈ halfAcknowledged.committed ++ blockAndCreation,
      call.service.SharesTransport twoChains := by
    refine List.forall_mem_append.2 ⟨Run.forall_committed ?_, ?_⟩
    · simp [halfAcknowledged]
    · simp [blockAndCreation]
  have hserved : (halfAcknowledged.committed ++ blockAndCreation).Served ⟨"ch-1"⟩ ⟨"foo"⟩
      again.version := by
    rw [hcommitted]
    refine ⟨_, ⟨twoChains, .acknowledgePacket ⟨"ch-1"⟩ ⟨0, ["token"]⟩⟩, blockAndCreation,
      (List.append_assoc [_, _, _] [_] blockAndCreation), ?_, ?_⟩
    · exact ⟨twoChains, ⟨0, ["token"]⟩, [], rfl, rfl, by decide +kernel, by decide +kernel⟩
    · have hparts : blockAndCreation = [] ++ [⟨twoChains, .endBlock 7⟩] ++
          [⟨twoChains, .unbondingCreated ⟨9, "validator", 7⟩⟩] := rfl
      rw [hparts, History.happens_snoc, History.happens_snoc]
      rintro ((hnone | ⟨id, hblock⟩) | ⟨id, hcreation⟩)
      · exact History.not_happens_nil hnone
      · obtain ⟨⟨_, _, heq, -⟩, -⟩ := hblock
        cases heq
      · obtain ⟨-, hversion, -⟩ := hcreation
        have hzero : (Versioning.current.run _).result = .ok 0 := hversion
        exact absurd hzero (by decide +kernel)
  have hshort : History.Short (halfAcknowledged.committed ++ blockAndCreation ++
      [⟨twoChains, .acknowledgePacket ⟨"ch-1"⟩ again⟩]) := by
    decide +kernel
  exact ⟨hshared, hserved, hshort, harmless_after hshared hserved hshort⟩

end Unbonding
end SharedSecurity
