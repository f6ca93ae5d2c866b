import Mathlib.Algebra.BigOperators.Group.List.Basic
import SharedSecurity.Proofs.Blocks
import SharedSecurity.Proofs.Counters
import SharedSecurity.Proofs.Delivery
import SharedSecurity.Proofs.Genesis
import SharedSecurity.Proofs.Outputs

/-!
# What a call measures

A provider counts what it does at scattered points: some operations return before they come to count,
others count several things at once.  For each counter there is one law, that what a call measures is
by how much the call changes what the counter stands for.  Most calls measure nothing of the kind and
leave the records alone, which `Operation.mayGive` and `Operation.footprint` say of all of them at
once; the laws are about the others.

* `Call.length_boundChains_after` — a binding is measured for each chain that is newly bound.
* `Call.length_entries_after` — entries are measured as created and as released.
* `Call.shows_after` — the gauge shows the current version.
* `Call.count_duplicates`, `Call.count_labels` — refusals and queued tokens, which are not records
  but results.
-/

set_option autoImplicit false
namespace SharedSecurity

open Transition SlashQueue

/-! ## What a call measures -/

/-- What a call made directly measures. -/
def Call.measured (call : Call) (store : Store) : List Measurement :=
  Output.measurements (call.outputs store)

/-- A call measures only what its operation may. -/
theorem Call.mayGive_of_mem_measured {call : Call} {store : Store} {measurement : Measurement}
    (h : measurement ∈ call.measured store) : call.operation.mayGive (.measure measurement) :=
  of_mem_measurements (call.service.perform_gives call.operation) h

theorem Call.count_measured_eq_zero {call : Call} {measurement : Measurement}
    (h : ¬ call.operation.mayGive (.measure measurement)) (store : Store) :
    (call.measured store).count measurement = 0 :=
  List.count_eq_zero.2 fun hmem => h (Call.mayGive_of_mem_measured hmem)

namespace Transition

variable {α β : Type} {store : Store}

/-- A sequence that succeeds measures what its parts measure. -/
theorem measurements_bind {t : Transition α} {next : α → Transition β} {value : β}
    (h : (t >>= next).Tells store value) :
    ∃ first, t.Tells store first ∧ (next first).Tells (t.run store).store value ∧
      Output.measurements ((t >>= next).run store).outputs =
        Output.measurements (t.run store).outputs ++
          Output.measurements ((next first).run (t.run store).store).outputs := by
  obtain ⟨first, hfirst, hnext⟩ := tells_bind.1 h
  refine ⟨first, hfirst, hnext, ?_⟩
  rw [run_bind_of_result hfirst, Outcome.prepend, Output.measurements_append]

/-- After a part that gives out nothing but reports, it measures what follows. -/
theorem measurements_bind_of_quiet {t : Transition α} {next : α → Transition β}
    (hquiet : t.Gives fun _ => False) {value : β} (h : (t >>= next).Tells store value) :
    ∃ first, t.Tells store first ∧ (next first).Tells (t.run store).store value ∧
      Output.measurements ((t >>= next).run store).outputs =
        Output.measurements ((next first).run (t.run store).store).outputs := by
  obtain ⟨first, hfirst, hnext, hmeasured⟩ := measurements_bind h
  rw [measurements_eq_nil hquiet (fun _ => id) store, List.nil_append] at hmeasured
  exact ⟨first, hfirst, hnext, hmeasured⟩

end Transition

/-! ## Bound chains -/

/-- Calls that write no binding leave the bound chains alone. -/
theorem Store.boundChains_congr {before after : Store} (hbefore : before.Typed)
    (hafter : after.Typed) (h : ∀ chain, after.channel? chain = before.channel? chain) :
    after.boundChains = before.boundChains := by
  refine ChainId.eq_of_mem_iff id after.sorted_boundChains before.sorted_boundChains fun chain => ?_
  rw [mem_boundChains hafter, mem_boundChains hbefore, h]

/-- A chain that is newly bound is one more bound chain. -/
theorem Store.length_boundChains_bind {store : Store} (h : store.Typed) {chain : ChainId}
    (hfree : store.channel? chain = none) {channel : ChannelId} {height : Height}
    (hafter : (store.bind chain channel height).Typed) :
    (store.bind chain channel height).boundChains.length = store.boundChains.length + 1 := by
  have hnew : chain ∉ store.boundChains := by
    rw [mem_boundChains h, hfree]
    exact nofun
  have hperm : (store.bind chain channel height).boundChains.Perm (chain :: store.boundChains) := by
    refine (List.perm_ext_iff_of_nodup (nodup_boundChains _)
      (List.nodup_cons.2 ⟨hnew, nodup_boundChains _⟩)).2 fun other => ?_
    rw [mem_boundChains hafter, channel?_bind, List.mem_cons, mem_boundChains h]
    by_cases hother : other = chain <;> simp [hother]
  exact hperm.length_eq

theorem Handshake.measurements_closing (service : Service) (channel : ChannelId) :
    Output.measurements (closing service channel) = [] := by
  rw [closing]
  cases service.capabilities service.config.port channel with
  | none => rfl
  | some ticket =>
    cases hclose : service.closer service.config.port channel ticket <;>
      simp [hclose, Output.measurements]

/-- The result is a refusal of a duplicate. -/
def Handshake.isRefusal : Except ProviderError Unit → Bool
  | .error (.duplicateRegistration _ _ _) => true
  | _ => false

/-- All that a confirm comes to, with what it measures. -/
inductive Handshake.Confirms (service : Service) (height : Height) (channel : ChannelId)
    (store : Store) : Except ProviderError Unit → Store → List Measurement → Prop where
  /-- The channel cannot be resolved. -/
  | unresolved {error : ProviderError} (h : Undisputed error) :
    Confirms service height channel store (.error error) store []
  /-- A free chain is bound to it. -/
  | bound {chain : ChainId} (h : store.channel? chain = none) :
    Confirms service height channel store (.ok ()) (store.bind chain channel height) [.channelBound]
  /-- It is bound already. -/
  | again : Confirms service height channel store (.ok ()) store []
  /-- It is refused for another. -/
  | refused (chain : ChainId) (existing : ChannelId) :
    Confirms service height channel store
      (.error (.duplicateRegistration chain existing channel)) (store.mark channel .invalid)
      [.duplicateRejected]

/-- **All that a confirm comes to.** -/
theorem Call.confirms (service : Service) (height : Height) (channel : ChannelId) {store : Store}
    (h : store.Typed) : Handshake.Confirms service height channel store
      ((Call.transition ⟨service, .openConfirm height channel⟩).run store).result
      (Call.after ⟨service, .openConfirm height channel⟩ store)
      (Call.measured ⟨service, .openConfirm height channel⟩ store) := by
  have hrun : (Call.transition ⟨service, .openConfirm height channel⟩).run store =
      (Handshake.bind service height channel >>= fun _ => pure ()).run store := rfl
  rw [Call.after, Call.measured, Call.outputs, hrun]
  cases hresolve : Handshake.resolveChain service channel with
  | error error =>
    rw [run_bind_error (Handshake.run_bind_of_unresolved hresolve height store)]
    exact .unresolved (Handshake.undisputed_of_resolveChain hresolve)
  | ok chain =>
    have hbind := Handshake.run_bind_of_resolved hresolve height h
    cases hfound : store.channel? chain with
    | none =>
      rw [hfound] at hbind
      rw [run_bind_ok hbind]
      exact .bound hfound
    | some existing =>
      rw [hfound] at hbind
      by_cases hsame : existing = channel
      · rw [run_bind_ok (hbind.trans (if_pos hsame))]
        exact .again
      · rw [run_bind_error (hbind.trans (if_neg hsame))]
        have hmeasured : Output.measurements (Handshake.refusal service chain existing channel) =
            [.duplicateRejected] := by
          rw [Handshake.refusal, Output.measurements_append, Handshake.measurements_closing]
          rfl
        rw [hmeasured]
        exact .refused chain existing

namespace Handshake.Confirms

variable {service : Service} {height : Height} {channel : ChannelId} {store after : Store}
  {result : Except ProviderError Unit} {measured : List Measurement}

theorem length_boundChains (h : Confirms service height channel store result after measured)
    (hstore : store.Typed) (hafter : after.Typed) :
    after.boundChains.length = store.boundChains.length + measured.count .channelBound := by
  cases h with
  | unresolved => rfl
  | bound hfree => exact Store.length_boundChains_bind hstore hfree hafter
  | again => rfl
  | refused =>
    rw [Store.boundChains_congr hstore hafter fun chain => Store.channel?_mark ..]
    rfl

theorem count_duplicates (h : Confirms service height channel store result after measured) :
    measured.count .duplicateRejected = if isRefusal result then 1 else 0 := by
  cases h with
  | @unresolved error hundisputed =>
    have hother : isRefusal (.error error : Except ProviderError Unit) = false := by
      cases error with
      | duplicateRegistration chain existing rejected => exact absurd rfl (hundisputed _ _ _)
      | _ => rfl
    rw [hother]
    rfl
  | bound => rfl
  | again => rfl
  | refused => rfl

end Handshake.Confirms

/-- **Bindings are measured.** -/
theorem Call.length_boundChains_after {store : Store} (h : store.Typed) (call : Call) :
    (call.after store).boundChains.length =
      store.boundChains.length + (call.measured store).count .channelBound := by
  have hafter : (call.after store).Typed :=
    typed_run (call.service.perform_within call.operation) h
  obtain ⟨service, operation⟩ := call
  cases operation with
  | openConfirm height channel =>
    exact (Call.confirms service height channel h).length_boundChains h hafter
  | _ =>
    rw [Call.count_measured_eq_zero (by simp [Operation.mayGive]), Nat.add_zero]
    refine congrArg List.length (Store.boundChains_congr h hafter fun chain => ?_)
    exact Call.record?_after _ (by simp [Operation.footprint]) store

/-- The action is a confirm that is refused as a duplicate. -/
def Performed.refusesDuplicate : Performed Action → Bool
  | ⟨_, .ask ⟨_, .openConfirm _ _⟩, result⟩ => Handshake.isRefusal result
  | _ => false

/-- **Refusals are measured.** -/
theorem Call.count_duplicates {store : Store} (h : store.Typed) (call : Call) :
    (call.measured store).count .duplicateRejected =
      if (Steps.performed (Action.ask call) store).refusesDuplicate then 1 else 0 := by
  obtain ⟨service, operation⟩ := call
  cases operation with
  | openConfirm height channel => exact (Call.confirms service height channel h).count_duplicates
  | _ => exact Call.count_measured_eq_zero (by simp [Operation.mayGive]) store

/-! ## The version -/

theorem Service.measurements_loading (service : Service) (genesis : ProviderGenesis) :
    Output.measurements (service.loading genesis) = [.version genesis.version] := by
  rw [loading]
  split <;> simp [Output.measurements]

/-- The gauge goes on to show the version over a call that neither measures nor writes it. -/
theorem Call.shows_of_kept {call : Call} (hquiet : ∀ version,
    ¬ call.operation.mayGive (.measure (.version version)))
    (hkey : ¬ call.operation.footprint .version) {store : Store} {metrics : Metrics}
    (hshows : metrics.Shows store.version) :
    (metrics.recordAll (call.measured store)).Shows (call.after store).version := by
  have hkept : ∀ measurement ∈ call.measured store, ∀ version,
      measurement ≠ .version version := by
    rintro _ hmem version rfl
    exact hquiet version (Call.mayGive_of_mem_measured hmem)
  rwa [Metrics.Shows, Metrics.version_recordAll hkept, Store.version, call.record?_after hkey]

/-- **The gauge shows the current version.** -/
theorem Call.shows_after {store : Store} (h : store.Typed) (call : Call) {metrics : Metrics}
    (hshows : metrics.Shows store.version) :
    (metrics.recordAll (call.measured store)).Shows (call.after store).version := by
  obtain ⟨service, operation⟩ := call
  cases operation with
  | initGenesis genesis =>
    have hrun : (Call.transition ⟨service, .initGenesis genesis⟩).run store = _ :=
      service.run_initGenesis_eq genesis store
    have hversion := service.record?_version_initGenesis genesis store
    rw [service.run_initGenesis_eq] at hversion
    rw [Call.measured, Call.outputs, Call.after, hrun, service.measurements_loading, Store.version,
      hversion]
    rfl
  | endBlock height =>
    have hrun : (Call.transition ⟨service, .endBlock height⟩).run store = _ :=
      service.run_endBlock height h
    rw [Call.measured, Call.outputs, Call.after, hrun]
    cases Versioning.next store.version with
    | ok following =>
      have hheld : ((store.closing service height).hold .version following).record? .version =
          some following := Store.record?_hold_self _ trivial
      simp only [Store.version, hheld]
      rfl
    | error error =>
      show metrics.Shows (store.closing service height).version
      rwa [Store.version_closing]
  | _ => exact Call.shows_of_kept (by simp [Operation.mayGive]) (by simp [Operation.footprint]) hshows

/-! ## Entries -/

namespace Store

/-- The keys of the entries that are held. -/
def entryKeys (store : Store) : List Bytes :=
  (store.under KeyFamily.unbondingEntry.stem).map Prod.fst

theorem mem_entryKeys {store : Store} (h : store.WellFormed) {key : Bytes} :
    key ∈ store.entryKeys ↔ ∃ id, (store.held? id).isSome ∧ (Key.entry id).bytes = key := by
  rw [entryKeys, List.mem_map]
  constructor
  · rintro ⟨entry, hentry, rfl⟩
    obtain ⟨found, hfamily, record, -, rfl⟩ := h.listed hentry
    cases found <;> cases hfamily
    refine ⟨_, ?_, rfl⟩
    rw [held?, ← (h.sound _).isSome_get?, (SortedMap.mem_under_iff.1 hentry).1]
    rfl
  · rintro ⟨id, hheld, rfl⟩
    rw [held?, ← (h.sound _).isSome_get?] at hheld
    obtain ⟨value, hvalue⟩ := Option.isSome_iff_exists.1 hheld
    refine ⟨((Key.entry id).bytes, value), SortedMap.mem_under_iff.2 ⟨hvalue, ?_⟩, rfl⟩
    rw [Key.stem_isPrefixOf_bytes]
    rfl

theorem nodup_entryKeys (store : Store) : store.entryKeys.Nodup := by
  refine List.pairwise_map.2 ((SortedMap.sorted_under store _).imp ?_)
  intro first second hbefore heq
  have hself : Bytes.order first.1 second.1 = .lt := hbefore
  rw [heq, Bytes.order_self] at hself
  cases hself

/-- A store that holds entries under some ids besides those of another has so many more. -/
theorem length_entryKeys {larger smaller : Store} (hlarger : larger.WellFormed)
    (hsmaller : smaller.WellFormed) {ids : List EntryId} (hnodup : ids.Nodup)
    (hnew : ∀ id ∈ ids, smaller.held? id = none)
    (hheld : ∀ id, (larger.held? id).isSome ↔ (smaller.held? id).isSome ∨ id ∈ ids) :
    larger.entryKeys.length = smaller.entryKeys.length + ids.length := by
  have hids : (ids.map fun id => (Key.entry id).bytes).Nodup :=
    hnodup.map fun _ _ heq => Key.entry.inj (Key.bytes_injective heq)
  have hapart : ∀ key ∈ smaller.entryKeys,
      ∀ other ∈ ids.map fun id => (Key.entry id).bytes, key ≠ other := by
    rintro _ hkey _ hother rfl
    obtain ⟨id, hid, hbytes⟩ := List.mem_map.1 hother
    obtain ⟨held, hsome, hsame⟩ := (mem_entryKeys hsmaller).1 hkey
    obtain rfl := Key.entry.inj (Key.bytes_injective (hsame.trans hbytes.symm))
    rw [hnew _ hid] at hsome
    cases hsome
  have hperm : larger.entryKeys.Perm
      (smaller.entryKeys ++ ids.map fun id => (Key.entry id).bytes) := by
    refine (List.perm_ext_iff_of_nodup larger.nodup_entryKeys
      (List.nodup_append.2 ⟨smaller.nodup_entryKeys, hids, hapart⟩)).2 fun key => ?_
    simp only [List.mem_append, List.mem_map, mem_entryKeys hlarger, mem_entryKeys hsmaller, hheld,
      or_and_right, exists_or]
  simpa using hperm.length_eq

/-- A store that holds the same entries has as many. -/
theorem length_entryKeys_of_kept {before after : Store} (hafter : after.WellFormed)
    (hbefore : before.WellFormed) (h : ∀ id, after.held? id = before.held? id) :
    after.entryKeys.length = before.entryKeys.length :=
  length_entryKeys hafter hbefore .nil (List.forall_mem_nil _) fun id => by simp [h]

end Store

namespace Unbonding

variable {store : Store}

theorem measurements_gate {id : EntryId} {version : Version} {chains : List ChainId}
    (h : (gate id version chains).Tells store ()) :
    Output.measurements ((gate id version chains).run store).outputs = [.entryCreated] := by
  have hloop : Gives (fun _ => False) (chains.forM (addToBucket id version)) :=
    .forM fun chain _ => gives_addToBucket id version chain
  obtain ⟨_, -, hput, hmeasured⟩ := measurements_bind_of_quiet hloop h
  obtain ⟨_, -, -, hlast⟩ := measurements_bind_of_quiet (gives_request _) hput
  exact hmeasured.trans hlast

/-- What an acknowledgement that tells these ids measures: how many they are, if the bucket held
anything. -/
def Completes (completed : List EntryId) (measured : List Measurement) : Prop :=
  (completed = [] ∧ measured = []) ∨ measured = [.entriesCompleted (UInt64.ofNat completed.length)]

theorem completes_settle {chain : ChainId} {version : Version} {entries : List UnbondingEntry}
    {completed : List EntryId} (h : (settle chain version entries).Tells store completed) :
    Output.measurements ((settle chain version entries).run store).outputs =
      [.entriesCompleted (UInt64.ofNat completed.length)] := by
  have hloop : Gives (fun _ => False) (entries.forM settleEntry) :=
    .forM fun entry _ => gives_settleEntry entry
  obtain ⟨_, -, hdelete, hmeasured⟩ := measurements_bind_of_quiet hloop h
  obtain ⟨_, -, hrest, hlast⟩ := measurements_bind_of_quiet (gives_request _) hdelete
  obtain rfl : completedIds entries = completed := Except.ok.inj hrest
  exact hmeasured.trans hlast

theorem completes_acknowledge {chain : ChainId} {version : Version} {completed : List EntryId}
    (h : (acknowledge chain version).Tells store completed) :
    Completes completed (Output.measurements ((acknowledge chain version).run store).outputs) := by
  obtain ⟨entries, -, hrest, hmeasured⟩ :=
    measurements_bind_of_quiet (gives_entriesInBucket chain version) h
  rw [acknowledge, hmeasured]
  by_cases hempty : entries.isEmpty = true
  · rw [if_pos hempty] at hrest ⊢
    exact .inl ⟨(Except.ok.inj hrest).symm, rfl⟩
  · rw [if_neg hempty] at hrest ⊢
    obtain ⟨acknowledged, -, hsettle, hsettled⟩ := measurements_bind_of_quiet (gives_ofExcept _) hrest
    rw [hsettled]
    exact .inr (completes_settle hsettle)

end Unbonding

/-- Each token that is appended is measured under the name of the chain. -/
theorem SlashQueue.measurements_appendAll {chain : ChainId} {tokens : List String} {store : Store}
    (h : (tokens.forM (append chain)).Tells store ()) :
    Output.measurements ((tokens.forM (append chain)).run store).outputs =
      tokens.map fun _ => .slashAck chain.name := by
  induction tokens generalizing store with
  | nil => rfl
  | cons token rest ih =>
    obtain ⟨_, hone, hrest, hmeasured⟩ := measurements_bind h
    obtain ⟨_, -, hput, hpending⟩ := measurements_bind_of_quiet (gives_pending chain) hone
    obtain ⟨_, -, -, hlast⟩ := measurements_bind_of_quiet (gives_request _) hput
    rw [List.map_cons, ← ih hrest]
    exact hmeasured.trans (congrArg (· ++ _) (hpending.trans hlast))

/-- All that a packet comes to, with what it measures. -/
inductive Call.Packet (channel : ChannelId) (ack : MaturityAcknowledgement) (store : Store) :
    Except ProviderError (List EntryId) → Store → List Measurement → Prop where
  /-- The channel is not bound. -/
  | unbound (h : store.chain? channel = none) :
    Packet channel ack store (.error (.channelNotFound channel)) store []
  /-- The chain of the channel acknowledges, and the tokens join its queue. -/
  | credited {chain : ChainId} {completed : List EntryId} {after : Store}
    {measured : List Measurement} (h : store.chain? channel = some chain)
    (hcompleted : completed =
      (store.waiting chain ack.version).filter fun id => (after.held? id).isNone)
    (hafter : store.Acknowledged chain ack.version after)
    (hmeasured : Unbonding.Completes completed measured) :
    Packet channel ack store (.ok completed) after
      (measured ++ ack.slashAcks.map fun _ => .slashAck chain.name)

/-- **All that a packet comes to.** -/
theorem Call.packet (service : Service) (channel : ChannelId) (ack : MaturityAcknowledgement)
    {store : Store} (hstore : store.WellFormed) (hmirrored : store.Mirrored)
    (hshort : (service.acknowledgePacket channel ack).Short store) :
    Call.Packet channel ack store
      ((Call.transition ⟨service, .acknowledgePacket channel ack⟩).run store).result
      (Call.after ⟨service, .acknowledgePacket channel ack⟩ store)
      (Call.measured ⟨service, .acknowledgePacket channel ack⟩ store) := by
  have hrun : (Call.transition ⟨service, .acknowledgePacket channel ack⟩).run store =
      (service.acknowledgePacket channel ack).run store := rfl
  rw [Call.after, Call.measured, Call.outputs, hrun]
  rcases service.acknowledgePacket_cases channel ack hstore hmirrored.backed
      hmirrored.bucket_ne_nil hshort with ⟨hunbound, hrefused⟩ | ⟨chain, hbound, hresult, hafter⟩
  · rw [hrefused]
    exact .unbound hunbound
  · have hcredit := service.run_acknowledgePacket ack hstore.typed hbound
    rw [hcredit] at hresult hafter ⊢
    obtain ⟨completed, hacknowledged, hrest, hmeasured⟩ := measurements_bind hresult
    obtain ⟨_, hqueued, hlast, hqueuedMeasured⟩ := measurements_bind hrest
    obtain rfl := Except.ok.inj hlast
    have htokens := measurements_appendAll hqueued
    have hcompletes := Unbonding.completes_acknowledge hacknowledged
    have hall : Output.measurements ((ack.creditTo chain).run store).outputs =
        Output.measurements ((Unbonding.acknowledge chain ack.version).run store).outputs ++
          ack.slashAcks.map fun _ => .slashAck chain.name := by
      rw [MaturityAcknowledgement.creditTo, hmeasured, hqueuedMeasured, htokens]
      exact congrArg (_ ++ ·) (List.append_nil _)
    rw [hall, hresult]
    exact .credited hbound rfl hafter hcompletes

namespace Call

variable {store : Store}

theorem released_eq_zero {call : Call}
    (h : ∀ count, ¬ call.operation.mayGive (.measure (.entriesCompleted count))) (store : Store) :
    ((call.measured store).map Metrics.released).sum = 0 := by
  refine List.sum_eq_zero fun count hcount => ?_
  obtain ⟨measurement, hmem, rfl⟩ := List.mem_map.1 hcount
  cases measurement with
  | entriesCompleted count => exact absurd (mayGive_of_mem_measured hmem) (h count)
  | _ => rfl

/-- A creation measures the entry that it stores. -/
theorem length_entries_created (service : Service) (notice : UnbondingNotice)
    (hstore : store.WellFormed) (hshort : (service.unbondingCreated notice).Short store)
    (hafter : (Call.after ⟨service, .unbondingCreated notice⟩ store).WellFormed) :
    (Call.after ⟨service, .unbondingCreated notice⟩ store).entryKeys.length =
      store.entryKeys.length +
        (Call.measured ⟨service, .unbondingCreated notice⟩ store).count .entryCreated := by
  have hreport := run_report
    (.unbondingAnnounced notice.id notice.validator notice.creationHeight) store
  have hcall : (Call.transition ⟨service, .unbondingCreated notice⟩).run store =
      ((Unbonding.create notice.id).run store).prepend _ := run_bind_ok hreport
  have hcreate := Unbonding.run_create notice.id hstore
  rw [Call.after, hcall] at hafter
  rw [Call.after, Call.measured, Call.outputs, hcall]
  simp only [Outcome.prepend] at hafter ⊢
  rw [hcreate] at hafter ⊢
  cases hheld : store.held? notice.id with
  | some entry => rfl
  | none =>
    simp only [hheld] at hafter
    by_cases hchains : store.boundChains = []
    · rw [hchains]
      rfl
    · have hsome : ¬ store.boundChains.isEmpty = true := fun hnil =>
        hchains (List.isEmpty_iff.1 hnil)
      simp only [if_neg hsome] at hafter ⊢
      have hgate := Unbonding.short_gate hstore hheld hchains (hshort.after hreport)
      obtain ⟨htells, hgated⟩ := Unbonding.run_gate notice.id hstore hgate
      rw [Output.measurements_append, Unbonding.measurements_gate htells]
      -- the entry was not held before, so there is one more
      refine Store.length_entryKeys hafter hstore (List.nodup_singleton notice.id) ?_ fun id => ?_
      · exact fun id hid => List.mem_singleton.1 hid ▸ hheld
      · simp only [Option.isSome_iff_exists, hgated.held?_eq_some_iff, List.mem_singleton]
        by_cases hid : id = notice.id <;> simp [hid]

/-- A packet measures the entries that it releases. -/
theorem Packet.length_entries {channel : ChannelId} {ack : MaturityAcknowledgement}
    {result : Except ProviderError (List EntryId)} {after : Store} {measured : List Measurement}
    (h : Packet channel ack store result after measured) (hstore : store.WellFormed)
    (hmirrored : store.Mirrored) (hafter : after.WellFormed) :
    ∃ released : Nat, (measured.map Metrics.released).sum = UInt64.ofNat released ∧
      store.entryKeys.length = after.entryKeys.length + released := by
  cases h with
  | unbound => exact ⟨0, rfl, rfl⟩
  | @credited chain completed _ measured hbound hcompleted hleft hmeasured =>
    refine ⟨completed.length, ?_, ?_⟩
    · have htokens (tokens : List String) :
          ((tokens.map fun _ => Measurement.slashAck chain.name).map Metrics.released).sum = 0 := by
        simp [Metrics.released]
      rw [List.map_append, List.sum_append, htokens]
      rcases hmeasured with ⟨rfl, rfl⟩ | rfl
      · rfl
      · simp [Metrics.released]
    · subst hcompleted
      -- read backwards: before the packet there were the released entries besides those after it
      refine Store.length_entryKeys hstore hafter ((hmirrored.nodup _ _).filter _) ?_ fun id => ?_
      · exact fun id hid => Option.isNone_iff_eq_none.1 (List.mem_filter.1 hid).2
      · by_cases hid : id ∈ store.waiting chain ack.version
        · rw [(hmirrored.backed chain ack.version).held?_eq hid]
          cases hgone : after.held? id <;> simp [hid, hgone]
        · rw [hleft.held_of_not_mem id hid]
          simp [hid]

/-- **Entries are measured as they are stored and as they are released.** -/
theorem length_entries_after (hstore : store.WellFormed) (hmirrored : store.Mirrored) (call : Call)
    (hshort : call.transition.Short store) :
    ∃ released : Nat, ((call.measured store).map Metrics.released).sum = UInt64.ofNat released ∧
      store.entryKeys.length + (call.measured store).count .entryCreated =
        (call.after store).entryKeys.length + released := by
  have hafter : (call.after store).WellFormed :=
    wellFormed_run (call.service.perform_within call.operation) hshort hstore
  obtain ⟨service, operation⟩ := call
  cases operation with
  | unbondingCreated notice =>
    refine ⟨0, released_eq_zero (by simp [Operation.mayGive]) store, ?_⟩
    exact (length_entries_created service notice hstore hshort hafter).symm
  | acknowledgePacket channel ack =>
    rw [count_measured_eq_zero (by simp [Operation.mayGive])]
    exact (Call.packet service channel ack hstore hmirrored hshort).length_entries hstore hmirrored
      hafter
  | _ =>
    refine ⟨0, released_eq_zero (by simp [Operation.mayGive]) store, ?_⟩
    rw [count_measured_eq_zero (by simp [Operation.mayGive])]
    refine (Store.length_entryKeys_of_kept hafter hstore fun id => ?_).symm
    exact Call.record?_after _ (by simp [Operation.footprint]) store

/-- A packet measures the tokens that it queues. -/
theorem Packet.count_labels {channel : ChannelId} {ack : MaturityAcknowledgement}
    {result : Except ProviderError (List EntryId)} {after : Store} {measured : List Measurement}
    (h : Packet channel ack store result after measured) (hstore : store.WellFormed)
    (service : Service) (chain : ChainId) :
    (Metrics.labels measured).count chain.name =
      (Performed.takenIn chain ⟨store, .ask ⟨service, .acknowledgePacket channel ack⟩,
        result⟩).length := by
  cases h with
  | unbound => rfl
  | @credited bound completed _ measured hbound _ _ hmeasured =>
    have hfound := Registry.run_chainOf (hstore.sound (.chainOf channel))
    have hcredited : Performed.creditedTo? store channel = some bound := by
      rw [Performed.creditedTo?, hfound, hbound]
    have hnone : Metrics.labels measured = [] := by
      rcases hmeasured with ⟨-, rfl⟩ | rfl <;> rfl
    have htokens : Metrics.labels (ack.slashAcks.map fun _ => .slashAck bound.name) =
        ack.slashAcks.map fun _ => bound.name := by
      simp [Metrics.labels]
    rw [Metrics.labels_append, hnone, htokens, List.nil_append, Performed.takenIn, hcredited]
    by_cases hchain : bound = chain
    · rw [hchain, if_pos rfl, List.map_const', List.count_replicate_self]
    · have hname : bound.name ≠ chain.name := fun heq => hchain (congrArg ChainId.mk heq)
      rw [if_neg fun heq => hchain (Option.some.inj heq), List.map_const', List.count_replicate,
        if_neg (by simpa using hname)]
      rfl

/-- **Queued tokens are measured**, under the name of the chain. -/
theorem count_labels (hstore : store.WellFormed) (hmirrored : store.Mirrored) (call : Call)
    (hshort : call.transition.Short store) (chain : ChainId) :
    (Metrics.labels (call.measured store)).count chain.name =
      ((Steps.performed (Action.ask call) store).takenIn chain).length := by
  obtain ⟨service, operation⟩ := call
  cases operation with
  | acknowledgePacket channel ack =>
    exact (Call.packet service channel ack hstore hmirrored hshort).count_labels hstore service chain
  | _ =>
    refine List.count_eq_zero.2 fun hmem => ?_
    obtain ⟨measurement, hmeasured, hlabel⟩ := List.mem_filterMap.1 hmem
    cases measurement with
    | slashAck name => exact absurd (mayGive_of_mem_measured hmeasured) (by simp [Operation.mayGive])
    | _ => cases hlabel

end Call
end SharedSecurity
