import SharedSecurity.Operation
import SharedSecurity.Proofs.Listing
import SharedSecurity.Proofs.Records

/-!
# What an operation may write

`Transition.WritesWithin P` says of a transition, without running it, that whatever the store
answers it writes only records of keys with the property `P`.  Being read off the tree it holds on
every store, damaged ones included, and it composes: one rule for each way to build a transition,
then one line for each function of the provider.

* `Operation.footprint` — the keys an operation may write, and `Service.perform_within`.
* `Transition.get?_run_of_ne`, `Transition.get?_run` — **the frame**: on a plain store a run changes
  nothing but what is under those keys.
* `Store.SameBut`, `Transition.sameBut_run` — the frame of a run that writes at one key only.
-/

set_option autoImplicit false
namespace SharedSecurity

open Transition

/-! ## Writes of a transition -/

/-- The write is at a key with the property, and puts a record of that key there, if anything. -/
def Write.Within (P : Key → Prop) (change : Write) : Prop :=
  ∃ key, P key ∧ change.key = key.bytes ∧
    ∀ value, change.value? = some value → ∃ record, value = key.encode record

/-- The writes of a request are records of keys with the property. -/
def Request.Within (P : Key → Prop) : Request → Prop
  | .get _ => True
  | .scan _ => True
  | .write change => change.Within P
  | .batch changes => ∀ change ∈ changes, change.Within P

namespace Transition

variable {α β σ : Type} {P Q : Key → Prop}

/-- Whatever the store answers, the writes are records of keys with the property. -/
def WritesWithin (P : Key → Prop) : Transition α → Prop
  | done _ => True
  | ask question next => question.Within P ∧ ∀ answer, (next answer).WritesWithin P
  | emit _ next => next.WritesWithin P

theorem WritesWithin.mono (h : ∀ key, P key → Q key) {t : Transition α}
    (ht : t.WritesWithin P) : t.WritesWithin Q := by
  induction t with
  | done result => trivial
  | emit output next ih => exact ih ht
  | ask question next ih =>
    have hwrite {change : Write} : change.Within P → change.Within Q :=
      fun ⟨key, hkey, hrest⟩ => ⟨key, h key hkey, hrest⟩
    refine ⟨?_, fun answer => ih answer (ht.2 answer)⟩
    cases question with
    | get => trivial
    | scan => trivial
    | write change => exact hwrite ht.1
    | batch changes => exact fun change hchange => hwrite (ht.1 change hchange)

theorem WritesWithin.bind {t : Transition α} {next : α → Transition β} (ht : t.WritesWithin P)
    (hnext : ∀ value, (next value).WritesWithin P) : (t >>= next).WritesWithin P := by
  rw [bind_eq]
  induction t with
  | done result => cases result with
    | ok value => exact hnext value
    | error error => trivial
  | emit output rest ih => exact ih ht
  | ask question rest ih => exact ⟨ht.1, fun answer => ih answer (ht.2 answer)⟩

theorem WritesWithin.forM {f : α → Transition Unit} {values : List α}
    (h : ∀ value ∈ values, (f value).WritesWithin P) : (values.forM f).WritesWithin P := by
  induction values with
  | nil => trivial
  | cons value values ih =>
    have hvalues := List.forall_mem_cons.1 h
    exact .bind hvalues.1 fun _ => ih hvalues.2

theorem WritesWithin.mapM {f : α → Transition β} {values : List α}
    (h : ∀ value ∈ values, (f value).WritesWithin P) : (values.mapM f).WritesWithin P := by
  induction values with
  | nil => trivial
  | cons value values ih =>
    have hvalues := List.forall_mem_cons.1 h
    rw [List.mapM_cons]
    exact .bind hvalues.1 fun _ => .bind (ih hvalues.2) fun _ => trivial

/-- Putting a record under its key. -/
theorem WritesWithin.put (key : Key) (h : P key) (record : key.Record) :
    (Transition.put key.bytes (key.encode record)).WritesWithin P :=
  ⟨⟨key, h, rfl, fun _ hvalue => ⟨record, (Option.some.inj hvalue).symm⟩⟩, fun _ => trivial⟩

/-- Removing the record of a key. -/
theorem WritesWithin.delete {key : Key} (h : P key) :
    (Transition.delete key.bytes).WritesWithin P :=
  ⟨⟨key, h, rfl, fun _ hvalue => nomatch hvalue⟩, fun _ => trivial⟩

theorem within_get? (key : Bytes) : (get? key).WritesWithin P := ⟨trivial, fun _ => trivial⟩

theorem within_scan (stem : Bytes) : (scan stem).WritesWithin P := ⟨trivial, fun _ => trivial⟩

theorem within_contains (key : Bytes) : (contains key).WritesWithin P :=
  .bind (within_get? key) fun _ => trivial

end Transition

/-! ## The provider's functions -/

section

variable {P : Key → Prop}

theorem Stored.within_read? {α : Type} (decode : Bytes → Except ProviderError α) (key : Key) :
    (read? decode key).WritesWithin P :=
  .bind (within_get? _) fun found => by cases found <;> trivial

theorem Stored.within_visit {α β : Type} (family : KeyFamily)
    (decode : Bytes × Bytes → Except ProviderError (Option α)) (start : β)
    (see : α → β → ForInStep β) : (visit family decode start see).WritesWithin P :=
  .bind (within_scan _) fun _ => trivial

namespace Registry

theorem within_channelOf (chain : ChainId) : (channelOf chain).WritesWithin P :=
  .bind (Stored.within_read? ..) fun _ => trivial

theorem within_chainOf (channel : ChannelId) : (chainOf channel).WritesWithin P :=
  .bind (Stored.within_read? ..) fun _ => trivial

theorem within_boundChains : boundChains.WritesWithin P := Stored.within_visit ..

theorem within_status (channel : ChannelId) : (status channel).WritesWithin P :=
  .bind (Stored.within_read? ..) fun _ => trivial

theorem within_setStatus {channel : ChannelId} (h : P (.statusOf channel))
    (status : ChannelStatus) : (setStatus channel status).WritesWithin P :=
  WritesWithin.put _ h status

theorem within_markInitializing {channel : ChannelId} (h : P (.statusOf channel)) :
    (markInitializing channel).WritesWithin P :=
  .bind (within_status channel) fun current => by
    split
    · exact within_setStatus h _
    · trivial

theorem within_client? (chain : ChainId) : (client? chain).WritesWithin P :=
  .bind (Stored.within_read? ..) fun _ => trivial

theorem within_port? : port?.WritesWithin P := .bind (Stored.within_read? ..) fun _ => trivial

theorem within_register {registration : ConsumerRegistration}
    (hclient : P (.clientOf registration.chain)) (hgenesis : P (.genesisOf registration.chain)) :
    (register registration).WritesWithin P := by
  refine .bind (WritesWithin.put _ hclient registration.client) fun _ => ?_
  split
  · exact .bind (WritesWithin.put _ hgenesis registration.genesis) fun _ => trivial
  · trivial

theorem within_registrations : registrations.WritesWithin P :=
  .bind (within_scan _) fun _ => .mapM fun _ _ => .bind trivial fun _ => .bind trivial fun _ =>
    .bind (within_get? _) fun _ => trivial

end Registry

namespace Handshake

theorem within_boundChannel (chain : ChainId) : (boundChannel chain).WritesWithin P :=
  .bind (Registry.within_channelOf chain) fun found => by
    cases found with
    | none => trivial
    | some existing => exact .bind (Registry.within_status existing) fun _ => trivial

theorem within_requireInitializing (config : ProviderConfig) (channel : ChannelId) :
    (requireInitializing config channel).WritesWithin P := by
  rw [requireInitializing.eq_def]
  split
  · exact .bind (Registry.within_status channel) fun _ => by split <;> trivial
  · trivial

theorem within_verify (service : Service) (channel : ChannelId) (hops : List ConnectionId)
    (claimed : ChainId) : (verify service channel hops claimed).WritesWithin P :=
  .bind trivial fun _ => .bind (within_requireInitializing ..) fun _ => .bind trivial fun _ =>
    .bind trivial fun _ => .bind (Registry.within_client? _) fun _ => .bind trivial fun _ =>
    .bind (within_boundChannel _) fun _ => .bind trivial fun _ => trivial

theorem within_closeLoser (service : Service) (channel : ChannelId) :
    (closeLoser service channel).WritesWithin P := by
  rw [closeLoser]
  split
  · trivial
  · exact .bind trivial fun answer => by cases answer <;> trivial

theorem within_rejectDuplicate {α : Type} (service : Service) (chain : ChainId)
    (existing : ChannelId) {rejected : ChannelId} (h : P (.statusOf rejected)) :
    (rejectDuplicate (α := α) service chain existing rejected).WritesWithin P :=
  .bind (Registry.within_setStatus h _) fun _ => .bind (within_closeLoser ..) fun _ => trivial

theorem within_writeBinding {chain : ChainId} {channel : ChannelId} (height : Height)
    (hchannel : P (.channelOf chain)) (hchain : P (.chainOf channel))
    (hheight : P (.initHeightOf chain)) (hstatus : P (.statusOf channel)) :
    (writeBinding chain channel height).WritesWithin P :=
  .bind (WritesWithin.put _ hchannel channel) fun _ =>
    .bind (WritesWithin.put _ hchain chain) fun _ =>
    .bind (WritesWithin.put _ hheight height) fun _ =>
    .bind (Registry.within_setStatus hstatus _) fun _ => trivial

/-- Binding writes the keys of one chain and one channel. -/
theorem within_bind (service : Service) (height : Height) {channel : ChannelId}
    (hchannel : ∀ chain, P (.channelOf chain)) (hchain : P (.chainOf channel))
    (hheight : ∀ chain, P (.initHeightOf chain)) (hstatus : P (.statusOf channel)) :
    (bind service height channel).WritesWithin P :=
  .bind trivial fun chain => .bind (Registry.within_channelOf chain) fun found => by
    cases found with
    | none =>
      exact .bind (within_writeBinding height (hchannel chain) hchain (hheight chain) hstatus)
        fun _ => trivial
    | some existing =>
      show WritesWithin P (if existing = channel then _ else _)
      split
      · trivial
      · exact within_rejectDuplicate service chain existing hstatus

end Handshake

namespace Versioning

theorem within_current : current.WritesWithin P := .bind (Stored.within_read? ..) fun _ => trivial

theorem within_set (h : P .version) (version : Version) : (set version).WritesWithin P :=
  .bind (WritesWithin.put _ h version) fun _ => trivial

theorem within_advance (h : P .version) : advance.WritesWithin P :=
  .bind within_current fun _ => .bind trivial fun _ => .bind (within_set h _) fun _ => trivial

theorem within_recordHeight {version : Version} (h : P (.heightOf version)) (height : Height) :
    (recordHeight version height).WritesWithin P :=
  WritesWithin.put _ h height

end Versioning

namespace Unbonding

theorem within_bucket (chain : ChainId) (version : Version) :
    (bucket chain version).WritesWithin P :=
  .bind (Stored.within_read? ..) fun _ => trivial

theorem within_entriesInBucket (chain : ChainId) (version : Version) :
    (entriesInBucket chain version).WritesWithin P :=
  .bind (within_bucket chain version) fun _ => .mapM fun _ _ =>
    .bind (Stored.within_read? ..) fun found => by cases found <;> trivial

theorem within_mayComplete (id : EntryId) : (mayComplete id).WritesWithin P :=
  .bind (within_contains _) fun _ => trivial

theorem within_addToBucket (id : EntryId) {version : Version} {chain : ChainId}
    (h : P (.bucket chain version)) : (addToBucket id version chain).WritesWithin P :=
  .bind (within_bucket chain version) fun ids =>
    WritesWithin.put (.bucket chain version) h (ids ++ [id])

theorem within_create {id : EntryId} (hentry : P (.entry id))
    (hbucket : ∀ chain version, P (.bucket chain version)) : (create id).WritesWithin P :=
  .bind (within_contains _) fun stored => by
    show WritesWithin P (if stored = true then _ else _)
    split
    · trivial
    · refine .bind Versioning.within_current fun version =>
        .bind Registry.within_boundChains fun chains => ?_
      show WritesWithin P (if chains.isEmpty = true then _ else _)
      split
      · trivial
      · exact .bind (.forM fun chain _ => within_addToBucket id (hbucket chain version)) fun _ =>
          .bind (WritesWithin.put (.entry id) hentry ⟨id, version, chains⟩) fun _ => trivial

theorem within_settleEntry {entry : UnbondingEntry} (h : P (.entry entry.id)) :
    (settleEntry entry).WritesWithin P := by
  rw [settleEntry]
  split
  · exact WritesWithin.delete h
  · exact WritesWithin.put (.entry entry.id) h entry

theorem within_acknowledge (chain : ChainId) {version : Version} (hentry : ∀ id, P (.entry id))
    (hbucket : P (.bucket chain version)) : (acknowledge chain version).WritesWithin P :=
  .bind (within_entriesInBucket chain version) fun entries => by
    show WritesWithin P (if entries.isEmpty = true then _ else _)
    split
    · trivial
    · exact .bind trivial fun acknowledged =>
        .bind (.forM fun entry _ => within_settleEntry (hentry entry.id)) fun _ =>
        .bind (WritesWithin.delete hbucket) fun _ => trivial

end Unbonding

namespace SlashQueue

theorem within_pending (chain : ChainId) : (pending chain).WritesWithin P :=
  .bind (Stored.within_read? ..) fun _ => trivial

theorem within_append {chain : ChainId} (h : P (.slashQueueOf chain)) (token : String) :
    (append chain token).WritesWithin P :=
  .bind (within_pending chain) fun queue =>
    .bind (WritesWithin.put (.slashQueueOf chain) h (queue ++ [token])) fun _ => trivial

theorem within_drain {chain : ChainId} (h : P (.slashQueueOf chain)) :
    (drain chain).WritesWithin P :=
  .bind (within_pending chain) fun queue => by
    show WritesWithin P (if (!queue.isEmpty) = true then _ else _)
    split
    · exact .bind (WritesWithin.delete h) fun _ => trivial
    · trivial

theorem within_sweep (h : ∀ chain, P (.slashQueueOf chain)) : sweep.WritesWithin P :=
  .bind (Stored.within_visit ..) fun _ => .mapM fun chain _ =>
    .bind (within_drain (h chain)) fun _ => trivial

end SlashQueue

end

/-! ## Operations -/

/-- The keys that an operation may write. -/
def Operation.footprint : Operation → Key → Prop
  | .initGenesis _, key => key = .port ∨ key = .version ∨
      ∃ chain, key = .clientOf chain ∨ key = .genesisOf chain
  | .exportGenesis, _ => False
  | .registerConsumer registration, key =>
      key = .clientOf registration.chain ∨ key = .genesisOf registration.chain
  | .openInit channel, key => key = .statusOf channel
  | .openTry .., _ => False
  | .openConfirm _ channel, key => key = .chainOf channel ∨ key = .statusOf channel ∨
      ∃ chain, key = .channelOf chain ∨ key = .initHeightOf chain
  | .unbondingCreated notice, key => key = .entry notice.id ∨
      ∃ chain version, key = .bucket chain version
  | .beforeUnbondingCompletes _, _ => False
  | .acknowledgePacket _ ack, key => (∃ id, key = .entry id) ∨
      ∃ chain, key = .bucket chain ack.version ∨ key = .slashQueueOf chain
  | .endBlock _, key => key = .version ∨ ∃ version, key = .heightOf version
  | .sweep, key => ∃ chain, key = .slashQueueOf chain

/-- **An operation writes only within its footprint.** -/
theorem Service.perform_within (service : Service) (operation : Operation) :
    (service.perform operation).WritesWithin operation.footprint := by
  cases operation with
  | initGenesis genesis =>
    show (service.initGenesis genesis).WritesWithin _
    rw [initGenesis]
    have hload : WritesWithin (Operation.initGenesis genesis).footprint
        (do
          Registry.setPort genesis.port
          Versioning.set genesis.version
          genesis.consumers.forM Registry.register
          report (.genesisLoaded genesis.port genesis.version genesis.consumers.length)) :=
      .bind (WritesWithin.put .port (.inl rfl) genesis.port) fun _ =>
        .bind (Versioning.within_set (.inr (.inl rfl)) _) fun _ =>
        .bind (.forM fun registration _ => Registry.within_register
          (.inr (.inr ⟨registration.chain, .inl rfl⟩))
          (.inr (.inr ⟨registration.chain, .inr rfl⟩))) fun _ => trivial
    split
    · exact .bind trivial fun _ => hload
    · exact hload
  | exportGenesis =>
    exact .bind Registry.within_port? fun _ => .bind Versioning.within_current fun _ =>
      .bind Registry.within_registrations fun _ => trivial
  | registerConsumer registration => exact Registry.within_register (.inl rfl) (.inr rfl)
  | openInit channel => exact Registry.within_markInitializing rfl
  | openTry channel hops claimed => exact Handshake.within_verify ..
  | openConfirm height channel =>
    exact .bind (Handshake.within_bind service height (fun chain => .inr (.inr ⟨chain, .inl rfl⟩))
      (.inl rfl) (fun chain => .inr (.inr ⟨chain, .inr rfl⟩)) (.inr (.inl rfl))) fun _ => trivial
  | unbondingCreated notice =>
    exact .bind trivial fun _ =>
      Unbonding.within_create (.inl rfl) fun chain version => .inr ⟨chain, version, rfl⟩
  | beforeUnbondingCompletes id => exact Unbonding.within_mayComplete id
  | acknowledgePacket channel ack =>
    refine .bind (Registry.within_chainOf channel) fun found => ?_
    cases found with
    | none => trivial
    | some chain =>
      exact .bind (Unbonding.within_acknowledge chain (fun id => .inl ⟨id, rfl⟩)
        (.inr ⟨chain, .inl rfl⟩)) fun _ => .bind (.forM fun token _ =>
        SlashQueue.within_append (.inr ⟨chain, .inr rfl⟩) token) fun _ => trivial
  | endBlock height =>
    show (service.endBlock height).WritesWithin _
    rw [endBlock]
    have hadvance : Versioning.advance.WritesWithin (Operation.endBlock height).footprint :=
      Versioning.within_advance (.inl rfl)
    split
    · exact .bind Versioning.within_current fun version =>
        .bind (Versioning.within_recordHeight (.inr ⟨version, rfl⟩) height) fun _ => hadvance
    · exact hadvance
  | sweep => exact SlashQueue.within_sweep fun chain => ⟨chain, rfl⟩

/-! ## The frame -/

theorem Store.get?_apply_of_within {P : Key → Prop} {change : Write} (h : change.Within P)
    {key : Bytes} (hkey : ∀ other, P other → key ≠ other.bytes) (store : Store) :
    (store.apply change).get? key = store.get? key := by
  obtain ⟨other, hother, hbytes, -⟩ := h
  rw [get?_apply, if_neg]
  rw [hbytes]
  exact hkey other hother

theorem Store.get?_applyAll_of_within {P : Key → Prop} {changes : List Write}
    (h : ∀ change ∈ changes, change.Within P) {key : Bytes}
    (hkey : ∀ other, P other → key ≠ other.bytes) (store : Store) :
    (store.applyAll changes).get? key = store.get? key := by
  induction changes generalizing store with
  | nil => rfl
  | cons change changes ih =>
    obtain ⟨hchange, hchanges⟩ := List.forall_mem_cons.1 h
    rw [applyAll, List.foldl_cons, ← applyAll, ih hchanges]
    exact get?_apply_of_within hchange hkey store

/-- Both stores hold the same bytes at every key but one. -/
def Store.SameBut (before : Store) (key : Key) (after : Store) : Prop :=
  ∀ other, other ≠ key.bytes → after.get? other = before.get? other

theorem Store.sameBut_hold (store : Store) (key : Key) (record : key.Record) :
    store.SameBut key (store.hold key record) :=
  fun _ hother => SortedMap.get?_insert_of_ne store hother _

namespace Transition

variable {α : Type} {P : Key → Prop}

/-- **The frame**, byte by byte.  A run changes nothing but the keys that it may write; what is
under no typed key is never changed. -/
theorem get?_run_of_ne {t : Transition α} (ht : t.WritesWithin P) {key : Bytes}
    (hkey : ∀ other, P other → key ≠ other.bytes) (store : Store) :
    (t.run store).store.get? key = store.get? key := by
  induction t generalizing store with
  | done result => rfl
  | emit output next ih => exact ih ht store
  | ask question next ih =>
    cases question with
    | get sought => exact ih _ (ht.2 _) store
    | scan stem => exact ih _ (ht.2 _) store
    | write change =>
      exact (ih () (ht.2 ()) _).trans (Store.get?_apply_of_within ht.1 hkey store)
    | batch changes =>
      exact (ih () (ht.2 ()) _).trans (Store.get?_applyAll_of_within ht.1 hkey store)

/-- The frame at a typed key. -/
theorem get?_run {t : Transition α} (ht : t.WritesWithin P) {key : Key} (hkey : ¬ P key)
    (store : Store) : (t.run store).store.get? key.bytes = store.get? key.bytes := by
  refine get?_run_of_ne ht (fun other hother heq => ?_) store
  exact hkey (Key.bytes_injective heq ▸ hother)

/-- The frame of a run that may write a single key. -/
theorem sameBut_run {t : Transition α} {key : Key} (ht : t.WritesWithin (· = key))
    (store : Store) : store.SameBut key (t.run store).store :=
  fun _ hother => get?_run_of_ne ht (fun _ hkey => hkey ▸ hother) store

/-- A run that may write no key leaves the store as it is. -/
theorem store_run_of_reads {t : Transition α} (ht : t.WritesWithin fun _ => False)
    (store : Store) : (t.run store).store = store := by
  induction t generalizing store with
  | done result => rfl
  | emit output next ih => exact ih ht store
  | ask question next ih =>
    cases question with
    | get sought => exact ih _ (ht.2 _) store
    | scan stem => exact ih _ (ht.2 _) store
    | write change =>
      obtain ⟨_, hnone, -⟩ := ht.1
      exact hnone.elim
    | batch changes =>
      have hnil : changes = [] := List.eq_nil_iff_forall_not_mem.2 fun change hchange => by
        obtain ⟨_, hnone, -⟩ := ht.1 change hchange
        exact hnone
      subst hnil
      exact ih () (ht.2 ()) store

end Transition
end SharedSecurity
