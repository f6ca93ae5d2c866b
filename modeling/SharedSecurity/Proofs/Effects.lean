import SharedSecurity.Proofs.Binding
import SharedSecurity.Proofs.CheckFirst
import SharedSecurity.Proofs.Dating

/-!
# What each operation changes

`Operation.footprint` bounds what an operation may write by its arguments alone.  On a store that
the provider wrote the bound is tighter: a creation writes the buckets of the chains that are bound
at the time, a sweep removes the queues that hold something, and an acknowledgement writes back the
entries of one bucket.  It writes each under the id in it, so this needs that entries carry the ids
they are stored under, `Store.Labelled`.

* `Store.ChangedOnly` — the keys at which two stores may differ, with rules for sequences.
* `Store.Labelled`, `History.labelled_after` — that invariant, of every history at all.
* `Handshake.changedOnly_of_tells_bind`, `Unbonding.changedOnly_create`,
  `Unbonding.changedOnly_acknowledge`, … — the keys of each operation.
* `Effects`, `effects_after` — **what may change in a call** on the store after any run.
-/

set_option autoImplicit false
namespace SharedSecurity

open Transition
open Unbonding renaming entry? → findEntry

/-! ## Keys at which stores differ -/

/-- All bytes at which the stores differ are those of keys with the property. -/
def Store.ChangedOnly (before : Store) (P : Key → Prop) (after : Store) : Prop :=
  ∀ bytes, after.get? bytes ≠ before.get? bytes → ∃ key, P key ∧ bytes = key.bytes

section

variable {α β : Type} {P Q : Key → Prop} {store between after : Store}

theorem Store.changedOnly_refl (store : Store) (P : Key → Prop) : store.ChangedOnly P store :=
  fun _ hne => absurd rfl hne

theorem Store.ChangedOnly.mono (h : store.ChangedOnly P after) (hPQ : ∀ key, P key → Q key) :
    store.ChangedOnly Q after := fun bytes hne =>
  let ⟨key, hkey, hbytes⟩ := h bytes hne
  ⟨key, hPQ key hkey, hbytes⟩

theorem Store.ChangedOnly.trans (hfirst : store.ChangedOnly P between)
    (hsecond : between.ChangedOnly P after) : store.ChangedOnly P after := by
  intro bytes hne
  by_cases hbetween : between.get? bytes = store.get? bytes
  · exact hsecond bytes (hbetween ▸ hne)
  · exact hfirst bytes hbetween

namespace Transition

variable {t : Transition α} {next : α → Transition β}

/-- A run changes only what it may write. -/
theorem changedOnly_run (ht : t.WritesWithin P) (store : Store) :
    store.ChangedOnly P (t.run store).store := by
  intro bytes hne
  by_contra hnone
  refine hne (get?_run_of_ne ht (fun key hkey hbytes => ?_) store)
  exact hnone ⟨key, hkey, hbytes⟩

/-- A sequence changes what its first part does, and what its second part does from there on. -/
theorem changedOnly_bind (ht : store.ChangedOnly P (t.run store).store)
    (hnext : ∀ value, t.Tells store value →
      (t.run store).store.ChangedOnly P ((next value).run (t.run store).store).store) :
    store.ChangedOnly P ((t >>= next).run store).store := by
  rw [run_bind, Outcome.andThen]
  cases hresult : (t.run store).result with
  | error error => exact ht
  | ok value => exact ht.trans (hnext value hresult)

/-- After a part that only reads, a sequence changes what its second part does. -/
theorem changedOnly_bind_of_reads (ht : t.WritesWithin fun _ => False)
    (hnext : ∀ value, t.Tells store value →
      store.ChangedOnly P ((next value).run store).store) :
    store.ChangedOnly P ((t >>= next).run store).store := by
  have hkeep := store_run_of_reads ht store
  refine changedOnly_bind ?_ ?_
  · rw [hkeep]
    exact store.changedOnly_refl P
  · rw [hkeep]
    exact hnext

end Transition
end

theorem Store.changedOnly_hold (store : Store) (key : Key) (record : key.Record) :
    store.ChangedOnly (· = key) (store.hold key record) := by
  intro bytes hne
  by_contra hnone
  exact hne (store.sameBut_hold key record bytes fun hbytes => hnone ⟨key, rfl, hbytes⟩)

/-! ## Entries and their ids -/

namespace Codec

/-- **A stored entry is read with its id**, even if what follows in it is read otherwise. -/
theorem id_of_decode_encode {stored read : UnbondingEntry} {rest : Bytes}
    (h : unbondingEntry.decode (unbondingEntry.encode stored) = .ok (read, rest)) :
    read.id = stored.id := by
  let tail (entry : UnbondingEntry) : Bytes :=
    word.encode entry.version ++ (list chainId).encode entry.outstanding
  have hbytes : word.encode stored.id ++ tail stored =
      word.encode read.id ++ (tail read ++ rest) := by
    have hform := (lawful_unbondingEntry.decode_iff.1 h).2
    simpa only [tail, unbondingEntry, map, pair, List.append_assoc] using hform
  have hid := decode_word_encode stored.id (tail stored)
  rw [hbytes, decode_word_encode] at hid
  exact (Prod.mk.inj (Except.ok.inj hid)).1

end Codec

/-- What is stored under the id of an entry is an entry with that id. -/
def Store.Labelled (store : Store) : Prop :=
  ∀ id value, store.get? (Key.entry id).bytes = some value →
    ∃ entry : UnbondingEntry, entry.id = id ∧ value = (Key.entry id).encode entry

namespace Store

variable {store : Store}

theorem labelled_empty : Labelled SortedMap.empty := fun _ _ => nofun

theorem Labelled.hold (h : store.Labelled) (entry : UnbondingEntry) :
    (store.hold (.entry entry.id) entry).Labelled := by
  intro id value hvalue
  rw [get?_hold] at hvalue
  split at hvalue
  · next hkey =>
    obtain rfl := Key.entry.inj hkey
    exact ⟨entry, rfl, (Option.some.inj hvalue).symm⟩
  · exact h id value hvalue

theorem Labelled.drop (h : store.Labelled) (id : EntryId) : (store.drop (.entry id)).Labelled := by
  intro other value hvalue
  by_cases hother : other = id
  · rw [hother, get?_drop_self] at hvalue
    cases hvalue
  · have hkey : Key.entry other ≠ .entry id := fun heq => hother (Key.entry.inj heq)
    rw [get?_drop_of_ne store hkey] at hvalue
    exact h other value hvalue

end Store

namespace Unbonding

/-- An entry that is read carries the id it was looked for under. -/
theorem id_of_tells_entry {store : Store} (h : store.Labelled) {id : EntryId}
    {entry : UnbondingEntry} (htells : (findEntry id).Tells store (some entry)) : entry.id = id := by
  obtain ⟨bytes, hget, hread⟩ := Stored.tells_read?_some.1 htells
  obtain ⟨stored, rfl, rfl⟩ := h id bytes hget
  obtain ⟨rest, hdecode⟩ := Codec.read_eq_ok_iff.1 hread
  exact Codec.id_of_decode_encode hdecode

end Unbonding

/-- Writes at other keys keep entries labelled. -/
theorem Transition.keeps_labelled {α : Type} {P : Key → Prop} {t : Transition α}
    (ht : t.WritesWithin P) (hentry : ∀ id, ¬ P (.entry id)) :
    t.Keeps Store.Labelled fun _ => True := by
  refine fun store hstore => ⟨fun id value hvalue => ?_, fun _ _ => trivial⟩
  rw [get?_run ht (hentry id)] at hvalue
  exact hstore id value hvalue

namespace Unbonding

/-- A new entry is stored under the id that it is given. -/
theorem keeps_labelled_create (id : EntryId) :
    (create id).Keeps Store.Labelled fun _ => True := by
  refine (keeps_reads (within_contains _)).bind fun stored _ => ?_
  show Keeps (if stored = true then _ else _) _ _
  split
  · exact keeps_fail _
  · refine (keeps_reads Versioning.within_current).bind fun version _ =>
      (keeps_reads Registry.within_boundChains).bind fun chains _ => ?_
    show Keeps (if chains.isEmpty = true then _ else _) _ _
    split
    · exact keeps_reads trivial
    · have hloop : (chains.forM (addToBucket id version)).WritesWithin
          fun key => ∃ chain, key = .bucket chain version :=
        .forM fun chain _ => within_addToBucket id ⟨chain, rfl⟩
      refine (keeps_labelled hloop nofun).bind fun _ _ => Keeps.bind (P := fun _ => True) ?_
        fun _ _ => keeps_reads trivial
      exact fun store hstore => ⟨hstore.hold ⟨id, version, chains⟩, fun _ _ => trivial⟩

/-- An entry is settled under its own id. -/
theorem keeps_labelled_settleEntry (entry : UnbondingEntry) :
    (settleEntry entry).Keeps Store.Labelled fun _ => True := by
  rw [settleEntry]
  split
  · exact fun store hstore => ⟨hstore.drop entry.id, fun _ _ => trivial⟩
  · exact fun store hstore => ⟨hstore.hold entry, fun _ _ => trivial⟩

theorem keeps_labelled_acknowledge (chain : ChainId) (version : Version) :
    (acknowledge chain version).Keeps Store.Labelled fun _ => True := by
  refine (keeps_reads (within_entriesInBucket chain version)).bind fun entries _ => ?_
  show Keeps (if entries.isEmpty = true then _ else _) _ _
  split
  · exact keeps_pure trivial
  · have hdelete : (Stored.delete (.bucket chain version)).WritesWithin
        (· = .bucket chain version) :=
      WritesWithin.delete (P := (· = .bucket chain version)) rfl
    have hcheck : (ofExcept (entries.mapM (acknowledgeEntry chain version))).WritesWithin
        fun _ => False := trivial
    exact (keeps_reads hcheck).bind fun acknowledged _ =>
      (Keeps.forM fun entry _ => keeps_labelled_settleEntry entry).bind fun _ _ =>
      (keeps_labelled hdelete nofun).bind fun _ _ => keeps_reads trivial

end Unbonding

/-- **Every call keeps entries labelled**, whether it succeeds or not. -/
theorem Call.keeps_labelled (call : Call) :
    call.transition.Keeps Store.Labelled fun _ => True := by
  obtain ⟨service, operation⟩ := call
  cases operation with
  | unbondingCreated notice =>
    refine .bind (keeps_reads ?_) fun _ _ => Unbonding.keeps_labelled_create notice.id
    trivial
  | acknowledgePacket channel ack =>
    refine (keeps_reads (Registry.within_chainOf channel)).bind fun found _ => ?_
    cases found with
    | none => exact keeps_fail _
    | some chain =>
      exact (Unbonding.keeps_labelled_acknowledge chain ack.version).bind fun completed _ =>
        (Transition.keeps_labelled (SlashQueue.within_appendAll chain ack.slashAcks) nofun).bind
          fun _ _ => keeps_pure trivial
  | _ =>
    refine Transition.keeps_labelled (service.perform_within _) fun id => ?_
    simp [Operation.footprint]

/-- Any history at all leaves entries under the ids that they carry. -/
theorem History.labelled_after (history : History) : (after history).Labelled := by
  induction history using induction with
  | nil => exact Store.labelled_empty
  | snoc past call ih =>
    rw [after_snoc]
    exact (call.keeps_labelled _ ih).1

/-! ## The keys of each operation -/

/-- The records of a binding are those of its chain and its channel. -/
theorem Store.changedOnly_bind (store : Store) (chain : ChainId) (channel : ChannelId)
    (height : Height) : store.ChangedOnly (fun key => key = .channelOf chain ∨
      key = .chainOf channel ∨ key = .initHeightOf chain ∨ key = .statusOf channel)
      (store.bind chain channel height) := by
  let forward := store.hold (.channelOf chain) channel
  let reverse := forward.hold (.chainOf channel) chain
  let dated := reverse.hold (.initHeightOf chain) height
  have hchannel := store.changedOnly_hold (.channelOf chain) channel
  have hchain := forward.changedOnly_hold (.chainOf channel) chain
  have hheight := reverse.changedOnly_hold (.initHeightOf chain) height
  have hstatus := dated.changedOnly_hold (.statusOf channel) .validating
  refine (hchannel.mono fun key hkey => .inl hkey).trans ?_
  refine (hchain.mono fun key hkey => .inr (.inl hkey)).trans ?_
  refine (hheight.mono fun key hkey => .inr (.inr (.inl hkey))).trans ?_
  exact hstatus.mono fun key hkey => .inr (.inr (.inr hkey))

namespace Handshake

variable {service : Service} {height : Height} {channel : ChannelId} {store : Store}

/-- A confirm that succeeds changes the records of the binding that it tells. -/
theorem changedOnly_of_tells_bind (h : store.Typed) {chain : ChainId}
    (htells : (bind service height channel).Tells store chain) :
    store.ChangedOnly (fun key => key = .channelOf chain ∨ key = .chainOf channel ∨
      key = .initHeightOf chain ∨ key = .statusOf channel)
      ((bind service height channel).run store).store := by
  cases hresolve : resolveChain service channel with
  | error error =>
    rw [Tells, run_bind_of_unresolved hresolve] at htells
    cases htells
  | ok resolved =>
    obtain ⟨outputs, ⟨-, hrun⟩ | ⟨-, hrun⟩ | ⟨existing, -, -, hrun⟩⟩ :=
      run_bind_cases hresolve height h
    · obtain rfl := (tells_iff hrun).1 htells
      rw [hrun]
      exact store.changedOnly_bind resolved channel height
    · rw [hrun]
      exact store.changedOnly_refl _
    · rw [Tells, hrun] at htells
      cases htells

/-- A confirm that fails changes nothing, or has lost a race and marks its channel. -/
theorem store_bind_of_error (h : store.Typed) {error : ProviderError}
    (herror : ((bind service height channel).run store).result = .error error) :
    ((bind service height channel).run store).store = store ∨
      ∃ chain existing, error = .duplicateRegistration chain existing channel ∧
        ((bind service height channel).run store).store = store.mark channel .invalid := by
  cases hresolve : resolveChain service channel with
  | error unresolved =>
    rw [run_bind_of_unresolved hresolve]
    exact .inl rfl
  | ok chain =>
    obtain ⟨outputs, ⟨-, hrun⟩ | ⟨-, hrun⟩ | ⟨existing, -, -, hrun⟩⟩ :=
      run_bind_cases hresolve height h
    · rw [hrun] at herror
      cases herror
    · rw [hrun] at herror
      cases herror
    · rw [hrun] at herror ⊢
      exact .inr ⟨chain, existing, (Except.error.inj herror).symm, rfl⟩

end Handshake

namespace Unbonding

variable {store : Store}

/-- A creation changes its entry and the buckets of the bound chains. -/
theorem changedOnly_create (h : store.Typed) (id : EntryId) :
    store.ChangedOnly (fun key => key = .entry id ∨ ∃ chain channel,
      (Registry.channelOf chain).Tells store (some channel) ∧ key = .bucket chain store.version)
      ((create id).run store).store := by
  refine changedOnly_bind_of_reads (within_contains _) fun stored _ => ?_
  show store.ChangedOnly _ (Transition.run (if stored = true then _ else _) store).store
  split
  · exact store.changedOnly_refl _
  · refine changedOnly_bind_of_reads Versioning.within_current fun version hversion =>
      changedOnly_bind_of_reads Registry.within_boundChains fun chains hchains => ?_
    have hcurrent := Versioning.run_current (h.sound .version fun _ => trivial)
    obtain rfl := (tells_iff hcurrent).1 hversion
    obtain rfl := (tells_iff (Registry.run_boundChains h)).1 hchains
    show store.ChangedOnly _ (Transition.run (if _ then _ else _) store).store
    split
    · exact store.changedOnly_refl _
    · have hgate := changedOnly_run (within_gate id store.version store.boundChains) store
      refine hgate.mono fun key hkey => hkey.imp_right ?_
      rintro ⟨chain, hchain, rfl⟩
      have hbound := (Store.mem_boundChains h).1 hchain
      obtain ⟨channel, hchannel⟩ := Option.isSome_iff_exists.1 hbound
      exact ⟨chain, channel, (Registry.tells_channelOf h).2 hchannel, rfl⟩

/-- The entries of a bucket carry ids in the bucket. -/
theorem ids_of_tells_entriesInBucket (h : store.Labelled) {chain : ChainId} {version : Version}
    {entries : List UnbondingEntry} (htells : (entriesInBucket chain version).Tells store entries) :
    ∃ ids, (bucket chain version).Tells store ids ∧ ∀ entry ∈ entries, entry.id ∈ ids := by
  obtain ⟨ids, hids, hentries⟩ := tells_bind.1 htells
  rw [store_run_of_reads (within_bucket chain version)] at hentries
  refine ⟨ids, hids, ?_⟩
  have hread : ∀ id ∈ ids, (entryInBucket chain version id).Keeps (· = store)
      fun entry => entry.id ∈ ids := by
    intro id hid
    have hfound : (findEntry id).Keeps (· = store) fun found => ∀ entry ∈ found, entry.id = id := by
      refine .of_reads (Stored.within_read? _ _) fun _ hsame found hfound entry hentry => ?_
      obtain rfl := hsame
      obtain rfl := Option.mem_def.1 hentry
      exact id_of_tells_entry h hfound
    refine hfound.bind fun found hentry => ?_
    cases found with
    | none => exact keeps_fail _
    | some entry =>
      refine keeps_pure ?_
      rw [hentry entry rfl]
      exact hid
  exact (Keeps.mapM hread store rfl).2 entries hentries

/-- An acknowledgement changes its bucket and the entries that are in it. -/
theorem changedOnly_acknowledge (h : store.Labelled) (chain : ChainId) (version : Version) :
    store.ChangedOnly (fun key => key = .bucket chain version ∨
      ∃ ids, (bucket chain version).Tells store ids ∧ ∃ id ∈ ids, key = .entry id)
      ((acknowledge chain version).run store).store := by
  refine changedOnly_bind_of_reads (within_entriesInBucket chain version) fun entries hentries => ?_
  obtain ⟨ids, hids, hlabels⟩ := ids_of_tells_entriesInBucket h hentries
  show store.ChangedOnly _ (Transition.run (if entries.isEmpty = true then _ else _) store).store
  split
  · exact store.changedOnly_refl _
  · refine changedOnly_bind_of_reads trivial fun acknowledged hacknowledged => ?_
    -- what is written back has the ids that were read
    have hkept : ∀ entry ∈ acknowledged, entry.id ∈ ids := by
      refine forall_of_mapM_eq_ok (fun entry hentry left hleft => ?_) hacknowledged
      rw [acknowledgeEntry] at hleft
      split at hleft
      · cases hleft
        exact hlabels entry hentry
      · cases hleft
    have hsettle := changedOnly_run (within_settle chain version acknowledged) store
    refine hsettle.mono fun key hkey => ?_
    obtain ⟨entry, hentry, rfl⟩ | rfl := hkey
    · exact .inr ⟨ids, hids, entry.id, hkept entry hentry, rfl⟩
    · exact .inl rfl

end Unbonding

/-- What an acknowledgement changes for its chain: what acknowledging the version does, and the
queue of the chain. -/
theorem MaturityAcknowledgement.changedOnly_creditTo {store : Store} (h : store.Labelled)
    (ack : MaturityAcknowledgement) (chain : ChainId) :
    store.ChangedOnly (fun key => key = .bucket chain ack.version ∨
      (∃ ids, (Unbonding.bucket chain ack.version).Tells store ids ∧ ∃ id ∈ ids, key = .entry id) ∨
        key = .slashQueueOf chain) ((ack.creditTo chain).run store).store := by
  have hack := Unbonding.changedOnly_acknowledge h chain ack.version
  refine changedOnly_bind (hack.mono fun key hkey => hkey.imp_right .inl) fun completed _ => ?_
  have hwithin : ((ack.slashAcks.forM (SlashQueue.append chain)) >>= fun _ =>
      pure completed : Transition (List EntryId)).WritesWithin (· = .slashQueueOf chain) :=
    .bind (SlashQueue.within_appendAll chain ack.slashAcks) fun _ => trivial
  exact (changedOnly_run hwithin _).mono fun key hkey => .inr (.inr hkey)

/-- An acknowledgement on the channel of a chain changes what it credits to the chain. -/
theorem Service.changedOnly_acknowledgePacket (service : Service) {store : Store} (h : store.Typed)
    (hlabelled : store.Labelled) (ack : MaturityAcknowledgement) {channel : ChannelId}
    {chain : ChainId} (hbound : store.chain? channel = some chain) :
    store.ChangedOnly (fun key => key = .bucket chain ack.version ∨
      (∃ ids, (Unbonding.bucket chain ack.version).Tells store ids ∧ ∃ id ∈ ids, key = .entry id) ∨
        key = .slashQueueOf chain) ((service.acknowledgePacket channel ack).run store).store := by
  rw [service.run_acknowledgePacket ack h hbound]
  exact ack.changedOnly_creditTo hlabelled chain

/-- The end of a block changes the version and the height of the version that ends. -/
theorem Service.changedOnly_endBlock (service : Service) (height : Height) {store : Store}
    (h : store.Typed) : store.ChangedOnly (fun key => key = .version ∨
      key = .heightOf store.version) ((service.endBlock height).run store).store := by
  rw [endBlock]
  split
  · refine changedOnly_bind_of_reads Versioning.within_current fun version hversion => ?_
    have hcurrent := Versioning.run_current (h.sound .version fun _ => trivial)
    obtain rfl := (tells_iff hcurrent).1 hversion
    exact changedOnly_run (.bind (Versioning.within_recordHeight (.inr rfl) height) fun _ =>
      Versioning.within_advance (.inl rfl)) store
  · exact changedOnly_run (Versioning.within_advance (.inl rfl)) store

namespace SlashQueue

variable {store : Store}

/-- A queue that holds something can be read. -/
theorem tells_pending_of_ne_nil {chain : ChainId} (h : store.queue chain ≠ []) :
    (pending chain).Tells store (store.queue chain) := by
  have hrecord : (Stored.record? Codec.tokens queueKind (.slashQueueOf chain)).Tells store
      (some (store.queue chain)) :=
    Stored.tells_read?_some.2 (Store.record?_queue_eq_some_iff.1 (Store.record?_of_queue_ne_nil h))
  exact tells_bind.2 ⟨_, hrecord, rfl⟩

/-- A sweep changes the queues that hold something. -/
theorem changedOnly_sweep (store : Store) : store.ChangedOnly (fun key => ∃ chain tokens,
    (pending chain).Tells store tokens ∧ tokens ≠ [] ∧ key = .slashQueueOf chain)
    (sweep.run store).store := by
  rcases sweep_cases store with ⟨error, -, hkeep⟩ | ⟨-, outputs, hrun⟩
  · rw [hkeep]
    exact store.changedOnly_refl _
  · intro bytes hne
    rw [hrun, Store.get?_dropAll] at hne
    split at hne
    · next hdropped =>
      obtain ⟨key, hkey, rfl⟩ := List.mem_map.1 hdropped
      obtain ⟨chain, hchain, rfl⟩ := List.mem_map.1 hkey
      have hqueue := Store.mem_queuedChains.1 hchain
      exact ⟨_, ⟨chain, _, tells_pending_of_ne_nil hqueue, hqueue, rfl⟩, rfl⟩
    · exact absurd rfl hne

end SlashQueue

/-! ## Calls -/

namespace Service

variable {service : Service} {height : Height} {channel : ChannelId} {store : Store}

/-- A confirm that succeeds has bound its channel to a chain. -/
theorem exists_tells_bind (h : (service.openConfirm height channel).Tells store ()) :
    ∃ chain, (Handshake.bind service height channel).Tells store chain :=
  let ⟨chain, hchain, _⟩ := tells_bind.1 h
  ⟨chain, hchain⟩

/-- A confirm that fails does so in binding its channel. -/
theorem bind_of_openConfirm_error {error : ProviderError}
    (h : ((service.openConfirm height channel).run store).result = .error error) :
    ((Handshake.bind service height channel).run store).result = .error error := by
  rw [openConfirm, run_bind, Outcome.andThen] at h
  cases hresult : ((Handshake.bind service height channel).run store).result with
  | ok chain =>
    rw [hresult] at h
    cases h
  | error other =>
    rw [hresult] at h
    exact congrArg Except.error (Except.error.inj h)

end Service

/-- What calls may change in a store, in terms of what its readers tell before the call. -/
structure Effects (store : Store) : Prop where
  /-- The start of a handshake changes the status of the channel. -/
  openInit : ∀ service channel, store.ChangedOnly (· = .statusOf channel)
    (Call.after ⟨service, .openInit channel⟩ store)
  /-- A confirm that succeeds has a chain to tell, and changes the records of that binding. -/
  confirmed : ∀ service height channel, (service.openConfirm height channel).Tells store () →
    ∃ chain, (Handshake.bind service height channel).Tells store chain ∧
      store.ChangedOnly (fun key => key = .channelOf chain ∨ key = .chainOf channel ∨
        key = .initHeightOf chain ∨ key = .statusOf channel)
        (Call.after ⟨service, .openConfirm height channel⟩ store)
  /-- A confirm that is rejected as a duplicate changes the status of the rejected channel. -/
  duplicate : ∀ service height channel chain existing rejected,
    ((service.openConfirm height channel).run store).result =
        .error (.duplicateRegistration chain existing rejected) →
      store.ChangedOnly (· = .statusOf rejected)
        (Call.after ⟨service, .openConfirm height channel⟩ store)
  /-- A confirm that fails in another way changes nothing. -/
  refused : ∀ service height channel error,
    ((service.openConfirm height channel).run store).result = .error error →
      (∀ chain existing rejected, error ≠ .duplicateRegistration chain existing rejected) →
        Call.after ⟨service, .openConfirm height channel⟩ store = store
  /-- Whatever its outcome, a confirm leaves every entry and every bucket alone. -/
  gate_kept : ∀ service height channel,
    (∀ id, (Call.after ⟨service, .openConfirm height channel⟩ store).get? (Key.entry id).bytes =
        store.get? (Key.entry id).bytes) ∧
      ∀ chain version,
        (Call.after ⟨service, .openConfirm height channel⟩ store).get?
          (Key.bucket chain version).bytes = store.get? (Key.bucket chain version).bytes
  /-- A creation changes its entry and the buckets that the chains bound at the time have for the
  current version. -/
  created : ∃ version, Versioning.current.Tells store version ∧ ∀ service notice,
    store.ChangedOnly (fun key => key = .entry notice.id ∨ ∃ chain channel,
      (Registry.channelOf chain).Tells store (some channel) ∧ key = .bucket chain version)
      (Call.after ⟨service, .unbondingCreated notice⟩ store)
  /-- An acknowledgement on the channel of a chain changes the bucket of the chain for the version,
  the entries with ids in that bucket, and the chain's queue; on another channel, nothing. -/
  acknowledged : ∀ service channel ack,
    ((Registry.chainOf channel).Tells store none ∧
        Call.after ⟨service, .acknowledgePacket channel ack⟩ store = store) ∨
      ∃ chain, (Registry.chainOf channel).Tells store (some chain) ∧
        store.ChangedOnly (fun key => key = .bucket chain ack.version ∨
          (∃ ids, (Unbonding.bucket chain ack.version).Tells store ids ∧
            ∃ id ∈ ids, key = .entry id) ∨ key = .slashQueueOf chain)
          (Call.after ⟨service, .acknowledgePacket channel ack⟩ store)
  /-- The end of a block changes the counter and the height of the version that was current. -/
  blockEnded : ∃ version, Versioning.current.Tells store version ∧ ∀ service height,
    store.ChangedOnly (fun key => key = .version ∨ key = .heightOf version)
      (Call.after ⟨service, .endBlock height⟩ store)
  /-- A sweep changes the queues that hold something. -/
  swept : ∀ service, store.ChangedOnly (fun key => ∃ chain tokens,
    (SlashQueue.pending chain).Tells store tokens ∧ tokens ≠ [] ∧ key = .slashQueueOf chain)
    (Call.after ⟨service, .sweep⟩ store)
  /-- Checking a channel changes nothing. -/
  openTry : ∀ service channel hops claimed,
    Call.after ⟨service, .openTry channel hops claimed⟩ store = store
  /-- Asking whether an entry may complete changes nothing. -/
  mayComplete : ∀ service id, Call.after ⟨service, .beforeUnbondingCompletes id⟩ store = store
  /-- Reading out a genesis changes nothing. -/
  exportGenesis : ∀ service, Call.after ⟨service, .exportGenesis⟩ store = store

/-- **What may change in a call**, for whatever provider it is asked of, on the store after any run:
direct or in transactions over a store that may fail at any point, successful or failing. -/
theorem effects_after (run : Run Call) : Effects run.after := by
  rw [run.after_eq]
  have htyped := History.typed_after run.committed
  have hlabelled := History.labelled_after run.committed
  generalize run.committed.after = store at htyped hlabelled
  have hversion : Versioning.current.Tells store store.version :=
    (tells_iff (Versioning.run_current (htyped.sound .version fun _ => trivial))).2 rfl
  constructor
  case openInit =>
    exact fun service channel => changedOnly_run
      (Registry.within_markInitializing (P := (· = .statusOf channel)) rfl) store
  case confirmed =>
    intro service height channel htells
    obtain ⟨chain, hchain⟩ := Service.exists_tells_bind htells
    refine ⟨chain, hchain, ?_⟩
    rw [Call.after_openConfirm]
    exact Handshake.changedOnly_of_tells_bind htyped hchain
  case duplicate =>
    intro service height channel chain existing rejected herror
    rw [Call.after_openConfirm]
    rcases Handshake.store_bind_of_error htyped (Service.bind_of_openConfirm_error herror) with
      hkeep | ⟨_, _, heq, hmark⟩
    · rw [hkeep]
      exact store.changedOnly_refl _
    · cases heq
      rw [hmark]
      exact store.changedOnly_hold (.statusOf channel) .invalid
  case refused =>
    intro service height channel error herror hother
    rw [Call.after_openConfirm]
    rcases Handshake.store_bind_of_error htyped (Service.bind_of_openConfirm_error herror) with
      hkeep | ⟨chain, existing, heq, -⟩
    · exact hkeep
    · exact absurd heq (hother chain existing channel)
  case gate_kept =>
    intro service height channel
    let call : Call := ⟨service, .openConfirm height channel⟩
    exact ⟨fun id => call.get?_after (by simp [call, Operation.footprint]) store,
      fun chain version => call.get?_after (by simp [call, Operation.footprint]) store⟩
  case created =>
    exact ⟨store.version, hversion,
      fun service notice => Unbonding.changedOnly_create htyped notice.id⟩
  case acknowledged =>
    intro service channel ack
    simp only [Registry.tells_chainOf htyped]
    cases hbound : store.chain? channel with
    | none =>
      have hrun := service.run_acknowledgePacket_of_unbound ack htyped hbound
      exact .inl ⟨rfl, congrArg Outcome.store hrun⟩
    | some chain =>
      exact .inr ⟨chain, rfl,
        service.changedOnly_acknowledgePacket htyped hlabelled ack hbound⟩
  case blockEnded =>
    exact ⟨store.version, hversion,
      fun service height => service.changedOnly_endBlock height htyped⟩
  case swept => exact fun service => SlashQueue.changedOnly_sweep store
  case openTry =>
    exact fun service channel hops claimed =>
      store_run_of_reads (Handshake.within_verify service channel hops claimed) store
  case mayComplete =>
    exact fun service id => store_run_of_reads (Unbonding.within_mayComplete id) store
  case exportGenesis =>
    exact fun service => store_run_of_reads (service.perform_within .exportGenesis) store

end SharedSecurity
