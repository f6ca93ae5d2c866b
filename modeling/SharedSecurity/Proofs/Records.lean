import Mathlib.Control.Monad.Basic
import SharedSecurity.Proofs.Codecs
import SharedSecurity.Proofs.Keys
import SharedSecurity.Registry
import SharedSecurity.SlashQueue
import SharedSecurity.Unbonding

/-!
# A store of typed records

What a store holds under a typed key is the record of that key: `Store.record?`.  Statements about
the provider's state are made about records, and this file is the bridge from there to bytes.

* `Key.Record`, `Key.encode`, `Key.decode?`, `Key.Holds` — the type of the record under a key, its
  bytes, and the records whose bytes can be read back.  Only records with lengths in them are
  limited.
* `Store.hold`, `Store.drop` — a store after one record is written or removed, with
  `Store.record?_hold_self` and `Store.record?_hold_of_ne` to look through them.
* `Transition.Tells` — what a transition made directly on a store ends with.
* `Store.Sound` — what is under a key was written there by the provider.  `Stored.run_read?` is the
  one law about reading a sound key, and the laws for the provider's own readers follow from it.
-/

set_option autoImplicit false
namespace SharedSecurity

open Transition
open Unbonding renaming entry? → findEntry

/-! ## The record under a key -/

namespace Key

/-- The type of the record under a key. -/
@[reducible] def Record : Key → Type
  | port => PortId
  | version => Version
  | channelOf _ => ChannelId
  | chainOf _ => ChainId
  | clientOf _ => ClientId
  | genesisOf _ => Bytes
  | initHeightOf _ => Height
  | statusOf _ => ChannelStatus
  | entry _ => UnbondingEntry
  | bucket _ _ => List EntryId
  | heightOf _ => Height
  | slashQueueOf _ => List String

/-- The bytes of a record. -/
def encode : (key : Key) → key.Record → Bytes
  | port, record => Utf8.encode record.name
  | version, record => Bytes.ofWord record
  | channelOf _, record => Utf8.encode record.name
  | chainOf _, record => Utf8.encode record.name
  | clientOf _, record => Utf8.encode record.name
  | genesisOf _, record => record
  | initHeightOf _, record => Bytes.ofWord record
  | statusOf _, record => [record.toByte]
  | entry _, record => Codec.unbondingEntry.encode record
  | bucket _ _, record => Codec.entryIds.encode record
  | heightOf _, record => Bytes.ofWord record
  | slashQueueOf _, record => Codec.tokens.encode record

/-- The record that a codec finds at the front of bytes. -/
def front? {α : Type} (codec : Codec α) (bytes : Bytes) : Option α :=
  match codec.decode bytes with
  | .ok (value, _) => some value
  | .error _ => none

/-- The status that a single byte is. -/
def status? : Bytes → Option ChannelStatus
  | [byte] => ChannelStatus.ofByte? byte
  | _ => none

/-- The record that bytes under a key are. -/
def decode? : (key : Key) → Bytes → Option key.Record
  | port, bytes => (Utf8.decode? bytes).map PortId.mk
  | version, bytes => Bytes.word? bytes
  | channelOf _, bytes => (Utf8.decode? bytes).map ChannelId.mk
  | chainOf _, bytes => (Utf8.decode? bytes).map ChainId.mk
  | clientOf _, bytes => (Utf8.decode? bytes).map ClientId.mk
  | genesisOf _, bytes => some bytes
  | initHeightOf _, bytes => Bytes.word? bytes
  | statusOf _, bytes => status? bytes
  | entry _, bytes => front? Codec.unbondingEntry bytes
  | bucket _ _, bytes => front? Codec.entryIds bytes
  | heightOf _, bytes => Bytes.word? bytes
  | slashQueueOf _, bytes => front? Codec.tokens bytes

/-- The records that can be read back: in a record with lengths, each of them is a word. -/
def Holds : (key : Key) → key.Record → Prop
  | entry _, record => record.outstanding.length < UInt64.size ∧
      ∀ chain ∈ record.outstanding, chain.bytes.length < UInt64.size
  | bucket _ _, record => record.length < UInt64.size
  | slashQueueOf _, record => record.length < UInt64.size ∧
      ∀ token ∈ record, (Utf8.encode token).length < UInt64.size
  | _, _ => True

theorem front?_encode {α : Type} {codec : Codec α} {holds : α → Prop} (h : codec.Lawful holds)
    {value : α} (hvalue : holds value) : front? codec (codec.encode value) = some value := by
  rw [front?, h.decode_encode hvalue]

/-- **A record is read back from its bytes.** -/
theorem decode?_encode (key : Key) {record : key.Record} (h : key.Holds record) :
    key.decode? (key.encode record) = some record := by
  cases key with
  | port => simp [decode?, encode]
  | version => simp [decode?, encode]
  | channelOf => simp [decode?, encode]
  | chainOf => simp [decode?, encode]
  | clientOf => simp [decode?, encode]
  | genesisOf => simp [decode?, encode]
  | initHeightOf => simp [decode?, encode]
  | statusOf => exact ChannelStatus.ofByte?_toByte record
  | entry =>
    rw [decode?, encode]
    exact front?_encode Codec.lawful_unbondingEntry ⟨trivial, trivial, h⟩
  | bucket =>
    rw [decode?, encode]
    exact front?_encode Codec.lawful_entryIds ⟨h, fun _ _ => trivial⟩
  | heightOf => simp [decode?, encode]
  | slashQueueOf =>
    rw [decode?, encode]
    exact front?_encode Codec.lawful_tokens h

/-- A record whose bytes are shorter than a word can tell can be read back. -/
theorem holds_of_length (key : Key) {record : key.Record}
    (h : (key.encode record).length < UInt64.size) : key.Holds record := by
  cases key with
  | entry => exact (Codec.lawful_unbondingEntry.holds_of_length h).2.2
  | bucket => exact (Codec.lawful_entryIds.holds_of_length h).1
  | slashQueueOf => exact Codec.lawful_tokens.holds_of_length h
  | _ => trivial

end Key

/-! ## Records in a store -/

namespace Store

/-- The record under a key, if there is one that can be read. -/
def record? (store : Store) (key : Key) : Option key.Record :=
  (store.get? key.bytes).bind key.decode?

/-- The store after a record is written under its key. -/
def hold (store : Store) (key : Key) (record : key.Record) : Store :=
  store.insert key.bytes (key.encode record)

/-- The store after the record of a key is removed. -/
def drop (store : Store) (key : Key) : Store := store.erase key.bytes

/-- What is under a key, if anything, is a record of that key and can be read back. -/
def Sound (store : Store) (key : Key) : Prop :=
  ∀ bytes, store.get? key.bytes = some bytes →
    ∃ record, key.Holds record ∧ bytes = key.encode record

theorem Sound.get?_eq {store : Store} {key : Key} (h : store.Sound key) :
    store.get? key.bytes = (store.record? key).map key.encode := by
  rw [record?]
  cases hget : store.get? key.bytes with
  | none => rfl
  | some bytes =>
    obtain ⟨record, hholds, rfl⟩ := h bytes hget
    simp [Key.decode?_encode key hholds]

theorem Sound.isSome_get? {store : Store} {key : Key} (h : store.Sound key) :
    (store.get? key.bytes).isSome = (store.record? key).isSome := by
  rw [h.get?_eq, Option.isSome_map]

theorem Sound.holds {store : Store} {key : Key} (h : store.Sound key) {record : key.Record}
    (hrecord : store.record? key = some record) : key.Holds record := by
  have hget := h.get?_eq
  rw [hrecord] at hget
  obtain ⟨other, hholds, hbytes⟩ := h _ hget
  have hother : store.record? key = some other := by
    rw [record?, hget, Option.map_some, Option.bind_some, hbytes, Key.decode?_encode key hholds]
  exact Option.some.inj (hrecord.symm.trans hother) ▸ hholds

theorem record?_congr {store other : Store} {key : Key}
    (h : store.get? key.bytes = other.get? key.bytes) : store.record? key = other.record? key := by
  rw [record?, record?, h]

/-! ### The records of the registry and of the gate -/

/-- The channel recorded for a chain. -/
def channel? (store : Store) (chain : ChainId) : Option ChannelId :=
  store.record? (.channelOf chain)

/-- The chain recorded for a channel. -/
def chain? (store : Store) (channel : ChannelId) : Option ChainId :=
  store.record? (.chainOf channel)

/-- The height recorded for the binding of a chain. -/
def boundAt? (store : Store) (chain : ChainId) : Option Height :=
  store.record? (.initHeightOf chain)

/-- The status recorded for a channel. -/
def status? (store : Store) (channel : ChannelId) : Option ChannelStatus :=
  store.record? (.statusOf channel)

/-- The light client registered for a chain. -/
def client? (store : Store) (chain : ChainId) : Option ClientId := store.record? (.clientOf chain)

/-- The current version; zero if none is recorded. -/
def version (store : Store) : Version := (store.record? .version).getD 0

/-- The entry held under an id. -/
def held? (store : Store) (id : EntryId) : Option UnbondingEntry := store.record? (.entry id)

/-- The bucket recorded for a chain and a version. -/
def bucket? (store : Store) (chain : ChainId) (version : Version) : Option (List EntryId) :=
  store.record? (.bucket chain version)

/-- The ids that wait for a chain to acknowledge a version. -/
def waiting (store : Store) (chain : ChainId) (version : Version) : List EntryId :=
  (store.bucket? chain version).getD []

/-! ### One record written or removed -/

theorem get?_hold (store : Store) (key other : Key) (record : key.Record) :
    (store.hold key record).get? other.bytes =
      if other = key then some (key.encode record) else store.get? other.bytes := by
  rw [hold, SortedMap.get?_insert]
  simp only [Key.bytes_inj]

theorem get?_hold_self (store : Store) (key : Key) (record : key.Record) :
    (store.hold key record).get? key.bytes = some (key.encode record) :=
  SortedMap.get?_insert_self store key.bytes (key.encode record)

theorem get?_hold_of_ne (store : Store) {key other : Key} (h : other ≠ key) (record : key.Record) :
    (store.hold key record).get? other.bytes = store.get? other.bytes :=
  SortedMap.get?_insert_of_ne store (fun heq => h (Key.bytes_injective heq)) _

theorem get?_drop_self (store : Store) (key : Key) : (store.drop key).get? key.bytes = none :=
  SortedMap.get?_erase_self store key.bytes

theorem get?_drop_of_ne (store : Store) {key other : Key} (h : other ≠ key) :
    (store.drop key).get? other.bytes = store.get? other.bytes :=
  SortedMap.get?_erase_of_ne store fun heq => h (Key.bytes_injective heq)

theorem record?_hold_self (store : Store) {key : Key} {record : key.Record}
    (h : key.Holds record) : (store.hold key record).record? key = some record := by
  rw [record?, get?_hold_self, Option.bind_some, Key.decode?_encode key h]

theorem record?_hold_of_ne (store : Store) {key other : Key} (h : other ≠ key)
    (record : key.Record) : (store.hold key record).record? other = store.record? other :=
  record?_congr (get?_hold_of_ne store h record)

@[simp] theorem record?_drop_self (store : Store) (key : Key) :
    (store.drop key).record? key = none := by
  rw [record?, get?_drop_self, Option.bind_none]

theorem record?_drop_of_ne (store : Store) {key other : Key} (h : other ≠ key) :
    (store.drop key).record? other = store.record? other :=
  record?_congr (get?_drop_of_ne store h)

end Store

/-! ## Steps on a plain store -/

namespace Transition

variable {α β : Type}

@[simp] theorem run_pure (value : α) (store : Store) :
    (pure value : Transition α).run store = ⟨.ok value, store, []⟩ := rfl

@[simp] theorem run_ofExcept (result : Except ProviderError α) (store : Store) :
    (ofExcept result).run store = ⟨result, store, []⟩ := rfl

@[simp] theorem run_get? (key : Bytes) (store : Store) :
    (get? key).run store = ⟨.ok (store.get? key), store, []⟩ := rfl

@[simp] theorem run_scan (stem : Bytes) (store : Store) :
    (scan stem).run store = ⟨.ok (store.under stem), store, []⟩ := rfl

@[simp] theorem run_report (event : Event) (store : Store) :
    (report event).run store = ⟨.ok (), store, [.log event]⟩ := rfl

/-- A transition made directly on a store ends with the value. -/
def Tells (t : Transition α) (store : Store) (value : α) : Prop :=
  (t.run store).result = .ok value

instance [DecidableEq α] (t : Transition α) (store : Store) (value : α) :
    Decidable (t.Tells store value) :=
  inferInstanceAs (Decidable ((t.run store).result = .ok value))

/-- A transition tells the value that it is known to end with, and no other. -/
theorem tells_iff {t : Transition α} {store after : Store} {value other : α}
    {outputs : List Output} (h : t.run store = ⟨.ok value, after, outputs⟩) :
    t.Tells store other ↔ value = other := by
  rw [Tells, h]
  exact ⟨Except.ok.inj, congrArg Except.ok⟩

/-- After a first part with a value, a sequence goes on from what that part left. -/
theorem run_bind_ok {σ : Type} [KeyValueStore σ] {t : Transition α} {next : α → Transition β}
    {store after : σ} {value : α} {outputs : List Output}
    (h : t.run store = ⟨.ok value, after, outputs⟩) :
    (t >>= next).run store = ((next value).run after).prepend outputs := by
  rw [run_bind, h]
  rfl

theorem run_bind_of_result {t : Transition α} {next : α → Transition β} {store : Store} {value : α}
    (h : (t.run store).result = .ok value) :
    (t >>= next).run store = ((next value).run (t.run store).store).prepend (t.run store).outputs :=
  run_bind_ok (by rw [← h])

/-- What a sequence tells is what its second part tells, after a first part with a known outcome. -/
theorem tells_bind_of_run {t : Transition α} {next : α → Transition β} {store after : Store}
    {value : α} {other : β} {outputs : List Output}
    (h : t.run store = ⟨.ok value, after, outputs⟩) :
    (t >>= next).Tells store other ↔ (next value).Tells after other := by
  rw [Tells, run_bind_ok h]
  rfl

/-- A sequence tells something if its first part does and then its second part does. -/
theorem tells_bind {t : Transition α} {next : α → Transition β} {store : Store} {other : β} :
    (t >>= next).Tells store other ↔
      ∃ value, t.Tells store value ∧ (next value).Tells (t.run store).store other := by
  simp only [Tells]
  rw [run_bind, Outcome.andThen]
  cases hresult : (t.run store).result with
  | ok value =>
    constructor
    · intro h
      exact ⟨value, rfl, h⟩
    · rintro ⟨_, ⟨⟩, h⟩
      exact h
  | error error =>
    constructor
    · intro h
      cases h
    · rintro ⟨_, ⟨⟩, _⟩

/-- A check tells its value, and a sequence after it goes on from the same store. -/
theorem tells_ofExcept_bind {check : Except ProviderError α} {next : α → Transition β}
    {store : Store} {other : β} : (ofExcept check >>= next).Tells store other ↔
      ∃ value, check = .ok value ∧ (next value).Tells store other :=
  tells_bind

/-- After a first part with an error, a sequence is at its end. -/
theorem run_bind_error {σ : Type} [KeyValueStore σ] {t : Transition α} {next : α → Transition β}
    {store after : σ} {error : ProviderError} {outputs : List Output}
    (h : t.run store = ⟨.error error, after, outputs⟩) :
    (t >>= next).run store = ⟨.error error, after, outputs⟩ := by
  rw [run_bind, h]
  rfl

end Transition

/-! ## Reading -/

namespace Stored

variable {α : Type}

/-- **Reading a sound key** finds its record, as whatever part of it the reader is after. -/
theorem run_read? {decode : Bytes → Except ProviderError α} (key : Key) (view : key.Record → α)
    (hdecode : ∀ record, key.Holds record → decode (key.encode record) = .ok (view record))
    {store : Store} (hsound : store.Sound key) :
    (read? decode key).run store = ⟨.ok ((store.record? key).map view), store, []⟩ := by
  rw [read?, run_bind_ok (run_get? key.bytes store), Outcome.prepend_nil, hsound.get?_eq]
  cases hrecord : store.record? key with
  | none => rfl
  | some record => simp [hdecode record (hsound.holds hrecord), Except.map]

theorem nameOfValue_encode (what name : String) :
    nameOfValue what (Utf8.encode name) = .ok name := by
  simp [nameOfValue]

theorem decodeWord_ofWord (what : String) (word : UInt64) :
    decodeWord what (Bytes.ofWord word) = .ok word := by
  simp [decodeWord]

/-- Reading the record of a codec's key. -/
theorem run_record? {codec : Codec α} {holds : α → Prop} (hcodec : codec.Lawful holds)
    (what : String) (key : Key) (view : key.Record → α)
    (hencode : ∀ record, key.Holds record →
      holds (view record) ∧ key.encode record = codec.encode (view record))
    {store : Store} (hsound : store.Sound key) :
    (record? codec what key).run store = ⟨.ok ((store.record? key).map view), store, []⟩ :=
  run_read? key view (fun record hrecord => by
    obtain ⟨hholds, hbytes⟩ := hencode record hrecord
    rw [hbytes, hcodec.read_encode what hholds]) hsound

/-- Reading the record of a key that holds a name. -/
theorem run_name? {what : String} (key : Key) (name : key.Record → String)
    (mk : String → key.Record) (hmk : ∀ record, mk (name record) = record)
    (hencode : ∀ record, key.encode record = Utf8.encode (name record)) {store : Store}
    (hsound : store.Sound key) :
    (do let found ← text? what key; pure (found.map mk)).run store =
      ⟨.ok (store.record? key), store, []⟩ := by
  have htext : (text? what key).run store = ⟨.ok ((store.record? key).map name), store, []⟩ :=
    run_read? key name (fun record _ => by rw [hencode, nameOfValue_encode]) hsound
  rw [run_bind_ok htext, run_pure, Outcome.prepend_nil, Option.map_map]
  have hid : mk ∘ name = id := funext hmk
  rw [hid, Option.map_id_fun, id_eq]

end Stored

theorem Registry.run_channelOf {store : Store} {chain : ChainId}
    (h : store.Sound (.channelOf chain)) :
    (channelOf chain).run store = ⟨.ok (store.channel? chain), store, []⟩ :=
  Stored.run_name? (.channelOf chain) ChannelId.name ChannelId.mk (fun _ => rfl) (fun _ => rfl) h

theorem Registry.run_chainOf {store : Store} {channel : ChannelId}
    (h : store.Sound (.chainOf channel)) :
    (chainOf channel).run store = ⟨.ok (store.chain? channel), store, []⟩ :=
  Stored.run_name? (.chainOf channel) ChainId.name ChainId.mk (fun _ => rfl) (fun _ => rfl) h

theorem Registry.run_client? {store : Store} {chain : ChainId}
    (h : store.Sound (.clientOf chain)) :
    (client? chain).run store = ⟨.ok (store.client? chain), store, []⟩ :=
  Stored.run_name? (.clientOf chain) ClientId.name ClientId.mk (fun _ => rfl) (fun _ => rfl) h

theorem Registry.run_port? {store : Store} (h : store.Sound .port) :
    port?.run store = ⟨.ok (store.record? .port), store, []⟩ :=
  Stored.run_name? .port PortId.name PortId.mk (fun _ => rfl) (fun _ => rfl) h

theorem Registry.decodeStatus_toByte (channel : ChannelId) (status : ChannelStatus) :
    decodeStatus channel [status.toByte] = .ok status := by
  simp [decodeStatus, ChannelStatus.ofByte?_toByte]

theorem Registry.run_status {store : Store} {channel : ChannelId}
    (h : store.Sound (.statusOf channel)) :
    (status channel).run store =
      ⟨.ok ((store.status? channel).getD .uninitialized), store, []⟩ := by
  rw [status, run_bind_ok (Stored.run_read? (.statusOf channel) id
    (fun record _ => decodeStatus_toByte channel record) h)]
  rw [Store.status?]
  cases store.record? (.statusOf channel) <;> rfl

theorem Versioning.run_current {store : Store} (h : store.Sound .version) :
    current.run store = ⟨.ok store.version, store, []⟩ := by
  rw [current, Stored.word?, run_bind_ok (Stored.run_read? .version id
    (fun record _ => Stored.decodeWord_ofWord _ record) h)]
  rw [Store.version]
  cases store.record? .version <;> rfl

theorem Unbonding.run_entry {store : Store} {id : EntryId} (h : store.Sound (.entry id)) :
    (findEntry id).run store = ⟨.ok (store.held? id), store, []⟩ := by
  rw [findEntry]
  rw [Stored.run_record? Codec.lawful_unbondingEntry _ (.entry id) (fun record => record)
    (fun record hrecord => ⟨⟨trivial, trivial, hrecord⟩, rfl⟩) h, Option.map_id_fun']
  rfl

theorem Unbonding.run_bucket {store : Store} {chain : ChainId} {version : Version}
    (h : store.Sound (.bucket chain version)) :
    (bucket chain version).run store =
      ⟨.ok (store.waiting chain version), store, []⟩ := by
  rw [bucket, run_bind_ok (Stored.run_record? Codec.lawful_entryIds _ (.bucket chain version)
    id (fun record hrecord => ⟨⟨hrecord, fun _ _ => trivial⟩, rfl⟩) h)]
  rw [Store.waiting, Store.bucket?]
  cases store.record? (.bucket chain version) <;> rfl

theorem SlashQueue.run_pending {store : Store} {chain : ChainId}
    (h : store.Sound (.slashQueueOf chain)) :
    (pending chain).run store =
      ⟨.ok ((store.record? (.slashQueueOf chain)).getD []), store, []⟩ := by
  rw [pending, run_bind_ok (Stored.run_record? Codec.lawful_tokens _ (.slashQueueOf chain)
    id (fun record hrecord => ⟨hrecord, rfl⟩) h)]
  cases store.record? (.slashQueueOf chain) <;> rfl

/-- Whether there is a value under a sound key is whether there is a record. -/
theorem Transition.run_contains {store : Store} {key : Key} (h : store.Sound key) :
    (contains key.bytes).run store = ⟨.ok (store.record? key).isSome, store, []⟩ := by
  rw [contains, run_bind_ok (run_get? _ store), h.isSome_get?]
  rfl

/-- Whether an entry may complete is whether none is stored. -/
theorem Unbonding.run_mayComplete {store : Store} {id : EntryId} (h : store.Sound (.entry id)) :
    (mayComplete id).run store = ⟨.ok (store.held? id).isNone, store, []⟩ := by
  rw [mayComplete, run_bind_ok (run_contains h), ← Option.not_isSome]
  rfl

end SharedSecurity
