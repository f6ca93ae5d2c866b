import SharedSecurity.Identifier

/-!
# Store keys

Every record has a key: the stem of its family, then what it is about.

* `KeyFamily` — the families of records, and the stem their keys begin with.
* `Key`, `Key.bytes` — the typed keys and their bytes.  Numbers take eight bytes, highest first, so
  that the byte order of keys is the order of the numbers.
* `KeyFamily.name?`, `Key.bucket?` — what a key is about, read back from its bytes.  A bucket key
  ends in a separator and a fixed-width version, so the chain may hold separators itself.
-/

set_option autoImplicit false
namespace SharedSecurity

/-- The families of records that are listed by a common stem. -/
inductive KeyFamily where
  /-- The channel bound to a chain. -/
  | channelOfChain
  /-- The chain bound to a channel. -/
  | chainOfChannel
  /-- The light client registered for a chain. -/
  | clientOfChain
  /-- The genesis record of a chain. -/
  | genesisOfChain
  /-- The height at which a chain was bound. -/
  | initHeight
  /-- The status of a channel. -/
  | channelStatus
  /-- An unbonding entry. -/
  | unbondingEntry
  /-- The unbonding entries that wait for a chain to acknowledge a version. -/
  | unbondingBucket
  /-- The height at which a version ended. -/
  | versionHeight
  /-- The slash acknowledgements queued for a chain. -/
  | slashQueue
deriving DecidableEq

namespace KeyFamily

/-- The stem of a family as text. -/
def stemText : KeyFamily → String
  | channelOfChain => "chaintochannel/"
  | chainOfChannel => "channeltochain/"
  | clientOfChain => "chaintoclient/"
  | genesisOfChain => "consumergenesis/"
  | initHeight => "initchainheight/"
  | channelStatus => "channelstatus/"
  | unbondingEntry => "unbondingentry/"
  | unbondingBucket => "unbondingindex/"
  | versionHeight => "valsetupdateblockheight/"
  | slashQueue => "slashacks/"

/-- The bytes that the keys of a family begin with. -/
def stem (family : KeyFamily) : Bytes := Utf8.encode family.stemText

/-- The key of a family for a given remainder. -/
def key (family : KeyFamily) (rest : Bytes) : Bytes := family.stem ++ rest

/-- The name after the stem of a family; `none` for other keys and for bytes that are no text. -/
def name? (family : KeyFamily) (key : Bytes) : Option String :=
  (Bytes.strip? family.stem key).bind Utf8.decode?

theorem name?_eq_some_iff {family : KeyFamily} {key : Bytes} {name : String} :
    family.name? key = some name ↔ key = family.key (Utf8.encode name) := by
  simp only [name?, Option.bind_eq_some_iff, Bytes.strip?_eq_some_iff, Utf8.decode?_eq_some_iff,
    KeyFamily.key]
  exact ⟨fun ⟨_, hk, hr⟩ => hr ▸ hk, fun h => ⟨_, h, rfl⟩⟩

end KeyFamily

/-- What a record is about. -/
inductive Key where
  /-- The bound port. -/
  | port
  /-- The number of the current validator set. -/
  | version
  /-- The channel bound to a chain. -/
  | channelOf (chain : ChainId)
  /-- The chain bound to a channel. -/
  | chainOf (channel : ChannelId)
  /-- The light client registered for a chain. -/
  | clientOf (chain : ChainId)
  /-- The genesis record of a chain. -/
  | genesisOf (chain : ChainId)
  /-- The height at which a chain was bound. -/
  | initHeightOf (chain : ChainId)
  /-- The status of a channel. -/
  | statusOf (channel : ChannelId)
  /-- An unbonding entry. -/
  | entry (id : EntryId)
  /-- The entries that wait for a chain to acknowledge a version. -/
  | bucket (chain : ChainId) (version : Version)
  /-- The height at which a version ended. -/
  | heightOf (version : Version)
  /-- The slash acknowledgements queued for a chain. -/
  | slashQueueOf (chain : ChainId)
deriving DecidableEq

namespace Key

/-- The byte between the chain and the version of a bucket key. -/
def separator : UInt8 := 0x2F

/-- The bytes of a key. -/
def bytes : Key → Bytes
  | port => Utf8.encode "port"
  | version => Utf8.encode "valsetupdateid"
  | channelOf chain => KeyFamily.channelOfChain.key chain.bytes
  | chainOf channel => KeyFamily.chainOfChannel.key channel.bytes
  | clientOf chain => KeyFamily.clientOfChain.key chain.bytes
  | genesisOf chain => KeyFamily.genesisOfChain.key chain.bytes
  | initHeightOf chain => KeyFamily.initHeight.key chain.bytes
  | statusOf channel => KeyFamily.channelStatus.key channel.bytes
  | entry id => KeyFamily.unbondingEntry.key (Bytes.ofWord id)
  | bucket chain number =>
    KeyFamily.unbondingBucket.key (chain.bytes ++ separator :: Bytes.ofWord number)
  | heightOf number => KeyFamily.versionHeight.key (Bytes.ofWord number)
  | slashQueueOf chain => KeyFamily.slashQueue.key chain.bytes

/-- The bytes a bucket key takes after its chain: the separator and the version. -/
def bucketTailLength : Nat := 9

/-- The chain and version that the bytes of a bucket key are about. -/
def bucket? (key : Bytes) : Option (ChainId × Version) := do
  let rest ← Bytes.strip? KeyFamily.unbondingBucket.stem key
  let chainLength := rest.length - bucketTailLength
  match rest.drop chainLength with
  | mark :: tail =>
    if mark = separator then
      let number ← Bytes.word? tail
      let name ← Utf8.decode? (rest.take chainLength)
      some (⟨name⟩, number)
    else none
  | [] => none

end Key
end SharedSecurity
