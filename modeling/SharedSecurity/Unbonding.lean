import SharedSecurity.Registry
import SharedSecurity.Versioning

/-!
# Gated unbonding

An unbonding entry may complete once every chain that was bound when it was created has
acknowledged the version that was current then.

Entries are indexed by buckets, one for each chain and version: the ids of the entries that wait
for that chain to acknowledge that version, oldest first.

* `Unbonding.create` — stores an entry and adds it to the bucket of every bound chain.
* `Unbonding.mayComplete` — an entry may complete exactly if none is stored under its id.
* `Unbonding.acknowledge` — empties a bucket: the chain is taken from the list of every entry in it,
  and entries that wait for nobody else are released.  Everything is read and checked before the
  first write, so an error leaves the store alone.
-/

set_option autoImplicit false
namespace SharedSecurity
namespace Unbonding

variable {β : Type}

/-- What a stored entry is called in errors. -/
def entryKind : String := "unbonding entry"

/-- What a stored bucket is called in errors. -/
def bucketKind : String := "unbonding index"

/-! ## Reading -/

/-- The entry stored under an id. -/
def entry? (id : EntryId) : Transition (Option UnbondingEntry) :=
  Stored.record? Codec.unbondingEntry entryKind (.entry id)

/-- The ids that wait for a chain to acknowledge a version, oldest first. -/
def bucket (chain : ChainId) (version : Version) : Transition (List EntryId) := do
  let ids ← Stored.record? Codec.entryIds bucketKind (.bucket chain version)
  pure (ids.getD [])

/-- The entry that an id in a bucket refers to.  That there is none contradicts how buckets are
written. -/
def entryInBucket (chain : ChainId) (version : Version) (id : EntryId) :
    Transition UnbondingEntry := do
  match ← entry? id with
  | some entry => pure entry
  | none => Transition.fail (.invariantViolation
      s!"bucket ({chain.name}, {version}) references missing entry {id}")

/-- The entries that wait for a chain to acknowledge a version, oldest first. -/
def entriesInBucket (chain : ChainId) (version : Version) :
    Transition (List UnbondingEntry) := do
  let ids ← bucket chain version
  ids.mapM (entryInBucket chain version)

/-- The chain, version and ids in a listed bucket. -/
def decodeBucket (listed : Bytes × Bytes) :
    Except ProviderError (Option (ChainId × Version × List EntryId)) :=
  match Key.bucket? listed.1 with
  | none => .error (.invariantViolation "malformed unbonding index key")
  | some (chain, version) => do
    let ids ← Codec.entryIds.read bucketKind listed.2
    .ok (some (chain, version, ids))

/-- Goes through the buckets in key order. -/
def visitBuckets (start : β) (see : ChainId × Version × List EntryId → β → ForInStep β) :
    Transition β :=
  Stored.visit .unbondingBucket decodeBucket start see

/-- Whether an entry may complete. -/
def mayComplete (id : EntryId) : Transition Bool := do
  let waiting ← Transition.contains (Key.entry id).bytes
  pure !waiting

/-! ## Creation -/

/-- Adds an id to the end of a bucket. -/
def addToBucket (id : EntryId) (version : Version) (chain : ChainId) : Transition Unit := do
  let ids ← bucket chain version
  Stored.putRecord Codec.entryIds (.bucket chain version) (ids ++ [id])

/-- Makes an entry wait for the given chains to acknowledge a version. -/
def gate (id : EntryId) (version : Version) (chains : List ChainId) : Transition Unit := do
  chains.forM (addToBucket id version)
  Stored.putRecord Codec.unbondingEntry (.entry id) ⟨id, version, chains⟩
  Transition.measure .entryCreated
  Transition.report (.unbondingGated id version chains.length)

/-- Makes an entry wait for every chain that is bound; without bound chains nothing is stored. -/
def create (id : EntryId) : Transition Unit := do
  if ← Transition.contains (Key.entry id).bytes then
    Transition.fail (.duplicateEntry id)
  else
    let version ← Versioning.current
    let chains ← Registry.boundChains
    if chains.isEmpty then Transition.report (.unbondingUngated id)
    else gate id version chains

/-! ## Acknowledgement -/

/-- An entry of a bucket after the chain of the bucket has acknowledged.  That the entry does not
wait for the chain contradicts how buckets are written. -/
def acknowledgeEntry (chain : ChainId) (version : Version) (entry : UnbondingEntry) :
    Except ProviderError UnbondingEntry :=
  if entry.isAwaiting chain then .ok (entry.acknowledge chain)
  else
    let place := s!"({chain.name}, {version})"
    .error (.invariantViolation
      s!"entry {entry.id} indexed under {place} does not await {chain.name}")

/-- Releases an entry that waits for nobody, and stores any other. -/
def settleEntry (entry : UnbondingEntry) : Transition Unit :=
  if entry.isFullyAcknowledged then Stored.delete (.entry entry.id)
  else Stored.putRecord Codec.unbondingEntry (.entry entry.id) entry

/-- The ids of the entries that wait for nobody. -/
def completedIds (entries : List UnbondingEntry) : List EntryId :=
  (entries.filter UnbondingEntry.isFullyAcknowledged).map UnbondingEntry.id

/-- Writes what a chain's acknowledgement of a version leaves of the entries in the bucket, and
tells which are released. -/
def settle (chain : ChainId) (version : Version) (entries : List UnbondingEntry) :
    Transition (List EntryId) := do
  entries.forM settleEntry
  Stored.delete (.bucket chain version)
  let completed := completedIds entries
  Transition.measure (.entriesCompleted (UInt64.ofNat completed.length))
  Transition.report (.versionAcknowledged chain version entries.length completed.length)
  pure completed

/-- A chain acknowledges a version.  Tells the ids of the entries that are released by it. -/
def acknowledge (chain : ChainId) (version : Version) : Transition (List EntryId) := do
  let entries ← entriesInBucket chain version
  if entries.isEmpty then pure []
  else
    let acknowledged ← Transition.ofExcept (entries.mapM (acknowledgeEntry chain version))
    settle chain version acknowledged

end Unbonding
end SharedSecurity
