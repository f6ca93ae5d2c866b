import SharedSecurity.Channel.Status
import SharedSecurity.Client

/-!
# Records

The records a provider keeps or exchanges.

* `UnbondingEntry` — an unbonding held until every chain in its list has acknowledged its version.
* `ConsumerChain` — all that is known of one consumer chain.
* `MaturityAcknowledgement` — a consumer's word that a validator set has matured on its side.
* `ConsumerRegistration`, `ProviderGenesis` — what a provider starts from.
-/

set_option autoImplicit false
namespace SharedSecurity

/-- An unbonding entry that waits for consumer chains. -/
structure UnbondingEntry where
  /-- The number staking gave it. -/
  id : EntryId
  /-- The validator set that was current when the unbonding began. -/
  version : Version
  /-- The chains that have not acknowledged that validator set yet. -/
  outstanding : List ChainId
deriving DecidableEq

namespace UnbondingEntry

/-- Whether a chain still has to acknowledge. -/
def isAwaiting (entry : UnbondingEntry) (chain : ChainId) : Bool :=
  entry.outstanding.contains chain

/-- The entry after a chain has acknowledged. -/
def acknowledge (entry : UnbondingEntry) (chain : ChainId) : UnbondingEntry :=
  { entry with outstanding := entry.outstanding.filter fun other => other != chain }

/-- Whether no chain is outstanding. -/
def isFullyAcknowledged (entry : UnbondingEntry) : Bool := entry.outstanding.isEmpty

end UnbondingEntry

/-- What the provider knows of one consumer chain. -/
structure ConsumerChain where
  /-- The chain. -/
  chain : ChainId
  /-- The channel bound to it. -/
  channel : Option ChannelId
  /-- The status of that channel. -/
  status : ChannelStatus
  /-- The chain's own genesis record, uninterpreted. -/
  genesis : Option Bytes
  /-- The height at which the channel was bound. -/
  initHeight : Height
deriving DecidableEq

/-- A consumer's acknowledgement of a validator set, with slash acknowledgements it carries. -/
structure MaturityAcknowledgement where
  /-- The validator set that has matured. -/
  version : Version
  /-- Uninterpreted tokens, oldest first. -/
  slashAcks : List String
deriving DecidableEq

/-- A consumer chain approved for binding. -/
structure ConsumerRegistration where
  /-- The chain. -/
  chain : ChainId
  /-- The light client that is trusted for it. -/
  client : ClientId
  /-- Its own genesis record, uninterpreted; empty if there is none. -/
  genesis : Bytes
deriving DecidableEq

/-- What a provider starts from. -/
structure ProviderGenesis where
  /-- The port to bind. -/
  port : PortId
  /-- The number of the first validator set. -/
  version : Version
  /-- The approved consumers. -/
  consumers : List ConsumerRegistration
deriving DecidableEq

/-- The acknowledgement of the first validator set, without tokens. -/
instance : Inhabited MaturityAcknowledgement := ⟨⟨0, []⟩⟩

/-- The genesis of a provider without consumers. -/
instance : Inhabited ProviderGenesis := ⟨⟨.provider, 0, []⟩⟩

/-- A staking notice that an unbonding has begun.  Only the number matters to the gate. -/
structure UnbondingNotice where
  /-- The entry's number. -/
  id : EntryId
  /-- The validator the stake was bonded with. -/
  validator : String
  /-- The height at which the unbonding began. -/
  creationHeight : Height
deriving DecidableEq

end SharedSecurity
