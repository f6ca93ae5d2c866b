import SharedSecurity.Error

/-!
# Events

What a provider reports about its own doing.  An `Event` says what happened; its level, message and
fields are what a log shows of it.
-/

set_option autoImplicit false
namespace SharedSecurity

/-- How grave an event is. -/
inductive Level where
  /-- Something went wrong. -/
  | error
  /-- Something is out of the ordinary. -/
  | warn
  /-- Something took effect. -/
  | info
  /-- A detail. -/
  | debug
  /-- A finer detail. -/
  | trace
deriving DecidableEq

/-- The name of a level in a log. -/
def Level.name : Level → String
  | .error => "ERROR"
  | .warn => "WARN"
  | .info => "INFO"
  | .debug => "DEBUG"
  | .trace => "TRACE"

/-- The value of a field of an event. -/
inductive FieldValue where
  /-- A number. -/
  | number (value : Nat)
  /-- A text. -/
  | text (value : String)
deriving DecidableEq

/-- What a provider reports. -/
inductive Event where
  /-- A channel may be bound to a chain. -/
  | channelVerified (chain : ChainId) (channel : ChannelId)
  /-- A channel was confirmed that is bound already. -/
  | channelAlreadyBound (chain : ChainId) (channel : ChannelId)
  /-- A channel was bound to a chain. -/
  | channelBound (chain : ChainId) (channel : ChannelId) (height : Height)
  /-- A channel that lost its race could not be closed. -/
  | closeFailed (channel : ChannelId) (error : CloseError)
  /-- A channel that lost its race may not be closed by the provider. -/
  | capabilityMissing (channel : ChannelId)
  /-- A channel lost its race. -/
  | duplicateRejected (chain : ChainId) (existing rejected : ChannelId)
  /-- A consumer was registered. -/
  | consumerRegistered (chain : ChainId) (client : ClientId)
  /-- There is a new current version. -/
  | versionAdvanced (version : Version)
  /-- Staking announced an unbonding. -/
  | unbondingAnnounced (id : EntryId) (validator : String) (creationHeight : Height)
  /-- An unbonding waits for nobody. -/
  | unbondingUngated (id : EntryId)
  /-- An unbonding waits for a number of consumers. -/
  | unbondingGated (id : EntryId) (version : Version) (consumers : Nat)
  /-- A consumer acknowledged a version, which concerned some entries and completed some. -/
  | versionAcknowledged (chain : ChainId) (version : Version) (acknowledged completed : Nat)
  /-- Slash acknowledgements were handed out. -/
  | slashQueueDrained (chain : ChainId) (count : Nat)
  /-- A genesis names another port than the configuration. -/
  | genesisPortDiffers (genesis configured : PortId)
  /-- A genesis was loaded. -/
  | genesisLoaded (port : PortId) (version : Version) (consumers : Nat)
  /-- A transition was given up because of an error. -/
  | transitionGivenUp (error : ProviderError)

namespace Event

/-- How grave an event is. -/
def level : Event → Level
  | channelVerified .. => .debug
  | channelAlreadyBound .. => .debug
  | channelBound .. => .info
  | closeFailed .. => .warn
  | capabilityMissing _ => .warn
  | duplicateRejected .. => .warn
  | consumerRegistered .. => .info
  | versionAdvanced _ => .debug
  | unbondingAnnounced .. => .debug
  | unbondingUngated _ => .debug
  | unbondingGated .. => .info
  | versionAcknowledged .. => .info
  | slashQueueDrained .. => .debug
  | genesisPortDiffers .. => .warn
  | genesisLoaded .. => .info
  | transitionGivenUp error => if error.isFatal then .error else .warn

/-- What an event is called, apart from the mark of the provider. -/
def title : Event → String
  | channelVerified .. => "Channel verified for binding"
  | channelAlreadyBound .. => "Channel already bound"
  | channelBound .. => "CCV channel bound"
  | closeFailed .. => "Close request for duplicate channel failed"
  | capabilityMissing _ => "No capability to close duplicate channel"
  | duplicateRejected .. => "Duplicate CCV channel rejected"
  | consumerRegistered .. => "Consumer chain registered"
  | versionAdvanced _ => "Validator set version advanced"
  | unbondingAnnounced .. => "Unbonding entry created"
  | unbondingUngated _ => "No consumer chains, unbonding not gated"
  | unbondingGated .. => "Unbonding entry gated on consumer acknowledgements"
  | versionAcknowledged .. => "Consumer acknowledged validator set"
  | slashQueueDrained .. => "Slash acks drained"
  | genesisPortDiffers .. => "Genesis port differs from configured port"
  | genesisLoaded .. => "Provider genesis initialized"
  | transitionGivenUp error =>
    if error.isFatal then "Transition halted" else "Transition rejected"

/-- The message of an event in a log. -/
def message (event : Event) : String := "[qc-15] " ++ event.title

/-- A field with a word as its value. -/
def wordField (name : String) (value : UInt64) : String × FieldValue := (name, .number value.toNat)

/-- A field with a count as its value. -/
def countField (name : String) (value : Nat) : String × FieldValue := (name, .number value)

/-- A field with a text as its value. -/
def textField (name value : String) : String × FieldValue := (name, .text value)

/-- The fields of an event in a log. -/
def fields : Event → List (String × FieldValue)
  | channelVerified chain channel =>
    [textField "chain_id" chain.name, textField "channel_id" channel.name]
  | channelAlreadyBound chain channel =>
    [textField "chain_id" chain.name, textField "channel_id" channel.name]
  | channelBound chain channel height =>
    [textField "chain_id" chain.name, textField "channel_id" channel.name,
      wordField "height" height]
  | closeFailed channel error =>
    [textField "channel_id" channel.name, textField "error" error.message]
  | capabilityMissing channel => [textField "channel_id" channel.name]
  | duplicateRejected chain existing rejected =>
    [textField "chain_id" chain.name, textField "existing" existing.name,
      textField "rejected" rejected.name]
  | consumerRegistered chain client =>
    [textField "chain_id" chain.name, textField "client_id" client.name]
  | versionAdvanced version => [wordField "version" version]
  | unbondingAnnounced id validator creationHeight =>
    [wordField "entry_id" id, textField "validator" validator,
      wordField "creation_height" creationHeight]
  | unbondingUngated id => [wordField "entry_id" id]
  | unbondingGated id version consumers =>
    [wordField "entry_id" id, wordField "version" version, countField "consumers" consumers]
  | versionAcknowledged chain version acknowledged completed =>
    [textField "chain_id" chain.name, wordField "version" version,
      countField "acknowledged" acknowledged, countField "completed" completed]
  | slashQueueDrained chain count =>
    [textField "chain_id" chain.name, countField "count" count]
  | genesisPortDiffers genesis configured =>
    [textField "genesis_port" genesis.name, textField "configured_port" configured.name]
  | genesisLoaded port version consumers =>
    [textField "port" port.name, wordField "version" version, countField "consumers" consumers]
  | transitionGivenUp error => [textField "error" error.message]

end Event
end SharedSecurity
