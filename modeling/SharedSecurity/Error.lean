import SharedSecurity.Channel.Status
import SharedSecurity.Client
import SharedSecurity.Store
import SharedSecurity.Text.Quoted

/-!
# Provider errors

* `ProviderError` — why an operation of the provider fails, with its wording `message`.
* `ErrorClass`, `ProviderError.errorClass` — the classes a host reacts to.
* `ProviderError.isFatal` — whether the host has to halt: the stored state is not what the provider
  wrote.
* `CloseError` — why a request to close a channel fails; never fatal.
-/

set_option autoImplicit false
namespace SharedSecurity

/-- Why an operation fails. -/
inductive ProviderError where
  /-- The channel does not run over a single connection. -/
  | invalidHopCount (got : Nat)
  /-- The channel is not in the status the handshake needs. -/
  | invalidStatus (channel : ChannelId) (expected actual : ChannelStatus)
  /-- The channel is built on a light client of an unsupported type. -/
  | invalidClientType (client : ClientId) (clientType : String)
  /-- The channel is not built on the light client registered for the chain. -/
  | clientMismatch (chain : ChainId) (expected : Option ClientId) (actual : ClientId)
  /-- The chain is bound to another channel. -/
  | duplicateRegistration (chain : ChainId) (existing rejected : ChannelId)
  /-- The channel is unknown. -/
  | channelNotFound (channel : ChannelId)
  /-- The connection is unknown. -/
  | connectionNotFound (connection : ConnectionId)
  /-- The light client is unknown. -/
  | clientNotFound (client : ClientId)
  /-- The stored state contradicts itself. -/
  | invariantViolation (reason : String)
  /-- The unbonding entry exists. -/
  | duplicateEntry (id : EntryId)
  /-- There is no next version. -/
  | versionOverflow (current : Version)
  /-- The store failed. -/
  | store (fault : StoreFault)
deriving DecidableEq

/-- The classes of errors a host tells apart. -/
inductive ErrorClass where
  /-- The handshake has the wrong shape. -/
  | validation
  /-- A light client or chain is not the expected one. -/
  | identityMismatch
  /-- A second channel asks for a bound chain. -/
  | duplicateRegistration
  /-- A channel, connection or light client is unknown. -/
  | notFound
  /-- The stored state contradicts itself. -/
  | invariantViolation
  /-- The request conflicts with what is stored. -/
  | conflict
  /-- The store failed. -/
  | storage
deriving DecidableEq

/-- The name of a class in metrics. -/
def ErrorClass.label : ErrorClass → String
  | .validation => "validation"
  | .identityMismatch => "identity_mismatch"
  | .duplicateRegistration => "duplicate_registration"
  | .notFound => "not_found"
  | .invariantViolation => "invariant_violation"
  | .conflict => "conflict"
  | .storage => "storage"

/-- How a message shows the client registered for a chain, or that there is none. -/
def ClientId.describeExpected : Option ClientId → String
  | none => "None"
  | some client => "Some(ClientId(" ++ Text.quoted client.name ++ "))"

namespace ProviderError

/-- The wording of an error. -/
def message : ProviderError → String
  | invalidHopCount got => s!"Invalid connection hops: expected 1, got {got}"
  | invalidStatus channel expected actual =>
    s!"Invalid status for channel {channel.name}: expected {expected.name}, got {actual.name}"
  | invalidClientType client clientType => s!"Invalid client type for {client.name}: {clientType}"
  | clientMismatch chain expected actual =>
    let shown := ClientId.describeExpected expected
    s!"Client mismatch for chain {chain.name}: expected {shown}, got {actual.name}"
  | duplicateRegistration chain existing rejected =>
    s!"CCV channel {existing.name} already bound for chain {chain.name}, " ++
      s!"rejecting {rejected.name}"
  | channelNotFound channel => s!"Channel not found: {channel.name}"
  | connectionNotFound connection => s!"Connection not found: {connection.name}"
  | clientNotFound client => s!"Client not found: {client.name}"
  | invariantViolation reason => s!"Invariant violation: {reason}"
  | duplicateEntry id => s!"Unbonding entry {id} already exists"
  | versionOverflow current => s!"Validator set update id overflow at {current}"
  | store fault => fault.message

/-- The class of an error. -/
def errorClass : ProviderError → ErrorClass
  | invalidHopCount _ => .validation
  | invalidStatus .. => .validation
  | invalidClientType .. => .validation
  | clientMismatch .. => .identityMismatch
  | duplicateRegistration .. => .duplicateRegistration
  | channelNotFound _ => .notFound
  | connectionNotFound _ => .notFound
  | clientNotFound _ => .notFound
  | invariantViolation _ => .invariantViolation
  | duplicateEntry _ => .conflict
  | versionOverflow _ => .conflict
  | store _ => .storage

/-- Whether the host must halt: the stored state is damaged. -/
def isFatal : ProviderError → Bool
  | invariantViolation _ => true
  | store (.corruption _) => true
  | _ => false

end ProviderError

/-- Why a channel was not closed. -/
inductive CloseError where
  /-- The transport refused. -/
  | rejected (channel : ChannelId) (reason : String)
  /-- The capability was not accepted. -/
  | unauthorized (channel : ChannelId)
deriving DecidableEq

/-- The wording of a refused close request. -/
def CloseError.message : CloseError → String
  | .rejected channel reason => s!"Close rejected for {channel.name}: {reason}"
  | .unauthorized channel => s!"Capability not authenticated for {channel.name}"

end SharedSecurity
