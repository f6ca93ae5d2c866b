import SharedSecurity.Registry
import SharedSecurity.Service

/-!
# The channel handshake

A channel becomes the channel of a consumer chain in two stages.

* `Handshake.verify` — the try stage: checks, without a write, that a channel may be bound to the
  chain that is claimed for it.
* `Handshake.bind` — the confirm stage: finds the chain from what the transport reports and binds
  it.  If another channel holds the chain, the new one is marked invalid and a close is requested.

The single rules are `singleHop`, `tendermintClient`, `clientMatches` and `noValidatingChannel`.
-/

set_option autoImplicit false
namespace SharedSecurity

namespace Handshake

/-! ## Rules -/

/-- A channel runs over a single connection. -/
def singleHop : List ConnectionId → Except ProviderError ConnectionId
  | [hop] => .ok hop
  | hops => .error (.invalidHopCount hops.length)

/-- A channel is built on a Tendermint client. -/
def tendermintClient (client : ClientId) (state : LightClient) : Except ProviderError Unit :=
  match state.clientType with
  | .tendermint => .ok ()
  | .other name => .error (.invalidClientType client name)

/-- A channel is built on the light client that is registered for the claimed chain, and that
client tracks the chain. -/
def clientMatches (claimed : ChainId) (registered : Option ClientId) (actual : ClientId)
    (state : LightClient) : Except ProviderError Unit :=
  if registered = some actual ∧ state.chain = claimed then .ok ()
  else .error (.clientMismatch claimed registered actual)

/-- No other channel validates the chain; `bound` is the chain's channel and its status. -/
def noValidatingChannel (chain : ChainId) (candidate : ChannelId) :
    Option (ChannelId × ChannelStatus) → Except ProviderError Unit
  | some (existing, .validating) =>
    if existing = candidate then .ok ()
    else .error (.duplicateRegistration chain existing candidate)
  | _ => .ok ()

/-! ## The two stages -/

/-- The light client under a connection, and its state. -/
def resolveClient (lookup : Lookup) (hop : ConnectionId) :
    Except ProviderError (ClientId × LightClient) :=
  match lookup.client hop with
  | none => .error (.connectionNotFound hop)
  | some client =>
    match lookup.clientState client with
    | none => .error (.clientNotFound client)
    | some state => .ok (client, state)

/-- The channel bound to a chain and that channel's status. -/
def boundChannel (chain : ChainId) : Transition (Option (ChannelId × ChannelStatus)) := do
  match ← Registry.channelOf chain with
  | none => pure none
  | some existing =>
    let status ← Registry.status existing
    pure (some (existing, status))

/-- Under a strict configuration, a channel is initializing before it is verified. -/
def requireInitializing (config : ProviderConfig) (channel : ChannelId) : Transition Unit := do
  if config.requireInitializing then
    let actual ← Registry.status channel
    if actual != .initializing then
      Transition.fail (.invalidStatus channel .initializing actual)

/-- Checks that a channel may become the channel of the claimed chain. -/
def verify (service : Service) (channel : ChannelId) (hops : List ConnectionId)
    (claimed : ChainId) : Transition Unit := do
  let hop ← Transition.ofExcept (singleHop hops)
  requireInitializing service.config channel
  let (client, state) ← Transition.ofExcept (resolveClient service.lookup hop)
  Transition.ofExcept (tendermintClient client state)
  let registered ← Registry.client? claimed
  Transition.ofExcept (clientMatches claimed registered client state)
  let bound ← boundChannel claimed
  Transition.ofExcept (noValidatingChannel claimed channel bound)
  Transition.report (.channelVerified claimed channel)

/-- The chain that the transport resolves a channel to. -/
def resolveChain (service : Service) (channel : ChannelId) : Except ProviderError ChainId := do
  let hops ← match service.lookup.hops service.config.port channel with
    | some hops => .ok hops
    | none => .error (.channelNotFound channel)
  let hop ← singleHop hops
  let (_, state) ← resolveClient service.lookup hop
  .ok state.chain

/-- Asks the transport to close a channel and tells what came of it. -/
def requestClose (closer : Closer) (port : PortId) (channel : ChannelId) (ticket : Ticket) :
    Transition (Except CloseError Unit) := do
  Transition.give (.close port channel)
  pure (closer port channel ticket)

/-- Asks for the channel that lost its race to be closed, if the provider holds a ticket for it.
Nothing depends on whether that succeeds. -/
def closeLoser (service : Service) (channel : ChannelId) : Transition Unit := do
  match service.capabilities service.config.port channel with
  | none => Transition.report (.capabilityMissing channel)
  | some ticket =>
    match ← requestClose service.closer service.config.port channel ticket with
    | .ok () => pure ()
    | .error error => Transition.report (.closeFailed channel error)

/-- Marks a channel that lost its race as invalid, asks for it to be closed, and ends with the
error that says so. -/
def rejectDuplicate {α : Type} (service : Service) (chain : ChainId)
    (existing rejected : ChannelId) : Transition α := do
  Registry.setStatus rejected .invalid
  closeLoser service rejected
  Transition.measure .duplicateRejected
  Transition.report (.duplicateRejected chain existing rejected)
  Transition.fail (.duplicateRegistration chain existing rejected)

/-- Writes the binding of a chain to a channel at a height. -/
def writeBinding (chain : ChainId) (channel : ChannelId) (height : Height) :
    Transition Unit := do
  Stored.putText (.channelOf chain) channel.name
  Stored.putText (.chainOf channel) chain.name
  Stored.putWord (.initHeightOf chain) height
  Registry.setStatus channel .validating
  Transition.measure .channelBound
  Transition.report (.channelBound chain channel height)

/-- Binds a channel to the chain that the transport resolves it to, and tells that chain. -/
def bind (service : Service) (height : Height) (channel : ChannelId) : Transition ChainId := do
  let chain ← Transition.ofExcept (resolveChain service channel)
  match ← Registry.channelOf chain with
  | some existing =>
    if existing = channel then
      Transition.report (.channelAlreadyBound chain channel)
      pure chain
    else rejectDuplicate service chain existing channel
  | none =>
    writeBinding chain channel height
    pure chain

end Handshake
end SharedSecurity
