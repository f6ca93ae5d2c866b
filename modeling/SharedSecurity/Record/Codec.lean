import SharedSecurity.Codec
import SharedSecurity.Config
import SharedSecurity.Record
import SharedSecurity.Telemetry.Config

/-!
# The binary form of each record

A record is its fields in order; an identifier is its text.
-/

set_option autoImplicit false
namespace SharedSecurity
namespace Codec

/-- A chain's name. -/
def chainId : Codec ChainId := text.map ChainId.name ChainId.mk

/-- A channel's name. -/
def channelId : Codec ChannelId := text.map ChannelId.name ChannelId.mk

/-- A light client's name. -/
def clientId : Codec ClientId := text.map ClientId.name ClientId.mk

/-- A port's name. -/
def portId : Codec PortId := text.map PortId.name PortId.mk

/-- An uninterpreted byte string, as a list of bytes. -/
def blob : Codec Bytes := list byte

/-- The ids in a bucket of unbonding entries. -/
def entryIds : Codec (List EntryId) := list word

/-- The tokens in a queue of slash acknowledgements. -/
def tokens : Codec (List String) := list text

/-- A channel's status: its place in the lifecycle. -/
def status : Codec ChannelStatus :=
  (choice ChannelStatus.all.length).map (fun value => value.toByte.toNat)
    fun index => ChannelStatus.all.getD index .uninitialized

/-- A light client's type: a Tendermint client, or another by its name. -/
def clientType : Codec ClientType where
  encode
    | .tendermint => (choice 2).encode 0
    | .other name => (choice 2).encode 1 ++ text.encode name
  decode bytes := do
    let (index, rest) ← (choice 2).decode bytes
    if index = 0 then .ok (.tendermint, rest)
    else
      let (name, rest) ← text.decode rest
      .ok (.other name, rest)

/-- An unbonding entry. -/
def unbondingEntry : Codec UnbondingEntry :=
  (word.pair (word.pair (list chainId))).map (fun e => (e.id, e.version, e.outstanding))
    fun (id, version, outstanding) => ⟨id, version, outstanding⟩

/-- What is known of a consumer chain. -/
def consumerChain : Codec ConsumerChain :=
  (chainId.pair ((option channelId).pair (status.pair ((option blob).pair word)))).map
    (fun c => (c.chain, c.channel, c.status, c.genesis, c.initHeight))
    fun (chain, channel, status, genesis, initHeight) =>
      ⟨chain, channel, status, genesis, initHeight⟩

/-- An acknowledgement. -/
def acknowledgement : Codec MaturityAcknowledgement :=
  (word.pair tokens).map (fun a => (a.version, a.slashAcks))
    fun (version, slashAcks) => ⟨version, slashAcks⟩

/-- A registration. -/
def registration : Codec ConsumerRegistration :=
  (chainId.pair (clientId.pair blob)).map (fun r => (r.chain, r.client, r.genesis))
    fun (chain, client, genesis) => ⟨chain, client, genesis⟩

/-- A genesis. -/
def genesis : Codec ProviderGenesis :=
  (portId.pair (word.pair (list registration))).map (fun g => (g.port, g.version, g.consumers))
    fun (port, version, consumers) => ⟨port, version, consumers⟩

/-- A provider configuration. -/
def providerConfig : Codec ProviderConfig :=
  (portId.pair (bool.pair bool)).map (fun c => (c.port, c.requireInitializing, c.recordHeights))
    fun (port, requireInitializing, recordHeights) => ⟨port, requireInitializing, recordHeights⟩

/-- A telemetry configuration. -/
def telemetryConfig : Codec TelemetryConfig :=
  (text.pair (text.pair (bool.pair (bool.pair text)))).map
    (fun c => (c.serviceName, c.logLevel, c.consoleOutput, c.jsonLogs, c.network))
    fun (serviceName, logLevel, consoleOutput, jsonLogs, network) =>
      ⟨serviceName, logLevel, consoleOutput, jsonLogs, network⟩

end Codec
end SharedSecurity
