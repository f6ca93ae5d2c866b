import SharedSecurity.Config
import SharedSecurity.Json.Format
import SharedSecurity.Record
import SharedSecurity.Telemetry.Config

/-!
# The JSON form of each record

Records are objects with their fields in declaration order, identifiers are strings, and an
uninterpreted byte string is the list of its bytes.  A configuration may leave out any field; a
genesis may leave out its consumers, and a registration its genesis record.

`ProviderConfig.ofJson` reads and validates a configuration document.
-/

set_option autoImplicit false
namespace SharedSecurity
namespace Json
namespace Format

/-- A chain's name. -/
def chainId : Format ChainId := text.map ChainId.name ChainId.mk

/-- A channel's name. -/
def channelId : Format ChannelId := text.map ChannelId.name ChannelId.mk

/-- A light client's name. -/
def clientId : Format ClientId := text.map ClientId.name ClientId.mk

/-- A port's name. -/
def portId : Format PortId := text.map PortId.name PortId.mk

/-- An uninterpreted byte string. -/
def blob : Format Bytes := list byte

/-- The name of a status as a choice. -/
def statusChoice : ChannelStatus → String
  | .uninitialized => "Uninitialized"
  | .initializing => "Initializing"
  | .validating => "Validating"
  | .invalid => "Invalid"

/-- A channel's status. -/
def status : Format ChannelStatus where
  toValue value := .text (statusChoice value)
  ofValue? value := do
    let (name, carried) ← choice? value
    if carriesNothing carried then ChannelStatus.all.find? fun s => statusChoice s == name
    else none

/-- A light client's type: a Tendermint client, or another that carries its name. -/
def clientType : Format ClientType where
  toValue
    | .tendermint => .text "Tendermint"
    | .other name => .object [(Literal.ofText "Other", .text name)]
  ofValue? value := do
    let (name, carried) ← choice? value
    if name = "Tendermint" then
      if carriesNothing carried then some .tendermint else none
    else if name = "Other" then
      let form ← carried
      let other ← form.text?
      some (.other other)
    else none

/-- An unbonding entry. -/
def unbondingEntry : Format UnbondingEntry :=
  record
    (fun entry =>
      [("id", word.toValue entry.id),
        ("valset_update_id", word.toValue entry.version),
        ("unbonding_consumer_chains", (list chainId).toValue entry.outstanding)])
    (do
      let id ← word.required "id"
      let version ← word.required "valset_update_id"
      let outstanding ← (list chainId).required "unbonding_consumer_chains"
      pure ⟨id, version, outstanding⟩)

/-- What is known of a consumer chain. -/
def consumerChain : Format ConsumerChain :=
  record
    (fun consumer =>
      [("chain_id", chainId.toValue consumer.chain),
        ("channel_id", channelId.option.toValue consumer.channel),
        ("status", status.toValue consumer.status),
        ("genesis", blob.option.toValue consumer.genesis),
        ("init_height", word.toValue consumer.initHeight)])
    (do
      let chain ← chainId.required "chain_id"
      let channel ← channelId.optional "channel_id"
      let status ← status.required "status"
      let genesis ← blob.optional "genesis"
      let initHeight ← word.required "init_height"
      pure ⟨chain, channel, status, genesis, initHeight⟩)

/-- An acknowledgement. -/
def acknowledgement : Format MaturityAcknowledgement :=
  record
    (fun ack =>
      [("valset_update_id", word.toValue ack.version),
        ("slash_acks", (list text).toValue ack.slashAcks)])
    (do
      let version ← word.required "valset_update_id"
      let slashAcks ← (list text).required "slash_acks"
      pure ⟨version, slashAcks⟩)

/-- A registration. -/
def registration : Format ConsumerRegistration :=
  record
    (fun consumer =>
      [("chain_id", chainId.toValue consumer.chain),
        ("client_id", clientId.toValue consumer.client),
        ("genesis", blob.toValue consumer.genesis)])
    (do
      let chain ← chainId.required "chain_id"
      let client ← clientId.required "client_id"
      let genesis ← blob.defaulted "genesis" []
      pure ⟨chain, client, genesis⟩)

/-- A genesis. -/
def genesis : Format ProviderGenesis :=
  record
    (fun genesis =>
      [("port_id", portId.toValue genesis.port),
        ("valset_update_id", word.toValue genesis.version),
        ("consumers", (list registration).toValue genesis.consumers)])
    (do
      let port ← portId.required "port_id"
      let version ← word.required "valset_update_id"
      let consumers ← (list registration).defaulted "consumers" []
      pure ⟨port, version, consumers⟩)

/-- A provider configuration. -/
def providerConfig : Format ProviderConfig :=
  record
    (fun config =>
      [("port_id", portId.toValue config.port),
        ("require_initializing_status", bool.toValue config.requireInitializing),
        ("record_valset_heights", bool.toValue config.recordHeights)])
    (do
      let defaults : ProviderConfig := {}
      let port ← portId.defaulted "port_id" defaults.port
      let requireInitializing ←
        bool.defaulted "require_initializing_status" defaults.requireInitializing
      let recordHeights ← bool.defaulted "record_valset_heights" defaults.recordHeights
      pure ⟨port, requireInitializing, recordHeights⟩)

/-- A telemetry configuration. -/
def telemetryConfig : Format TelemetryConfig :=
  record
    (fun config =>
      [("service_name", text.toValue config.serviceName),
        ("log_level", text.toValue config.logLevel),
        ("console_output", bool.toValue config.consoleOutput),
        ("json_logs", bool.toValue config.jsonLogs),
        ("network", text.toValue config.network)])
    (do
      let defaults : TelemetryConfig := {}
      let serviceName ← text.defaulted "service_name" defaults.serviceName
      let logLevel ← text.defaulted "log_level" defaults.logLevel
      let consoleOutput ← bool.defaulted "console_output" defaults.consoleOutput
      let jsonLogs ← bool.defaulted "json_logs" defaults.jsonLogs
      let network ← text.defaulted "network" defaults.network
      pure ⟨serviceName, logLevel, consoleOutput, jsonLogs, network⟩)

end Format
end Json

/-- The configuration that a document describes, if its port has a name. -/
def ProviderConfig.ofJson (document : String) : Except ConfigError ProviderConfig :=
  match Json.Format.providerConfig.read? document with
  | none => .error .unreadable
  | some config => config.validate

end SharedSecurity
