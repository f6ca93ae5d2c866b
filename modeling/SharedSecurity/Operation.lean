import SharedSecurity.Handshake
import SharedSecurity.SlashQueue
import SharedSecurity.Unbonding

/-!
# The provider's operations

What a host asks of the provider.

* `Service.openInit`, `Service.openTry`, `Service.openConfirm` — the channel handshake.
* `Service.acknowledgePacket` — a consumer's acknowledgement on its channel.
* `Service.endBlock`, `Service.sweep` — the block boundary and what is sent out after it.
* `Service.unbondingCreated`, `Service.beforeUnbondingCompletes` — what staking asks.
* `Service.initGenesis`, `Service.exportGenesis` — loading and reading out what a provider starts
  from.
* `Operation`, `Service.perform` — the same as one type, for histories of arbitrary operations.
-/

set_option autoImplicit false
namespace SharedSecurity

namespace Service

/-! ## Channels and packets -/

/-- A handshake begins. -/
def openInit (_service : Service) (channel : ChannelId) : Transition Unit :=
  Registry.markInitializing channel

/-- A channel is checked before it is opened. -/
def openTry (service : Service) (channel : ChannelId) (hops : List ConnectionId)
    (claimed : ChainId) : Transition Unit :=
  Handshake.verify service channel hops claimed

/-- A channel is open and is bound. -/
def openConfirm (service : Service) (height : Height) (channel : ChannelId) :
    Transition Unit := do
  let _ ← Handshake.bind service height channel
  pure ()

/-- A consumer acknowledges a version on its channel and may send slash acknowledgements along.
Tells the ids of the entries that are released. -/
def acknowledgePacket (_service : Service) (channel : ChannelId)
    (ack : MaturityAcknowledgement) : Transition (List EntryId) := do
  match ← Registry.chainOf channel with
  | none => Transition.fail (.channelNotFound channel)
  | some chain =>
    let completed ← Unbonding.acknowledge chain ack.version
    ack.slashAcks.forM (SlashQueue.append chain)
    pure completed

/-! ## Blocks -/

/-- A block ends: its height is recorded for the current version, if so configured, and the next
version begins. -/
def endBlock (service : Service) (height : Height) : Transition Version := do
  if service.config.recordHeights then
    let version ← Versioning.current
    Versioning.recordHeight version height
  Versioning.advance

/-- Every queue of slash acknowledgements is handed out. -/
def sweep (_service : Service) : Transition (List (ChainId × List String)) := SlashQueue.sweep

/-! ## Staking -/

/-- Staking announces an unbonding. -/
def unbondingCreated (_service : Service) (notice : UnbondingNotice) : Transition Unit := do
  Transition.report (.unbondingAnnounced notice.id notice.validator notice.creationHeight)
  Unbonding.create notice.id

/-- Staking asks whether an unbonding may complete. -/
def beforeUnbondingCompletes (_service : Service) (id : EntryId) : Transition Bool :=
  Unbonding.mayComplete id

/-! ## Genesis -/

/-- Loads a genesis: its port, its version and its consumers in order. -/
def initGenesis (service : Service) (genesis : ProviderGenesis) : Transition Unit := do
  if genesis.port ≠ service.config.port then
    Transition.report (.genesisPortDiffers genesis.port service.config.port)
  Registry.setPort genesis.port
  Versioning.set genesis.version
  genesis.consumers.forM Registry.register
  Transition.report (.genesisLoaded genesis.port genesis.version genesis.consumers.length)

/-- Reads out a genesis; the port is the configured one if none is recorded. -/
def exportGenesis (service : Service) : Transition ProviderGenesis := do
  let port ← Registry.port?
  let version ← Versioning.current
  let consumers ← Registry.registrations
  pure ⟨port.getD service.config.port, version, consumers⟩

end Service

/-- What a host may ask of the provider. -/
inductive Operation where
  /-- Load a genesis. -/
  | initGenesis (genesis : ProviderGenesis)
  /-- Read out a genesis. -/
  | exportGenesis
  /-- Approve a consumer. -/
  | registerConsumer (registration : ConsumerRegistration)
  /-- A handshake begins. -/
  | openInit (channel : ChannelId)
  /-- A channel is checked before it is opened. -/
  | openTry (channel : ChannelId) (hops : List ConnectionId) (claimed : ChainId)
  /-- A channel is open. -/
  | openConfirm (height : Height) (channel : ChannelId)
  /-- Staking announces an unbonding. -/
  | unbondingCreated (notice : UnbondingNotice)
  /-- Staking asks whether an unbonding may complete. -/
  | beforeUnbondingCompletes (id : EntryId)
  /-- A consumer acknowledges a version. -/
  | acknowledgePacket (channel : ChannelId) (ack : MaturityAcknowledgement)
  /-- A block ends. -/
  | endBlock (height : Height)
  /-- The queues of slash acknowledgements are handed out. -/
  | sweep
deriving DecidableEq

/-- What an operation tells when it succeeds. -/
@[reducible] def Operation.Answer : Operation → Type
  | .initGenesis _ => Unit
  | .exportGenesis => ProviderGenesis
  | .registerConsumer _ => Unit
  | .openInit _ => Unit
  | .openTry .. => Unit
  | .openConfirm .. => Unit
  | .unbondingCreated _ => Unit
  | .beforeUnbondingCompletes _ => Bool
  | .acknowledgePacket .. => List EntryId
  | .endBlock _ => Version
  | .sweep => List (ChainId × List String)

/-- Performs an operation. -/
def Service.perform (service : Service) : (operation : Operation) → Transition operation.Answer
  | .initGenesis genesis => service.initGenesis genesis
  | .exportGenesis => service.exportGenesis
  | .registerConsumer registration => Registry.register registration
  | .openInit channel => service.openInit channel
  | .openTry channel hops claimed => service.openTry channel hops claimed
  | .openConfirm height channel => service.openConfirm height channel
  | .unbondingCreated notice => service.unbondingCreated notice
  | .beforeUnbondingCompletes id => service.beforeUnbondingCompletes id
  | .acknowledgePacket channel ack => service.acknowledgePacket channel ack
  | .endBlock height => service.endBlock height
  | .sweep => service.sweep

end SharedSecurity
