import SharedSecurity.Stored

/-!
# The registry of consumers and channels

What is recorded about consumer chains and their channels.

* `Registry.channelOf`, `Registry.chainOf` — the binding of a chain to a channel, kept in both
  directions, and `Registry.boundChains`, all chains that are bound.
* `Registry.status` — the status of a channel, and `Registry.markInitializing`, the start of its
  handshake.
* `Registry.register`, `Registry.registrations` — the consumers approved for binding.
* `Registry.consumerChain` — all that is known of one chain.
-/

set_option autoImplicit false
namespace SharedSecurity
namespace Registry

variable {β : Type}

/-! ## Bindings -/

/-- The channel bound to a chain. -/
def channelOf (chain : ChainId) : Transition (Option ChannelId) := do
  let name ← Stored.text? "channel id" (.channelOf chain)
  pure (name.map ChannelId.mk)

/-- The chain bound to a channel. -/
def chainOf (channel : ChannelId) : Transition (Option ChainId) := do
  let name ← Stored.text? "chain id" (.chainOf channel)
  pure (name.map ChainId.mk)

/-- The chain and channel in an entry of the bindings by chain. -/
def decodeBinding (entry : Bytes × Bytes) :
    Except ProviderError (Option (ChainId × ChannelId)) := do
  let chain ← Stored.nameOfKey .channelOfChain "chain id" entry.1
  let channel ← Stored.nameOfValue "channel id" entry.2
  .ok (some (⟨chain⟩, ⟨channel⟩))

/-- The channel and chain in an entry of the bindings by channel. -/
def decodeReverse (entry : Bytes × Bytes) :
    Except ProviderError (Option (ChannelId × ChainId)) := do
  let channel ← Stored.nameOfKey .chainOfChannel "channel id" entry.1
  let chain ← Stored.nameOfValue "chain id" entry.2
  .ok (some (⟨channel⟩, ⟨chain⟩))

/-- Goes through the bound chains with their channels, in the order of the chains. -/
def visitChains (start : β) (see : ChainId × ChannelId → β → ForInStep β) : Transition β :=
  Stored.visit .channelOfChain decodeBinding start see

/-- Goes through the bound channels with their chains, in the order of the channels. -/
def visitChannels (start : β) (see : ChannelId × ChainId → β → ForInStep β) : Transition β :=
  Stored.visit .chainOfChannel decodeReverse start see

/-- Every bound chain, in order. -/
def boundChains : Transition (List ChainId) :=
  visitChains [] fun binding seen => Stored.noteAll binding.1 seen

/-! ## Channel status -/

/-- The status that stored bytes are. -/
def decodeStatus (channel : ChannelId) : Bytes → Except ProviderError ChannelStatus
  | [byte] =>
    match ChannelStatus.ofByte? byte with
    | some status => .ok status
    | none => .error (.invariantViolation s!"unknown status byte {byte} for {channel.name}")
  | bytes =>
    .error (.invariantViolation s!"malformed status for {channel.name}: {bytes.length} bytes")

/-- The status of a channel; uninitialized if there is no record. -/
def status (channel : ChannelId) : Transition ChannelStatus := do
  let recorded ← Stored.read? (decodeStatus channel) (.statusOf channel)
  pure (recorded.getD .uninitialized)

/-- Records the status of a channel, whatever it was. -/
def setStatus (channel : ChannelId) (status : ChannelStatus) : Transition Unit :=
  Transition.put (Key.statusOf channel).bytes [status.toByte]

/-- Marks a channel whose handshake begins; only a channel without a record may begin one. -/
def markInitializing (channel : ChannelId) : Transition Unit := do
  let current ← status channel
  if current.canMoveTo .initializing then setStatus channel .initializing
  else Transition.fail (.invalidStatus channel .uninitialized current)

/-! ## Consumers -/

/-- Records the light client that is trusted for a chain. -/
def setClient (chain : ChainId) (client : ClientId) : Transition Unit :=
  Stored.putText (.clientOf chain) client.name

/-- The light client registered for a chain. -/
def client? (chain : ChainId) : Transition (Option ClientId) := do
  let name ← Stored.text? "client id" (.clientOf chain)
  pure (name.map ClientId.mk)

/-- Records the genesis record of a chain. -/
def setGenesis (chain : ChainId) (genesis : Bytes) : Transition Unit :=
  Transition.put (Key.genesisOf chain).bytes genesis

/-- The genesis record of a chain. -/
def genesis? (chain : ChainId) : Transition (Option Bytes) :=
  Transition.get? (Key.genesisOf chain).bytes

/-- The height at which a chain was bound; zero if it never was. -/
def initHeight (chain : ChainId) : Transition Height := do
  let height ← Stored.word? "init chain height" (.initHeightOf chain)
  pure (height.getD 0)

/-- Approves a consumer for binding.  An empty genesis record leaves the recorded one alone. -/
def register (registration : ConsumerRegistration) : Transition Unit := do
  setClient registration.chain registration.client
  if !registration.genesis.isEmpty then
    setGenesis registration.chain registration.genesis
  Transition.report (.consumerRegistered registration.chain registration.client)

/-- The registration that an entry of the registered clients belongs to. -/
def registrationOfEntry (entry : Bytes × Bytes) : Transition ConsumerRegistration := do
  let chain ← Transition.ofExcept (Stored.nameOfKey .clientOfChain "chain id" entry.1)
  let client ← Transition.ofExcept (Stored.nameOfValue "client id" entry.2)
  let genesis ← genesis? ⟨chain⟩
  pure ⟨⟨chain⟩, ⟨client⟩, genesis.getD []⟩

/-- Every registered consumer, in the order of the chains. -/
def registrations : Transition (List ConsumerRegistration) := do
  let entries ← Transition.scan KeyFamily.clientOfChain.stem
  entries.mapM registrationOfEntry

/-- All that is known of a chain, if anything is. -/
def consumerChain (chain : ChainId) : Transition (Option ConsumerChain) := do
  let channel ← channelOf chain
  let genesis ← genesis? chain
  let client ← client? chain
  if channel.isNone && genesis.isNone && client.isNone then pure none
  else
    let status ← match channel with
      | some channel => status channel
      | none => pure .uninitialized
    let height ← initHeight chain
    pure (some ⟨chain, channel, status, genesis, height⟩)

/-! ## Port -/

/-- Records the bound port. -/
def setPort (port : PortId) : Transition Unit := Stored.putText .port port.name

/-- The bound port, if one is recorded. -/
def port? : Transition (Option PortId) := do
  let name ← Stored.text? "port id" .port
  pure (name.map PortId.mk)

end Registry
end SharedSecurity
