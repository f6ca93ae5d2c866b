import SharedSecurity.Error

/-!
# What the provider is told by the transport

The provider trusts what the transport reports about channels, connections and light clients: it
has been proven there.  It may ask for a channel to be closed, with a ticket that shows it may.

* `Lookup` — what is known of channels, connections and light clients.
* `Capabilities` — which channels the provider holds a ticket for.
* `Closer` — what becomes of a request to close a channel.

`Lookup.withPath`, `Capabilities.granting` and `Closer.accepting` build them from tables.
-/

set_option autoImplicit false
namespace SharedSecurity

/-- What the transport reports; `none` for what it does not know. -/
structure Lookup where
  /-- The connections a channel on a port runs over, one after the other. -/
  hops : PortId → ChannelId → Option (List ConnectionId)
  /-- The light client a connection is built on. -/
  client : ConnectionId → Option ClientId
  /-- The verified state of a light client. -/
  clientState : ClientId → Option LightClient

namespace Lookup

/-- A transport that knows nothing. -/
def empty : Lookup := ⟨fun _ _ => none, fun _ => none, fun _ => none⟩

/-- A transport that knows one more channel. -/
def withChannel (lookup : Lookup) (port : PortId) (channel : ChannelId)
    (hops : List ConnectionId) : Lookup :=
  { lookup with
    hops := fun p c => if p = port ∧ c = channel then some hops else lookup.hops p c }

/-- A transport that knows one more connection. -/
def withConnection (lookup : Lookup) (connection : ConnectionId) (client : ClientId) : Lookup :=
  { lookup with client := fun c => if c = connection then some client else lookup.client c }

/-- A transport that knows one more light client. -/
def withClient (lookup : Lookup) (client : ClientId) (state : LightClient) : Lookup :=
  { lookup with clientState := fun c => if c = client then some state else lookup.clientState c }

/-- A transport that knows a channel over a single connection, which is built on a Tendermint
client of a chain. -/
def withPath (lookup : Lookup) (port : PortId) (channel : ChannelId) (connection : ConnectionId)
    (client : ClientId) (chain : ChainId) : Lookup :=
  ((lookup.withChannel port channel [connection]).withConnection connection client).withClient
    client ⟨.tendermint, chain⟩

end Lookup

/-- The proof that the provider may act on a channel. -/
structure Ticket where
  /-- The number the authority gave it. -/
  index : UInt64
deriving DecidableEq

/-- The tickets the provider holds. -/
abbrev Capabilities := PortId → ChannelId → Option Ticket

namespace Capabilities

/-- The number of a channel's ticket: the bytes of its name as digits to base 31, modulo the size
of a word. -/
def ticketIndex (channel : ChannelId) : UInt64 :=
  channel.bytes.foldl (fun index byte => index * 31 + byte.toUInt64) 0

/-- Tickets for every channel but those listed. -/
def granting (withheld : List ChannelId) : Capabilities := fun _ channel =>
  if channel ∈ withheld then none else some ⟨ticketIndex channel⟩

/-- No tickets. -/
def denying : Capabilities := fun _ _ => none

end Capabilities

/-- What becomes of a request to close a channel on a port. -/
abbrev Closer := PortId → ChannelId → Ticket → Except CloseError Unit

namespace Closer

/-- Every request is accepted. -/
def accepting : Closer := fun _ _ _ => .ok ()

/-- Every request is refused. -/
def rejecting : Closer := fun _ channel _ =>
  .error (.rejected channel "closer configured to reject")

end Closer
end SharedSecurity
