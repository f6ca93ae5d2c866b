import SharedSecurity.Text.Utf8

/-!
# Identifiers

Chains, channels, connections, light clients and ports are named by text.  Each kind of name is a
type of its own, so that a channel is never taken for a chain.  Any text is a name, the empty one
and those with separators included.

Validator sets, unbonding entries and blocks are numbered by 64-bit words.
-/

set_option autoImplicit false
namespace SharedSecurity

/-- The name of a consumer chain. -/
structure ChainId where
  /-- The name as text. -/
  name : String
deriving DecidableEq, Inhabited

/-- The name of a channel on the provider's side. -/
structure ChannelId where
  /-- The name as text. -/
  name : String
deriving DecidableEq, Inhabited

/-- The name of a connection. -/
structure ConnectionId where
  /-- The name as text. -/
  name : String
deriving DecidableEq, Inhabited

/-- The name of a light client. -/
structure ClientId where
  /-- The name as text. -/
  name : String
deriving DecidableEq, Inhabited

/-- The name of a port the provider owns. -/
structure PortId where
  /-- The name as text. -/
  name : String
deriving DecidableEq, Inhabited

/-- The number of a validator set. -/
abbrev Version := UInt64

/-- The number of an unbonding entry, chosen by staking. -/
abbrev EntryId := UInt64

/-- A block height of the provider chain. -/
abbrev Height := UInt64

/-- The port a provider binds unless told otherwise. -/
def PortId.provider : PortId := ⟨"provider"⟩

/-- The version of this library's interface. -/
def releaseVersion : String := "0.1.0"

namespace ChainId

/-- The UTF-8 bytes of a chain's name. -/
def bytes (chain : ChainId) : Bytes := Utf8.encode chain.name

theorem eq_of_bytes_eq {a b : ChainId} (h : a.bytes = b.bytes) : a = b := by
  cases a; cases b; exact congrArg ChainId.mk (Utf8.eq_of_encode_eq h)

end ChainId

namespace ChannelId

/-- The UTF-8 bytes of a channel's name. -/
def bytes (channel : ChannelId) : Bytes := Utf8.encode channel.name

theorem eq_of_bytes_eq {a b : ChannelId} (h : a.bytes = b.bytes) : a = b := by
  cases a; cases b; exact congrArg ChannelId.mk (Utf8.eq_of_encode_eq h)

end ChannelId

instance : ByteOrdered ChainId := ⟨ChainId.bytes, ChainId.eq_of_bytes_eq⟩

instance : ByteOrdered ChannelId := ⟨ChannelId.bytes, ChannelId.eq_of_bytes_eq⟩

end SharedSecurity
