import SharedSecurity.Bytes

/-!
# The lifecycle of a channel

A channel without a record is uninitialized.  Its handshake makes it initializing, binding it to a
chain makes it validating, and losing the race for a chain makes it invalid.

* `ChannelStatus.canMoveTo` — the moves a handshake may make.
* `ChannelStatus.toByte`, `ChannelStatus.ofByte?` — the stored form, one byte.
-/

set_option autoImplicit false
namespace SharedSecurity

/-- Where a channel stands in its lifecycle. -/
inductive ChannelStatus where
  /-- There is no record of the channel. -/
  | uninitialized
  /-- Its handshake is under way. -/
  | initializing
  /-- It is bound to a consumer chain and carries validator sets. -/
  | validating
  /-- It lost the race for its chain. -/
  | invalid
deriving DecidableEq, Inhabited

namespace ChannelStatus

/-- Every status, in the order of the stored bytes. -/
def all : List ChannelStatus := [uninitialized, initializing, validating, invalid]

/-- The stored byte of a status. -/
def toByte : ChannelStatus → UInt8
  | uninitialized => 0
  | initializing => 1
  | validating => 2
  | invalid => 3

/-- The status a stored byte stands for. -/
def ofByte? (byte : UInt8) : Option ChannelStatus := all.find? fun status => status.toByte == byte

theorem ofByte?_toByte (status : ChannelStatus) : ofByte? status.toByte = some status := by
  cases status <;> rfl

/-- A byte stands for a status exactly if it is the stored form of that status. -/
theorem ofByte?_eq_some_iff {byte : UInt8} {status : ChannelStatus} :
    ofByte? byte = some status ↔ byte = status.toByte := by
  refine ⟨fun h => ?_, fun h => h ▸ ofByte?_toByte status⟩
  unfold ofByte? at h
  have hbyte := List.find?_some h
  exact (eq_of_beq hbyte).symm

/-- The name of a status in messages. -/
def name : ChannelStatus → String
  | uninitialized => "UNINITIALIZED"
  | initializing => "INITIALIZING"
  | validating => "VALIDATING"
  | invalid => "INVALID"

/-- Whether a channel may move from one status to another.  Any channel may be retired. -/
def canMoveTo : ChannelStatus → ChannelStatus → Bool
  | uninitialized, initializing => true
  | uninitialized, validating => true
  | initializing, validating => true
  | _, invalid => true
  | _, _ => false

end ChannelStatus
end SharedSecurity
