import SharedSecurity.Bytes

/-!
# A hash of byte strings

The 64-bit FNV-1a hash: each byte is mixed into the lowest bits of the hash, which is then
multiplied by a fixed prime.  It tells most short texts apart, but not all.
-/

set_option autoImplicit false
namespace SharedSecurity
namespace Bytes

/-- Mixes one more byte into a hash. -/
def mix (hash : UInt64) (byte : UInt8) : UInt64 := (hash ^^^ byte.toUInt64) * 0x100000001B3

/-- The hash of a byte string. -/
def fnv1a (bytes : Bytes) : UInt64 := bytes.foldl mix 0xCBF29CE484222325

end Bytes
end SharedSecurity
