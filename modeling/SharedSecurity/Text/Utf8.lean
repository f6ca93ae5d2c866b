import SharedSecurity.Bytes

/-!
# Text as UTF-8

Identifiers, tokens and documents are Unicode text; keys and records hold their UTF-8 bytes.

* `Utf8.encode`, `Utf8.decode?` — the bytes of a text, and the text of bytes that are UTF-8.  Each
  undoes the other, so text is told apart by its bytes.
* `Utf8.fault` — where a byte string stops being UTF-8, and how: either a sequence breaks off at
  the end, or a count of bytes cannot be continued.
-/

set_option autoImplicit false
namespace SharedSecurity
namespace Utf8

/-- The UTF-8 bytes of a text. -/
def encode (text : String) : Bytes := text.toUTF8.data.toList

/-- The text of a byte string, if the bytes are UTF-8. -/
def decode? (bytes : Bytes) : Option String := String.fromUTF8? ⟨bytes.toArray⟩

@[simp] theorem decode?_encode (text : String) : decode? (encode text) = some text := by
  have h : ByteArray.mk (encode text).toArray = text.toUTF8 := rfl
  rw [decode?, String.fromUTF8?, dif_pos (by rw [h]; exact text.isValidUTF8)]
  rfl

theorem encode_of_decode? {bytes : Bytes} {text : String} (h : decode? bytes = some text) :
    encode text = bytes := by
  unfold decode? String.fromUTF8? at h
  split at h
  · cases h; rfl
  · cases h

/-- Bytes decode to a text exactly if they are its encoding. -/
theorem decode?_eq_some_iff {bytes : Bytes} {text : String} :
    decode? bytes = some text ↔ bytes = encode text :=
  ⟨fun h => (encode_of_decode? h).symm, fun h => h ▸ decode?_encode text⟩

theorem eq_of_encode_eq {a b : String} (h : encode a = encode b) : a = b := by
  have := decode?_encode a
  rw [h, decode?_encode] at this
  exact (Option.some.inj this).symm

/-! ## Where bytes stop being UTF-8 -/

/-- How and where a byte string stops being UTF-8. -/
inductive Fault where
  /-- From `index` on, `length` bytes begin no character. -/
  | invalid (length index : Nat)
  /-- The bytes end within the character that begins at `index`. -/
  | incomplete (index : Nat)
deriving DecidableEq

/-- The wording of a fault. -/
def Fault.message : Fault → String
  | .invalid length index => s!"invalid utf-8 sequence of {length} bytes from index {index}"
  | .incomplete index => s!"incomplete utf-8 byte sequence from index {index}"

/-- A range of byte values, both ends included. -/
structure ByteRange where
  /-- The least value. -/
  low : Nat
  /-- The greatest value. -/
  high : Nat

/-- Whether a byte lies in a range. -/
def ByteRange.contains (range : ByteRange) (byte : UInt8) : Bool :=
  range.low ≤ byte.toNat && byte.toNat ≤ range.high

/-- What may follow the first byte of a character, byte by byte; `none` for a byte that begins no
character.  The narrower second ranges exclude overlong forms, surrogates and numbers past the
last code point. -/
def continuations (first : UInt8) : Option (List ByteRange) :=
  let n := first.toNat
  let any : ByteRange := ⟨0x80, 0xBF⟩
  if n ≤ 0x7F then some []
  else if n < 0xC2 then none
  else if n ≤ 0xDF then some [any]
  else if n = 0xE0 then some [⟨0xA0, 0xBF⟩, any]
  else if n = 0xED then some [⟨0x80, 0x9F⟩, any]
  else if n ≤ 0xEF then some [any, any]
  else if n = 0xF0 then some [⟨0x90, 0xBF⟩, any, any]
  else if n ≤ 0xF3 then some [any, any, any]
  else if n = 0xF4 then some [⟨0x80, 0x8F⟩, any, any]
  else none

/-- Follows the bytes from a character that began at `start`, has `seen` bytes so far and still
needs a byte from each range of `due`. -/
def faultFrom (start seen : Nat) (due : List ByteRange) : Bytes → Fault
  | [] => .incomplete start
  | byte :: rest =>
    match due with
    | range :: due =>
      if range.contains byte then faultFrom start (seen + 1) due rest else .invalid seen start
    | [] =>
      match continuations byte with
      | some due => faultFrom (start + seen) 1 due rest
      | none => .invalid 1 (start + seen)

/-- The first place where a byte string stops being UTF-8. -/
def fault (bytes : Bytes) : Fault := faultFrom 0 0 [] bytes

end Utf8

instance : ByteOrdered String where
  bytes := Utf8.encode
  eq_of_bytes_eq := Utf8.eq_of_encode_eq

end SharedSecurity
