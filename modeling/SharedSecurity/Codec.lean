import SharedSecurity.Error

/-!
# Binary records

A `Codec α` writes a value as bytes and reads one from the front of a byte string, handing back
what follows; bytes after a record are not looked at.

The form is fixed: numbers have a fixed width and stand lowest byte first, a text or list is
preceded by its length as a 64-bit word, a choice by its index as a 32-bit word, and a value that
may be missing by one byte.

* `DecodeFault` — why bytes are no record, with its wording.
* `Codec.word`, `Codec.bool`, `Codec.text`, `Codec.option`, `Codec.list`, `Codec.pair`,
  `Codec.choice` — the parts records are made of.
* `Codec.read` — reads a record from the store; bytes that are none contradict what the provider
  wrote.
-/

set_option autoImplicit false
namespace SharedSecurity

/-- Why bytes are no record. -/
inductive DecodeFault where
  /-- A number, tag or length goes past the end. -/
  | endOfInput
  /-- The content of a text goes past the end. -/
  | contentTooLong
  /-- A text is not UTF-8. -/
  | notUtf8 (fault : Utf8.Fault)
  /-- A choice has no such index. -/
  | unknownIndex (found count : Nat)
  /-- A truth value is neither zero nor one. -/
  | invalidBool (found : Nat)
  /-- The byte before a value that may be missing is neither zero nor one. -/
  | invalidTag (found : Nat)
deriving DecidableEq

/-- The wording of a decoding fault. -/
def DecodeFault.message : DecodeFault → String
  | .endOfInput => "io error: unexpected end of file"
  | .contentTooLong => "io error: "
  | .notUtf8 fault => s!"string is not valid utf8: {fault.message}"
  | .unknownIndex found count =>
    s!"invalid value: integer `{found}`, expected variant index 0 <= i < {count}"
  | .invalidBool found => s!"invalid u8 while decoding bool, expected 0 or 1, found {found}"
  | .invalidTag found => s!"tag for enum is not valid, found {found}"

/-- A binary form for values of a type. -/
structure Codec (α : Type) where
  /-- The bytes of a value. -/
  encode : α → Bytes
  /-- The value at the front of the bytes, and the bytes after it. -/
  decode : Bytes → Except DecodeFault (α × Bytes)

namespace Codec

variable {α β : Type}

/-- Splits off the first `count` bytes; `fault` if there are not as many. -/
def split (fault : DecodeFault) (count : Nat) (bytes : Bytes) :
    Except DecodeFault (Bytes × Bytes) :=
  if count ≤ bytes.length then .ok (bytes.take count, bytes.drop count) else .error fault

/-- A number in `width` bytes, lowest first. -/
def number (width : Nat) : Codec Nat where
  encode := Bytes.littleEndian width
  decode bytes := do
    let (digits, rest) ← split .endOfInput width bytes
    .ok (Bytes.ofLittleEndian digits, rest)

/-- The same form for another type. -/
def map (codec : Codec α) (forth : β → α) (back : α → β) : Codec β where
  encode value := codec.encode (forth value)
  decode bytes := do
    let (value, rest) ← codec.decode bytes
    .ok (back value, rest)

/-- A byte. -/
def byte : Codec UInt8 := (number 1).map UInt8.toNat UInt8.ofNat

/-- A 64-bit word. -/
def word : Codec UInt64 := (number 8).map UInt64.toNat UInt64.ofNat

/-- A truth value, one byte. -/
def bool : Codec Bool where
  encode value := byte.encode (if value then 1 else 0)
  decode bytes := do
    let (value, rest) ← byte.decode bytes
    if value = 0 then .ok (false, rest)
    else if value = 1 then .ok (true, rest)
    else .error (.invalidBool value.toNat)

/-- A text: its length in bytes, then its bytes. -/
def text : Codec String where
  encode value :=
    let content := Utf8.encode value
    (number 8).encode content.length ++ content
  decode bytes := do
    let (length, rest) ← (number 8).decode bytes
    let (content, rest) ← split .contentTooLong length rest
    match Utf8.decode? content with
    | some value => .ok (value, rest)
    | none => .error (.notUtf8 (Utf8.fault content))

/-- A value that may be missing: one byte that says so, then the value. -/
def option (codec : Codec α) : Codec (Option α) where
  encode
    | none => byte.encode 0
    | some value => byte.encode 1 ++ codec.encode value
  decode bytes := do
    let (tag, rest) ← byte.decode bytes
    if tag = 0 then .ok (none, rest)
    else if tag = 1 then
      let (value, rest) ← codec.decode rest
      .ok (some value, rest)
    else .error (.invalidTag tag.toNat)

/-- Reads `count` values, one after the other. -/
def decodeMany (codec : Codec α) : (count : Nat) → Bytes → Except DecodeFault (List α × Bytes)
  | 0, bytes => .ok ([], bytes)
  | count + 1, bytes => do
    let (value, rest) ← codec.decode bytes
    let (values, rest) ← decodeMany codec count rest
    .ok (value :: values, rest)

/-- A list: its length, then its values. -/
def list (codec : Codec α) : Codec (List α) where
  encode values := (number 8).encode values.length ++ values.flatMap codec.encode
  decode bytes := do
    let (length, rest) ← (number 8).decode bytes
    decodeMany codec length rest

/-- One value, then another. -/
def pair (first : Codec α) (second : Codec β) : Codec (α × β) where
  encode value := first.encode value.1 ++ second.encode value.2
  decode bytes := do
    let (a, rest) ← first.decode bytes
    let (b, rest) ← second.decode rest
    .ok ((a, b), rest)

/-- The index of a choice among `count`. -/
def choice (count : Nat) : Codec Nat where
  encode := (number 4).encode
  decode bytes := do
    let (index, rest) ← (number 4).decode bytes
    if index < count then .ok (index, rest) else .error (.unknownIndex index count)

/-- Reads a stored record; `what` names its family in the error. -/
def read (codec : Codec α) (what : String) (bytes : Bytes) : Except ProviderError α :=
  match codec.decode bytes with
  | .ok (value, _) => .ok value
  | .error fault => .error (.invariantViolation s!"undecodable {what} record: {fault.message}")

end Codec
end SharedSecurity
