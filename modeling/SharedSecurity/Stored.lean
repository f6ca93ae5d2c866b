import SharedSecurity.Key
import SharedSecurity.Record.Codec
import SharedSecurity.Transition

/-!
# Typed records in the store

Words, texts and records under typed keys.  What is stored is what this library wrote; bytes of
another form are an invariant violation that names the kind of record.

* `Stored.word?`, `Stored.text?`, `Stored.record?` — the record under a key, if there is one.
* `Stored.putWord`, `Stored.putText`, `Stored.putRecord` — hold a record under a key.
* `Stored.nameOfKey`, `Stored.nameOfValue` — names read back from a listing.
* `Stored.visit` — goes through a listing until the visitor has seen enough; what comes after that
  is not decoded.
-/

set_option autoImplicit false
namespace SharedSecurity
namespace Stored

variable {α β : Type}

/-! ## Single records -/

/-- The word that stored bytes are. -/
def decodeWord (what : String) (bytes : Bytes) : Except ProviderError UInt64 :=
  match Bytes.word? bytes with
  | some word => .ok word
  | none => .error (.invariantViolation s!"malformed {what}: {bytes.length} bytes")

/-- The text that stored bytes are. -/
def nameOfValue (what : String) (bytes : Bytes) : Except ProviderError String :=
  match Utf8.decode? bytes with
  | some name => .ok name
  | none => .error (.invariantViolation s!"non utf-8 {what}")

/-- The record under a key, if there is one. -/
def read? (decode : Bytes → Except ProviderError α) (key : Key) : Transition (Option α) := do
  match ← Transition.get? key.bytes with
  | none => pure none
  | some bytes => Transition.ofExcept ((decode bytes).map some)

/-- The word under a key. -/
def word? (what : String) (key : Key) : Transition (Option UInt64) := read? (decodeWord what) key

/-- The text under a key. -/
def text? (what : String) (key : Key) : Transition (Option String) :=
  read? (nameOfValue what) key

/-- The record under a key. -/
def record? (codec : Codec α) (what : String) (key : Key) : Transition (Option α) :=
  read? (codec.read what) key

/-- Holds a word under a key. -/
def putWord (key : Key) (word : UInt64) : Transition Unit :=
  Transition.put key.bytes (Bytes.ofWord word)

/-- Holds a text under a key. -/
def putText (key : Key) (text : String) : Transition Unit :=
  Transition.put key.bytes (Utf8.encode text)

/-- Holds a record under a key. -/
def putRecord (codec : Codec α) (key : Key) (record : α) : Transition Unit :=
  Transition.put key.bytes (codec.encode record)

/-- Holds nothing under a key. -/
def delete (key : Key) : Transition Unit := Transition.delete key.bytes

/-! ## Listings -/

/-- The name in a key of a family. -/
def nameOfKey (family : KeyFamily) (what : String) (key : Bytes) : Except ProviderError String :=
  match family.name? key with
  | some name => .ok name
  | none => .error (.invariantViolation s!"malformed {what} key")

/-- Goes through listed entries in order.  `decode` gives what there is to see in an entry, or that
there is nothing; `see` goes on or stops. -/
def visitList (decode : Bytes × Bytes → Except ProviderError (Option α))
    (see : α → β → ForInStep β) : List (Bytes × Bytes) → β → Except ProviderError β
  | [], seen => .ok seen
  | entry :: rest, seen => do
    match ← decode entry with
    | none => visitList decode see rest seen
    | some item =>
      match see item seen with
      | .done seen => .ok seen
      | .yield seen => visitList decode see rest seen

/-- Goes through the entries of a family in key order. -/
def visit (family : KeyFamily) (decode : Bytes × Bytes → Except ProviderError (Option α))
    (start : β) (see : α → β → ForInStep β) : Transition β := do
  let entries ← Transition.scan family.stem
  Transition.ofExcept (visitList decode see entries start)

/-- A visitor that notes what it sees, and stops after a number of items; zero is no limit. -/
def noteUpTo (limit : Nat) (item : α) (seen : List α) : ForInStep (List α) :=
  let seen := seen ++ [item]
  if seen.length = limit then .done seen else .yield seen

/-- A visitor that notes everything. -/
def noteAll (item : α) (seen : List α) : ForInStep (List α) := noteUpTo 0 item seen

end Stored
end SharedSecurity
