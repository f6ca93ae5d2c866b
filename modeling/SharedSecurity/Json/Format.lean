import SharedSecurity.Json.Reader

/-!
# JSON formats

A `Format α` shows a value as JSON and reads one back.

* `Format.word`, `Format.byte`, `Format.bool`, `Format.text`, `Format.option`, `Format.list` — the
  parts records are made of.
* `Format.record` — a record is written as an object of its fields.  It is read from an object,
  where unknown members are passed over and a field may be named once only, or from the list of
  its fields in order, where nothing may be left over.
* `Format.read?`, `Format.render` — from and to the text of a document.
-/

set_option autoImplicit false
namespace SharedSecurity
namespace Json

/-- A JSON form for values of a type. -/
structure Format (α : Type) where
  /-- The form of a value. -/
  toValue : α → Value
  /-- The value of a form. -/
  ofValue? : Value → Option α

namespace Format

variable {α β : Type}

/-- The compact text of a value. -/
def render (format : Format α) (value : α) : String := (format.toValue value).toText

/-- The value a text is the document of. -/
def read? (format : Format α) (text : String) : Option α :=
  (parse? text.toList).bind format.ofValue?

/-! ## Parts of records -/

/-- The same form for another type. -/
def map (format : Format α) (forth : β → α) (back : α → β) : Format β where
  toValue value := format.toValue (forth value)
  ofValue? value := (format.ofValue? value).map back

/-- A number below a bound. -/
def numberBelow (bound : Nat) : Format Nat where
  toValue := Value.number
  ofValue? value := value.number?.filter (· < bound)

/-- A 64-bit word. -/
def word : Format UInt64 := (numberBelow UInt64.size).map UInt64.toNat UInt64.ofNat

/-- A byte. -/
def byte : Format UInt8 := (numberBelow UInt8.size).map UInt8.toNat UInt8.ofNat

/-- A truth value. -/
def bool : Format Bool where
  toValue := Value.bool
  ofValue?
    | .bool value => some value
    | _ => none

/-- A text. -/
def text : Format String where
  toValue := Value.text
  ofValue? := Value.text?

/-- A value that may be missing. -/
def option (format : Format α) : Format (Option α) where
  toValue
    | none => .null
    | some value => format.toValue value
  ofValue?
    | .null => some none
    | value => (format.ofValue? value).map some

/-- A list. -/
def list (format : Format α) : Format (List α) where
  toValue values := .array (values.map format.toValue)
  ofValue?
    | .array items => items.mapM format.ofValue?
    | _ => none

/-! ## Choices -/

/-- A choice: its name, alone or as the one member of an object, and then what it carries. -/
def choice? : Value → Option (String × Option Value)
  | .object [(name, value)] => (Literal.text? name).map (·, some value)
  | .string literal => (Literal.text? literal).map (·, none)
  | _ => none

/-- Whether a choice carries nothing. -/
def carriesNothing : Option Value → Bool
  | none => true
  | some .null => true
  | some _ => false

/-! ## Records -/

/-- The fields of a record that is being read. -/
inductive Fields where
  /-- By name. -/
  | named (members : List (String × Value))
  /-- In order, those that are still to be read. -/
  | listed (items : List Value)

/-- Reads fields one after the other. -/
abbrev FieldReader := StateT Fields Option

/-- Reads the next field.  `unnamed` stands for it if an object does not name it, `unlisted` if a
list ends before it. -/
def field (format : Format α) (name : String) (unnamed unlisted : Option α) : FieldReader α
  | .named members =>
    match members.filter fun member => member.1 == name with
    | [] => unnamed.map (·, .named members)
    | [(_, value)] => (format.ofValue? value).map (·, .named members)
    | _ => none
  | .listed [] => unlisted.map (·, .listed [])
  | .listed (value :: rest) => (format.ofValue? value).map (·, .listed rest)

/-- Reads a field that has to be there. -/
def required (format : Format α) (name : String) : FieldReader α := format.field name none none

/-- Reads a field that has a default. -/
def defaulted (format : Format α) (name : String) (value : α) : FieldReader α :=
  format.field name (some value) (some value)

/-- Reads a field whose value may be missing, with its name or without. -/
def optional (format : Format α) (name : String) : FieldReader (Option α) :=
  format.option.field name (some none) none

/-- A record: how its fields are shown, in order, and how they are read. -/
def record (fields : α → List (String × Value)) (reader : FieldReader α) : Format α where
  toValue value := .object ((fields value).map fun (name, form) => (Literal.ofText name, form))
  ofValue?
    | .object members => do
      let named ← members.mapM fun (name, value) => (Literal.text? name).map (·, value)
      let (value, _) ← reader.run (.named named)
      some value
    | .array items => do
      let (value, left) ← reader.run (.listed items)
      match left with
      | .listed [] => some value
      | _ => none
    | _ => none

end Format
end Json
end SharedSecurity
