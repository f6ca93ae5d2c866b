import SharedSecurity.Json.Literal

/-!
# JSON values

`Json.Value` is a JSON document without its blanks.  Numerals and string literals are kept as they
are written, because a document may hold some that no record has a use for: a fraction, a number
past every word, half of a surrogate pair.  What a literal denotes is for the reader of a record
to ask.

* `Value.write` — the compact text of a value.
* `Value.number`, `Value.text` — numbers and texts as values, and `Value.number?`, `Value.text?`
  what a value denotes.  Only a plain numeral denotes a number: no sign, fraction or exponent.
-/

set_option autoImplicit false
namespace SharedSecurity
namespace Json

/-- A JSON document without its blanks. -/
inductive Value where
  /-- The value `null`. -/
  | null
  /-- A truth value. -/
  | bool (value : Bool)
  /-- A numeral as written. -/
  | numeral (written : List Char)
  /-- What stands between the quotes of a string. -/
  | string (literal : List Char)
  /-- A list. -/
  | array (items : List Value)
  /-- Members, each under what stands between the quotes of its name. -/
  | object (members : List (List Char × Value))
deriving Inhabited

namespace Value

/-! ## Writing -/

/-- A literal between its quotes. -/
def writeLiteral (literal : List Char) : List Char := '"' :: literal ++ ['"']

mutual

/-- The characters of a value's compact text. -/
def write : Value → List Char
  | null => ['n', 'u', 'l', 'l']
  | bool true => ['t', 'r', 'u', 'e']
  | bool false => ['f', 'a', 'l', 's', 'e']
  | numeral written => written
  | string literal => writeLiteral literal
  | array items => '[' :: writeItems items
  | object members => '\x7b' :: writeMembers members

/-- The items of a list and its closing bracket. -/
def writeItems : List Value → List Char
  | [] => [']']
  | [item] => write item ++ [']']
  | item :: next :: rest => write item ++ ',' :: writeItems (next :: rest)

/-- The members of an object and its closing brace. -/
def writeMembers : List (List Char × Value) → List Char
  | [] => ['\x7d']
  | [(name, value)] => writeLiteral name ++ ':' :: write value ++ ['\x7d']
  | (name, value) :: next :: rest =>
    writeLiteral name ++ ':' :: write value ++ ',' :: writeMembers (next :: rest)

end

/-- The compact text of a value. -/
def toText (value : Value) : String := String.ofList value.write

/-! ## Numbers and texts -/

/-- A number, written in full. -/
def number (n : Nat) : Value := numeral (Nat.toDigits 10 n)

/-- A text as a string. -/
def text (content : String) : Value := string (Literal.ofText content)

/-- The natural number a value denotes. -/
def number? : Value → Option Nat
  | numeral written => if written.all Char.isDigit then some (Nat.ofDigitChars 10 written 0) else none
  | _ => none

/-- The text a value denotes. -/
def text? : Value → Option String
  | string literal => Literal.text? literal
  | _ => none

end Value
end Json
end SharedSecurity
