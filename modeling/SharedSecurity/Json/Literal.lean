/-!
# String literals of JSON

What stands between the quotes of a JSON string, as a list of characters, and the text it denotes.

* `Literal.ofText` — the literal of a text: the quote, the backslash and the control characters are
  escaped, with a letter where there is one, and all else stands as it is.
* `Literal.text?` — the text a literal denotes.  An escape by number may name one half of a
  surrogate pair; two halves in a row make one character, and a half alone denotes no text.
-/

set_option autoImplicit false
namespace SharedSecurity
namespace Json
namespace Literal

/-! ## Writing -/

/-- How a character stands in a literal. -/
def escapeChar (c : Char) : List Char :=
  if c = '"' then ['\\', '"']
  else if c = '\\' then ['\\', '\\']
  else if c.toNat = 0x08 then ['\\', 'b']
  else if c.toNat = 0x09 then ['\\', 't']
  else if c.toNat = 0x0A then ['\\', 'n']
  else if c.toNat = 0x0C then ['\\', 'f']
  else if c.toNat = 0x0D then ['\\', 'r']
  else if c.toNat < 0x20 then
    ['\\', 'u', '0', '0', Nat.digitChar (c.toNat / 16), Nat.digitChar (c.toNat % 16)]
  else [c]

/-- The literal of a text. -/
def ofText (text : String) : List Char := text.toList.flatMap escapeChar

/-! ## Reading -/

/-- The value of a digit to base sixteen, in either case. -/
def hexValue? (c : Char) : Option Nat :=
  if '0' ≤ c ∧ c ≤ '9' then some (c.toNat - 48)
  else if 'a' ≤ c ∧ c ≤ 'f' then some (c.toNat - 87)
  else if 'A' ≤ c ∧ c ≤ 'F' then some (c.toNat - 55)
  else none

/-- The number that four digits to base sixteen denote. -/
def hex4? (a b c d : Char) : Option Nat := do
  let a ← hexValue? a
  let b ← hexValue? b
  let c ← hexValue? c
  let d ← hexValue? d
  some (((a * 16 + b) * 16 + c) * 16 + d)

/-- The code point of an escape by a single character. -/
def shortEscape? (c : Char) : Option Nat :=
  if c = '"' then some 0x22
  else if c = '\\' then some 0x5C
  else if c = '/' then some 0x2F
  else if c = 'b' then some 0x08
  else if c = 'f' then some 0x0C
  else if c = 'n' then some 0x0A
  else if c = 'r' then some 0x0D
  else if c = 't' then some 0x09
  else none

/-- The code points a literal denotes, halves of surrogate pairs apart. -/
def codes? : List Char → Option (List Nat)
  | [] => some []
  | '\\' :: 'u' :: a :: b :: c :: d :: rest => do
    let code ← hex4? a b c d
    let codes ← codes? rest
    some (code :: codes)
  | '\\' :: c :: rest => do
    let code ← shortEscape? c
    let codes ← codes? rest
    some (code :: codes)
  | c :: rest => do
    let codes ← codes? rest
    some (c.toNat :: codes)

/-- Whether a code point is the first half of a surrogate pair. -/
def isHighSurrogate (code : Nat) : Bool := 0xD800 ≤ code && code ≤ 0xDBFF

/-- Whether a code point is the second half of a surrogate pair. -/
def isLowSurrogate (code : Nat) : Bool := 0xDC00 ≤ code && code ≤ 0xDFFF

/-- The characters of a list of code points, with the two halves of each surrogate pair joined;
`none` if a half stands alone. -/
def characters? : List Nat → Option (List Char)
  | [] => some []
  | [code] =>
    if isHighSurrogate code || isLowSurrogate code then none else some [Char.ofNat code]
  | code :: next :: rest =>
    if isHighSurrogate code then
      if isLowSurrogate next then
        (characters? rest).map
          (Char.ofNat (0x10000 + (code - 0xD800) * 0x400 + (next - 0xDC00)) :: ·)
      else none
    else if isLowSurrogate code then none
    else (characters? (next :: rest)).map (Char.ofNat code :: ·)

/-- The text a literal denotes. -/
def text? (literal : List Char) : Option String :=
  ((codes? literal).bind characters?).map String.ofList

end Literal
end Json
end SharedSecurity
