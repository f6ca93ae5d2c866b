import SharedSecurity.Json.Value

/-!
# Reading JSON

`Json.parse?` reads a text that is one JSON value with blanks around its parts, and nothing else.

The readers take the characters that are left and hand back those they leave over.  A value is read
by descent; `readValue`, `readItems` and `readMembers` count down a bound on the number of steps,
which `parse?` sets to more than any text of that length needs.
-/

set_option autoImplicit false
namespace SharedSecurity
namespace Json

/-- Whether a character may stand between the parts of a document. -/
def isSpace (c : Char) : Bool := c == ' ' || c == '\n' || c == '\t' || c == '\r'

/-- The characters from the first that is no space. -/
def skipSpace (text : List Char) : List Char := text.dropWhile isSpace

/-! ## Literals -/

/-- Whether the text goes on with four digits to base sixteen. -/
def startsWithHex4 (text : List Char) : Bool :=
  let digits := text.take 4
  digits.length == 4 && digits.all fun c => (Literal.hexValue? c).isSome

/-- Whether a backslash may be followed by `c`, and that by `rest`. -/
def isEscape (c : Char) (rest : List Char) : Bool :=
  (Literal.shortEscape? c).isSome || (c == 'u' && startsWithHex4 rest)

/-- A literal up to its closing quote.  Control characters have to be escaped. -/
def readLiteral : List Char → Option (List Char × List Char)
  | [] => none
  | '"' :: rest => some ([], rest)
  | '\\' :: c :: rest =>
    if isEscape c rest then
      (readLiteral rest).map fun (literal, left) => ('\\' :: c :: literal, left)
    else none
  | c :: rest =>
    if c.toNat < 0x20 || c == '\\' then none
    else (readLiteral rest).map fun (literal, left) => (c :: literal, left)

/-! ## Numerals -/

/-- The longest run of digits at the front. -/
def readDigits (text : List Char) : List Char × List Char := text.span Char.isDigit

/-- At least one digit. -/
def readDigits1 (text : List Char) : Option (List Char × List Char) :=
  match readDigits text with
  | ([], _) => none
  | (digits, left) => some (digits, left)

/-- The digits before the point: a lone zero, or digits that do not begin with one. -/
def readInteger : List Char → Option (List Char × List Char)
  | '0' :: rest => some (['0'], rest)
  | text => readDigits1 text

/-- A point and digits after it, if there is a point. -/
def readFraction : List Char → Option (List Char × List Char)
  | '.' :: rest => (readDigits1 rest).map fun (digits, left) => ('.' :: digits, left)
  | text => some ([], text)

/-- The sign of an exponent, if there is one. -/
def readSign : List Char → List Char × List Char
  | '+' :: rest => (['+'], rest)
  | '-' :: rest => (['-'], rest)
  | text => ([], text)

/-- An exponent, if there is one. -/
def readExponent : List Char → Option (List Char × List Char)
  | c :: rest =>
    if c == 'e' || c == 'E' then
      let (sign, rest) := readSign rest
      (readDigits1 rest).map fun (digits, left) => (c :: sign ++ digits, left)
    else some ([], c :: rest)
  | [] => some ([], [])

/-- A numeral without its sign. -/
def readUnsigned (text : List Char) : Option (List Char × List Char) := do
  let (whole, rest) ← readInteger text
  let (fraction, rest) ← readFraction rest
  let (exponent, rest) ← readExponent rest
  some (whole ++ fraction ++ exponent, rest)

/-- A numeral. -/
def readNumeral : List Char → Option (List Char × List Char)
  | '-' :: rest => (readUnsigned rest).map fun (written, left) => ('-' :: written, left)
  | text => readUnsigned text

/-! ## Values -/

mutual

/-- A value, with blanks before it. -/
def readValue : (bound : Nat) → List Char → Option (Value × List Char)
  | 0, _ => none
  | bound + 1, text =>
    match skipSpace text with
    | 'n' :: 'u' :: 'l' :: 'l' :: rest => some (.null, rest)
    | 't' :: 'r' :: 'u' :: 'e' :: rest => some (.bool true, rest)
    | 'f' :: 'a' :: 'l' :: 's' :: 'e' :: rest => some (.bool false, rest)
    | '"' :: rest => (readLiteral rest).map fun (literal, left) => (.string literal, left)
    | '[' :: rest =>
      match skipSpace rest with
      | ']' :: rest => some (.array [], rest)
      | rest => (readItems bound rest).map fun (items, left) => (.array items, left)
    | '\x7b' :: rest =>
      match skipSpace rest with
      | '\x7d' :: rest => some (.object [], rest)
      | rest => (readMembers bound rest).map fun (members, left) => (.object members, left)
    | rest => (readNumeral rest).map fun (written, left) => (.numeral written, left)

/-- The items of a list from the first to the closing bracket. -/
def readItems : (bound : Nat) → List Char → Option (List Value × List Char)
  | 0, _ => none
  | bound + 1, text => do
    let (item, rest) ← readValue bound text
    match skipSpace rest with
    | ',' :: rest =>
      let (items, left) ← readItems bound rest
      some (item :: items, left)
    | ']' :: left => some ([item], left)
    | _ => none

/-- The members of an object from the first to the closing brace. -/
def readMembers : (bound : Nat) → List Char → Option (List (List Char × Value) × List Char)
  | 0, _ => none
  | bound + 1, text =>
    match skipSpace text with
    | '"' :: rest => do
      let (name, rest) ← readLiteral rest
      match skipSpace rest with
      | ':' :: rest =>
        let (value, rest) ← readValue bound rest
        match skipSpace rest with
        | ',' :: rest =>
          let (members, left) ← readMembers bound rest
          some ((name, value) :: members, left)
        | '\x7d' :: left => some ([(name, value)], left)
        | _ => none
      | _ => none
    | _ => none

end

/-- The value that a text is, with blanks around its parts. -/
def parse? (text : List Char) : Option Value :=
  match readValue (2 * text.length + 2) text with
  | some (value, left) => if (skipSpace left).isEmpty then some value else none
  | none => none

end Json
end SharedSecurity
