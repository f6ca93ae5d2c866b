import SharedSecurity.Text.Unprintable

/-!
# Quoted text

A text in messages that must show exactly which text it is stands between double quotes.  The
quote, the backslash and the common control characters get a backslash and a letter; any other
character that does not print on its own is written by its number.
-/

set_option autoImplicit false
namespace SharedSecurity
namespace Text

/-- How a character stands in a quoted text. -/
def quotedChar (c : Char) : List Char :=
  if c = '\x00' then ['\\', '0']
  else if c = '\t' then ['\\', 't']
  else if c = '\r' then ['\\', 'r']
  else if c = '\n' then ['\\', 'n']
  else if c = '\\' then ['\\', '\\']
  else if c = '"' then ['\\', '"']
  else if isUnprintable c then
    ['\\', 'u', '\x7b'] ++ Nat.toDigits 16 c.toNat ++ ['\x7d']
  else [c]

/-- A text between quotes. -/
def quoted (text : String) : String :=
  String.ofList ('"' :: text.toList.flatMap quotedChar ++ ['"'])

end Text
end SharedSecurity
