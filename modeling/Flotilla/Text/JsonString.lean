/-!
# Texts in JSON

A text between quotes, as JSON writes it.  Quotes and backslashes are escaped,
and so are control characters: those that have a letter by that letter, the
others by their number.  Everything else is written as it is.
-/

namespace Flotilla.Text

/-- A hexadecimal digit. -/
def jsonDigit (n : Nat) : Char := Char.ofNat (if n < 10 then 48 + n else 87 + n)

/-- A character inside quotes. -/
def jsonChar (c : Char) : List Char :=
  if c = '"' then ['\\', '"']
  else if c = '\\' then ['\\', '\\']
  else if c = '\n' then ['\\', 'n']
  else if c = '\r' then ['\\', 'r']
  else if c = '\t' then ['\\', 't']
  else if c = '\x08' then ['\\', 'b']
  else if c = '\x0c' then ['\\', 'f']
  else if c.toNat < 0x20 then
    ['\\', 'u', '0', '0', jsonDigit (c.toNat / 16), jsonDigit (c.toNat % 16)]
  else [c]

/-- A text between quotes. -/
def jsonString (s : String) : String := "\"" ++ String.ofList (s.toList.flatMap jsonChar) ++ "\""

/-- Texts in a list without blanks. -/
def jsonList (texts : List String) : String := "[" ++ ",".intercalate (texts.map jsonString) ++ "]"

example : jsonChar '\x01' = "\\u0001".toList := by decide
example : jsonChar '\x1f' = "\\u001f".toList := by decide

end Flotilla.Text
