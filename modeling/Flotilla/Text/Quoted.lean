import Flotilla.Text.Printable

/-!
# Quoted text

A text between double quotes, on one line and readable: a quote and a backslash
are written with a backslash before them, tab, line feed, carriage return and
the zero character by their letters, and every other character that is not
printable by its code point in hexadecimal.  A combining character is written
by its code point too, since after a quote it would be drawn on the quote.
-/

namespace Flotilla.Text

/-- A number in lower case hexadecimal, without leading zeros. -/
def hexText (n : Nat) : List Char := Nat.toDigits 16 n

/-- One character as it stands in a quoted text. -/
def quoteChar (c : Char) : List Char :=
  if c = '"' then ['\\', '"']
  else if c = '\\' then ['\\', '\\']
  else if c = '\t' then ['\\', 't']
  else if c = '\n' then ['\\', 'n']
  else if c = '\r' then ['\\', 'r']
  else if c = '\x00' then ['\\', '0']
  else if isGraphemeExtend c || !isPrintable c then
    ['\\', 'u', '\x7b'] ++ hexText c.toNat ++ ['\x7d']
  else [c]

/-- A text in double quotes. -/
def quoted (s : String) : String :=
  "\"" ++ String.ofList (s.toList.flatMap quoteChar) ++ "\""

/-- Quoted texts in brackets, with a comma and a space between them. -/
def quotedList (names : List String) : String :=
  "[" ++ ", ".intercalate (names.map quoted) ++ "]"

example : quoteChar '"' = ['\\', '"'] := by decide
example : quoteChar '\n' = ['\\', 'n'] := by decide

end Flotilla.Text
