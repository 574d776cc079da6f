/-!
# A place in a document

A `Cursor` is what is left of a text, with the line and column of its first
character.  Columns decide the structure of a document, so every reader moves a
cursor and never a bare text.

Line breaks of all kinds are turned into line feeds before anything is read.  A
text with a control character or another character that may not stand in a
document has no cursor.
-/

namespace Flotilla.Yaml

/-- A space or a tab. -/
def isBlank (c : Char) : Bool := c = ' ' || c = '\t'

/-- A place in a text. -/
structure Cursor where
  /-- What is left. -/
  rest : List Char
  /-- The line, from zero. -/
  line : Nat := 0
  /-- The column, from zero. -/
  column : Nat := 0
  /-- Whether nothing but blanks stands on the line before this place. -/
  fresh : Bool := true
deriving Repr, DecidableEq

/-- What a reader has read and the place behind it. -/
abbrev Reader (α : Type) := Cursor → Option (α × Cursor)

/-- Whether a character may stand in a document. -/
def isAllowed (c : Char) : Bool :=
  let n := c.toNat
  n == 0x9 || n == 0xA || n == 0xD || (0x20 ≤ n && n ≤ 0x7E) || n == 0x85 ||
    (0xA0 ≤ n && n ≤ 0xFFFD) || 0x10000 ≤ n

/-- A text with every line break as one line feed. -/
def unifyBreaks : List Char → List Char
  | [] => []
  | '\r' :: '\n' :: cs => '\n' :: unifyBreaks cs
  | c :: cs =>
    (if c = '\r' || c = '\u0085' || c = '\u2028' || c = '\u2029' then '\n' else c) :: unifyBreaks cs

/-- The beginning of a text. -/
def Cursor.start? (text : String) : Option Cursor :=
  if text.toList.all isAllowed then some { rest := unifyBreaks text.toList } else none

/-- Whether a text goes on with a blank, a line feed, or not at all. -/
def blankNext : List Char → Bool
  | [] => true
  | c :: _ => isBlank c || c = '\n'

namespace Cursor

/-- The place behind the next character. -/
def skip (c : Cursor) : Cursor :=
  match c.rest with
  | [] => c
  | '\n' :: cs => { rest := cs, line := c.line + 1, column := 0 }
  | ch :: cs =>
    { c with rest := cs, column := c.column + 1, fresh := c.fresh && (isBlank ch || ch = '\ufeff') }

/-- The place behind so many characters. -/
def skips (c : Cursor) : Nat → Cursor
  | 0 => c
  | n + 1 => c.skip.skips n

/-- The next character. -/
def head? (c : Cursor) : Option Char := c.rest.head?

/-- Whether nothing is left. -/
def atEnd (c : Cursor) : Bool := c.rest.isEmpty

/-- Whether the text goes on with a character. -/
def sees (c : Cursor) (ch : Char) : Bool := c.rest.head? == some ch

/-- The place behind the blanks. -/
def skipBlanks (c : Cursor) : Cursor := c.skips (c.rest.takeWhile isBlank).length

/-- The place at the end of the line. -/
def skipLine (c : Cursor) : Cursor := c.skips (c.rest.takeWhile (· ≠ '\n')).length

/-- Whether a line that ends a document, `---` or `...`, starts here. -/
def atMarker (c : Cursor) : Bool :=
  c.column == 0 &&
    match c.rest with
    | '-' :: '-' :: '-' :: cs => blankNext cs
    | '.' :: '.' :: '.' :: cs => blankNext cs
    | _ => false

/-- Whether one of the marks `-`, `?` and `:` stands alone here. -/
def atMark (c : Cursor) (mark : Char) : Bool :=
  match c.rest with
  | ch :: cs => ch == mark && blankNext cs
  | [] => false

/-- The place behind spaces, comments and line feeds.  Tabs are skipped where they cannot be
mistaken for indentation: within brackets, and behind something on the same line that no block can
follow. -/
def skipSpace (inBrackets : Bool) : (fuel : Nat) → (tabs : Bool) → Cursor → Cursor
  | 0, _, c => c
  | fuel + 1, tabs, c =>
    match c.rest with
    | ' ' :: _ => skipSpace inBrackets fuel tabs c.skip
    | '\t' :: _ => if inBrackets || tabs then skipSpace inBrackets fuel tabs c.skip else c
    | '\ufeff' :: _ => if c.column = 0 then skipSpace inBrackets fuel tabs c.skip else c
    | '#' :: _ => skipSpace inBrackets fuel tabs c.skipLine
    | '\n' :: _ => skipSpace inBrackets fuel false c.skip
    | _ => c

/-- The next place where something stands.  `blockMay` says that a block may start on this line. -/
def toNext (c : Cursor) (inBrackets blockMay : Bool) : Cursor :=
  skipSpace inBrackets (c.rest.length + 1) (!c.fresh && !blockMay) c

end Cursor

end Flotilla.Yaml
