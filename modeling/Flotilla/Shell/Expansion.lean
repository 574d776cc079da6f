import Flotilla.Shell.Token

/-!
# Expanding words

The parameters of a word are replaced by their values, and the word becomes fields.
A value between double quotes is kept whole.  Any other value is split at its
blanks.  The list of all arguments between double quotes gives one field for each,
and a word of nothing but empty values gives none.
-/

namespace Flotilla.Shell

/-- The values of the parameters. -/
structure Values where
  /-- All arguments. -/
  arguments : List String
  /-- The value of any other parameter. -/
  value : String → String

/-- Fields that are being built. -/
structure Fields where
  /-- The fields that are complete, in reverse. -/
  complete : List (List Char) := []
  /-- The field that is being built, if it is begun. -/
  current : Option (List Char) := none
deriving Repr, DecidableEq

namespace Fields

/-- A text at the end of the field. -/
def add (f : Fields) (cs : List Char) : Fields :=
  { f with current := some (f.current.getD [] ++ cs) }

/-- The end of the field. -/
def cut (f : Fields) : Fields :=
  match f.current with
  | none => f
  | some cs => { complete := cs :: f.complete, current := none }

/-- A value that is split at its blanks. -/
def split (f : Fields) : List Char → Fields
  | [] => f
  | c :: cs => split (if c = ' ' ∨ c = '\t' ∨ c = '\n' then f.cut else f.add [c]) cs

/-- Values that each are a field, the first joined to what stands before it. -/
def each (f : Fields) : List (List Char) → Fields
  | [] => f
  | [cs] => f.add cs
  | cs :: rest => each (f.add cs).cut rest

/-- The fields. -/
def toList (f : Fields) : List String := (f.cut.complete.reverse).map String.ofList

end Fields

/-- One piece of a word. -/
def expandPiece (v : Values) (f : Fields) : Piece → Fields
  | .text cs => f.add cs
  | .param ['@'] true => f.each (v.arguments.map String.toList)
  | .param ['*'] true => f.add (" ".intercalate v.arguments).toList
  | .param name quoted =>
    let all := name == ['@'] || name == ['*']
    let value := if all then " ".intercalate v.arguments else v.value (String.ofList name)
    if quoted then f.add value.toList else f.split value.toList

/-- Whether a word is the list of all arguments between double quotes, with nothing around it. -/
def isArguments (w : Word) : Bool := w == [.text [], .param ['@'] true]

/-- The fields of a word. -/
def expand (v : Values) (w : Word) : List String :=
  if isArguments w && v.arguments.isEmpty then []
  else (w.foldl (expandPiece v) {}).toList

end Flotilla.Shell
