/-!
# The nodes of a document

A document is a tree of scalars, lists and maps.  A scalar keeps how it was
written, since only a plain one can be null or a boolean, while any of them can
be read as text.
-/

namespace Flotilla.Yaml

/-- A node. -/
inductive Node where
  /-- A text, with its tag and whether it was written without quotes. -/
  | scalar (tag : Option String) (plain : Bool) (text : String)
  /-- Items in order. -/
  | list (items : List Node)
  /-- Keys and values in order. -/
  | map (entries : List (Node × Node))
deriving Repr

namespace Node

/-- A node that was left away. -/
def absent : Node := .scalar none true ""

/-- The spellings of null. -/
def isNullText (s : String) : Bool := s ∈ ["", "~", "null", "Null", "NULL"]

/-- Whether a node is null. -/
def isNull : Node → Bool
  | .scalar none plain text => plain && isNullText text
  | .scalar (some tag) plain text => plain && tag == "!!null" && isNullText text
  | _ => false

/-- The text of a scalar, however it was written. -/
def text? : Node → Option String
  | .scalar _ _ text => some text
  | _ => none

/-- The boolean a plain scalar stands for. -/
def bool? : Node → Option Bool
  | .scalar tag true text =>
    if tag.isSome && tag != some "!!bool" then none
    else if text ∈ ["true", "True", "TRUE"] then some true
    else if text ∈ ["false", "False", "FALSE"] then some false
    else none
  | _ => none

/-- The items of a list.  A null counts as no items. -/
def items? : Node → Option (List Node)
  | .list items => some items
  | n => if n.isNull then some [] else none

/-- The entries of a map.  A null counts as no entries. -/
def entries? : Node → Option (List (Node × Node))
  | .map entries => some entries
  | n => if n.isNull then some [] else none

/-- The node with a tag. -/
def tagged (tag : Option String) : Node → Node
  | .scalar none plain text => .scalar tag plain text
  | n => n

end Node

end Flotilla.Yaml
