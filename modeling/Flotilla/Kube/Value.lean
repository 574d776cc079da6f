/-!
# Values

The values that an apiserver sends: null, booleans, numbers, texts, lists and
objects.  A number is either whole or not, since only whole ones are taken where
a count is expected.
-/

namespace Flotilla.Kube

/-- A value. -/
inductive Value where
  | null
  | bool (b : Bool)
  /-- A whole number. -/
  | whole (n : Int)
  /-- Another number, as it was written. -/
  | fraction (text : String)
  | text (s : String)
  | list (items : List Value)
  /-- Fields in order. -/
  | object (fields : List (String × Value))
deriving Repr, Inhabited

namespace Value

/-- Whether a value is null. -/
def isNull : Value → Bool
  | .null => true
  | _ => false

/-- The fields of an object. -/
def fields : Value → List (String × Value)
  | .object fs => fs
  | _ => []

/-- The value of a field.  Of two fields of one name the later counts, and null counts as no
field. -/
def field? (v : Value) (key : String) : Option Value :=
  match v.fields.reverse.find? fun (k, _) => k == key with
  | some (_, .null) => none
  | some (_, value) => some value
  | none => none

/-- The text of a text. -/
def text? : Value → Option String
  | .text s => some s
  | _ => none

/-- The boolean of a boolean. -/
def bool? : Value → Option Bool
  | .bool b => some b
  | _ => none

/-- The items of a list. -/
def items : Value → List Value
  | .list xs => xs
  | _ => []

/-- The text in a field. -/
def textField? (v : Value) (key : String) : Option String := (v.field? key).bind text?

end Value

end Flotilla.Kube
