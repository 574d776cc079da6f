import Flotilla.Yaml.Node

/-!
# Reading maps with known keys

A map of a kubeconfig has keys with a meaning and may have others, which do not
count.  A key with a meaning may stand there once.  Readers of single fields
say whether the field may be missing, and whether a null counts as missing.
-/

namespace Flotilla.Kubeconfig

open Yaml (Node)

/-- The fields of a map. -/
abbrev Fields := List (String × Node)

namespace Fields

/-- The fields of a node with these known keys. -/
def ofNode (known : List String) (node : Node) : Option Fields := do
  let entries ← node.entries?
  let fields ← entries.mapM fun (key, value) => key.text?.map (·, value)
  let unique := known.all fun key => (fields.filter fun (k, _) => k == key).length ≤ 1
  if unique then some fields else none

/-- The value of a field. -/
def value? (fields : Fields) (key : String) : Option Node :=
  (fields.find? fun (k, _) => k == key).map (·.2)

/-- A field that may be missing or null. -/
def optional {α : Type} (fields : Fields) (key : String) (read : Node → Option α) :
    Option (Option α) :=
  match fields.value? key with
  | none => some none
  | some node => if node.isNull then some none else (read node).map some

/-- A field that must be there. -/
def required {α : Type} (fields : Fields) (key : String) (read : Node → Option α) : Option α :=
  (fields.value? key).bind read

/-- A field that may be missing. -/
def defaulted {α : Type} (fields : Fields) (key : String) (read : Node → Option α) (default : α) :
    Option α :=
  match fields.value? key with
  | none => some default
  | some node => read node

end Fields

/-- A list, each item read in the same way. -/
def listOf {α : Type} (read : Node → Option α) (node : Node) : Option (List α) :=
  node.items?.bind fun items => items.mapM read

/-- A map of texts to texts. -/
def textMap (node : Node) : Option (List (String × String)) :=
  node.entries?.bind fun entries =>
    entries.mapM fun (key, value) => do
      let key ← key.text?
      let value ← value.text?
      some (key, value)

end Flotilla.Kubeconfig
