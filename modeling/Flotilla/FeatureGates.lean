import Std.Data.ExtTreeMap
import Flotilla.Text.Blank
import Flotilla.Text.Split

/-!
# Feature gates

Named switches, written `Name=true,Other=false`.  Blanks around an entry, a
name and a value do not count, blank entries are skipped, and of two entries
with one name the later counts.  A gate that is not set is off.

`parse` reads the entries in order and stops at the first malformed one.  The
text `display` lists every gate once, in ascending order of names.
-/

namespace Flotilla

/-- What is wrong with an entry. -/
inductive GateFault where
  /-- The entry has no equals sign. -/
  | noValue (entry : String)
  /-- Nothing but blanks stands before the equals sign. -/
  | noName (entry : String)
  /-- The value is no boolean. -/
  | notBoolean (name : String) (value : String)
deriving Repr, DecidableEq

/-- The wording. -/
def GateFault.message : GateFault → String
  | .noValue entry => s!"feature gate '{entry}' must be Name=true|false"
  | .noName entry => s!"feature gate '{entry}' has no name"
  | .notBoolean name value => s!"feature gate {name} has non-boolean value '{value}'"

/-- The twelve spellings of a boolean. -/
def boolOfSpelling (s : String) : Option Bool :=
  if s ∈ ["1", "t", "T", "true", "TRUE", "True"] then some true
  else if s ∈ ["0", "f", "F", "false", "FALSE", "False"] then some false
  else none

/-- Named switches. -/
structure FeatureGates where
  /-- The gates that are set. -/
  values : Std.ExtTreeMap String Bool

namespace FeatureGates

/-- No gate is set. -/
def none : FeatureGates := ⟨∅⟩

/-- Whether a gate is on. -/
def enabled (gates : FeatureGates) (name : String) : Bool := gates.values.getD name false

/-- Set a gate. -/
def set (gates : FeatureGates) (name : String) (value : Bool) : FeatureGates :=
  ⟨gates.values.insert name value⟩

/-- The name and value of a trimmed entry. -/
def parseEntry (entry : List Char) : Except GateFault (String × Bool) :=
  match Text.cutAt '=' entry with
  | .none => .error (.noValue (String.ofList entry))
  | some (name, value) =>
    let name := Text.trimList name
    if name.isEmpty then .error (.noName (String.ofList entry))
    else
      let value := String.ofList (Text.trimList value)
      match boolOfSpelling value with
      | .none => .error (.notBoolean (String.ofList name) value)
      | some b => .ok (String.ofList name, b)

/-- The entries of a text: the trimmed pieces between commas that are not blank. -/
def entries (spec : List Char) : List (List Char) :=
  ((Text.splitOn ',' spec).map Text.trimList).filter fun entry => !entry.isEmpty

/-- The gates after setting those of some entries in order. -/
def setAll (gates : FeatureGates) : List (List Char) → Except GateFault FeatureGates
  | [] => .ok gates
  | entry :: rest =>
    match parseEntry entry with
    | .error fault => .error fault
    | .ok (name, value) => setAll (gates.set name value) rest

/-- The gates a text sets. -/
def parse (spec : String) : Except GateFault FeatureGates := setAll none (entries spec.toList)

/-- The gates as text, in ascending order of names. -/
def display (gates : FeatureGates) : String :=
  ",".intercalate (gates.values.toList.map fun (name, value) => s!"{name}={value}")

/-- Whether no gate is set. -/
def isNone (gates : FeatureGates) : Bool := gates.values.isEmpty

/-- With this gate on, nodes with the exclusion label take no part in load balancing. -/
def stableLoadBalancerNodeSet : String := "StableLoadBalancerNodeSet"

theorem entries_append (a b : List Char) : entries (a ++ ',' :: b) = entries a ++ entries b := by
  simp [entries, Text.splitOn_append]

theorem setAll_append (gates : FeatureGates) (a b : List (List Char)) :
    gates.setAll (a ++ b) = (gates.setAll a).bind fun gates => gates.setAll b := by
  induction a generalizing gates with
  | nil => rfl
  | cons entry rest ih =>
    simp only [List.cons_append, setAll]
    cases parseEntry entry with
    | error fault => rfl
    | ok pair => exact ih _

end FeatureGates

end Flotilla
