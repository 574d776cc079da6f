import Flotilla.Text.JsonString
import Flotilla.Tools.Outcome

/-!
# Scripted tools

Stand-ins for tools, each with the same rules.  The first rule for the arguments
says what the tool writes and how it ends.  A tool without a rule for its
arguments complains of them and ends with code 97.  There is nothing else to run.
-/

namespace Flotilla.Tools

/-- What a tool does when it gets some arguments. -/
structure Rule where
  /-- The arguments, or none if any will do. -/
  args : Option (List String)
  /-- What comes of it. -/
  output : Output

/-- Whether a rule is about some arguments. -/
def Rule.matches (r : Rule) (args : List String) : Bool :=
  match r.args with
  | none => true
  | some own => own == args

/-- What a tool without a rule does. -/
def unexpected (args : List String) : Output :=
  { status := .code 97, stderr := Text.encode ("unexpected arguments: " ++ Text.jsonList args) }

/-- What a tool with some rules does. -/
def Rule.apply (rules : List Rule) (args : List String) : Output :=
  match rules.find? (·.matches args) with
  | some rule => rule.output
  | none => unexpected args

/-- Why a binary that is not there cannot be run. -/
def missing : String := "No such file or directory (os error 2)"

/-- The machine on which these tools have these rules. -/
def Machine.scripted (tools : List String) (rules : List Rule) : Machine := fun binary args =>
  if tools.contains binary then .ok (Rule.apply rules args) else .error missing

end Flotilla.Tools
