import Flotilla.Shell.Filter
import Flotilla.Shell.Printing

/-!
# The utilities

The utilities by name.
-/

namespace Flotilla.Shell

/-- The utility with a name. -/
def utility? : String → Option Utility
  | "true" => some fun _ _ => {}
  | "false" => some fun _ _ => { status := 1 }
  | "sleep" => some fun _ _ => {}
  | "echo" => some echo
  | "printf" => some printf
  | "seq" => some seq
  | "yes" => some yes
  | "cat" => some cat
  | "head" => some head
  | "tr" => some tr
  | "wc" => some wc
  | _ => none

end Flotilla.Shell
