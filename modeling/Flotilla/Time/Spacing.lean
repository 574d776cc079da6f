import Flotilla.Time.Span

/-!
# Order of moments

The earlier of two moments, and the moments of things done one after another.
Each is to be done at a moment of its own and is followed by a pause.  What falls
due while something else goes on, or in its pause, is done right after.
-/

namespace Flotilla.Time

/-- The earlier of two moments that may never come. -/
def earlier : Option Moment → Option Moment → Option Moment
  | some a, some b => some (min a b)
  | some a, none => some a
  | none, b => b

/-- The moments at which things are done, from `now` on. -/
def spaced {α : Type} (pause : Nat) : (now : Moment) → List (Moment × α) → List (Moment × α)
  | _, [] => []
  | now, (due, a) :: rest => (max due now, a) :: spaced pause (max due now + pause) rest

end Flotilla.Time
