import Flotilla.Time.Span

/-!
# Bounded lookups

Work that is done in order with at most so many pieces under way at once.  A
piece is begun as soon as fewer are under way.  `schedule` gives for each piece
when it begins and ends.
-/

namespace Flotilla.Controllers.Lookups

open Time (Moment)

/-- A moment put among others in ascending order. -/
def insertMoment (m : Moment) : List Moment → List Moment
  | [] => [m]
  | x :: xs => if m ≤ x then m :: x :: xs else x :: insertMoment m xs

/-- When each piece begins and ends, given the moments at which those under way end, in ascending
order. -/
def assign (width : Nat) : (now : Moment) → (busy : List Moment) → (takes : List Nat) →
    List (Moment × Moment)
  | _, _, [] => []
  | now, busy, d :: ds =>
    if busy.length < width then
      (now, now + d) :: assign width now (insertMoment (now + d) busy) ds
    else
      match busy with
      | [] => (now, now + d) :: assign width now [] ds
      | e :: rest => (e, e + d) :: assign width e (insertMoment (e + d) rest) ds

/-- When each piece begins and ends; a bound of zero counts as one. -/
def schedule (width : Nat) (start : Moment) (takes : List Nat) : List (Moment × Moment) :=
  assign (max width 1) start [] takes

/-- When all pieces are done. -/
def finish (start : Moment) (pieces : List (Moment × Moment)) : Moment :=
  pieces.foldl (fun m piece => max m piece.2) start

/-- How many pieces are under way, just after a piece was begun, of those begun before it. -/
def underWay (before : List (Moment × Moment)) (begun : Moment) : Nat :=
  (before.filter fun piece => begun < piece.2).length + 1

/-- The greatest number of pieces under way, after pieces that were begun before. -/
def peakFrom (before : List (Moment × Moment)) : List (Moment × Moment) → Nat
  | [] => 0
  | piece :: pieces => max (underWay before piece.1) (peakFrom (before ++ [piece]) pieces)

/-- The greatest number of pieces under way at once. -/
def peak (pieces : List (Moment × Moment)) : Nat := peakFrom [] pieces

example : schedule 2 0 [3, 1, 1, 5] = [(0, 3), (0, 1), (1, 2), (2, 7)] := by decide
example : peak (schedule 3 0 [1, 1, 1, 1]) = 3 := by decide
example : peak (schedule 3 0 [0, 0, 0]) = 1 := by decide

end Flotilla.Controllers.Lookups
