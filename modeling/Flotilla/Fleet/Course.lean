import Flotilla.Fleet.Stage

/-!
# The course of a fleet

Any number of cycles one after another, each on an occasion of its own, with
other things going on between them.  A `Course` is how far this has come: the
stage, the roster, and for each cycle what was listed and what was done.
-/

namespace Flotilla.Fleet

/-- What one cycle met and did. -/
structure Episode where
  /-- What the listing of the clusters answered. -/
  listing : Except CommandFailure (List String)
  /-- The steps. -/
  steps : List (Step Token)

/-- One thing that happens to a fleet. -/
inductive Turn where
  /-- A cycle. -/
  | cycle (occasion : Occasion)
  /-- Something that goes on between cycles. -/
  | aside (a : Aside)

/-- How far a fleet has come. -/
structure Course where
  /-- The stage. -/
  stage : Stage := Stage.fresh
  /-- The roster. -/
  roster : Roster Token := {}
  /-- The cycles so far. -/
  episodes : List Episode := []

namespace Course

/-- What a cycle would do now. -/
def progress (c : Course) (o : Occasion) : Progress Stage Token :=
  o.surroundings.cycle o.first o.listing c.stage c.roster

/-- The course after a cycle. -/
def cycle (c : Course) (o : Occasion) : Course :=
  let p := c.progress o
  { stage := p.scene
    roster := p.roster
    episodes := c.episodes ++ [⟨o.listing, p.steps⟩] }

/-- The course after one more thing. -/
def turn (c : Course) : Turn → Course
  | .cycle o => c.cycle o
  | .aside a => { c with stage := c.stage.aside a }

/-- The course after some more things. -/
def go (c : Course) (turns : List Turn) : Course := turns.foldl turn c

/-- The course from the start. -/
def run (turns : List Turn) : Course := go {} turns

/-- All steps so far. -/
def steps (c : Course) : List (Step Token) := c.episodes.flatMap (·.steps)

end Course

end Flotilla.Fleet
