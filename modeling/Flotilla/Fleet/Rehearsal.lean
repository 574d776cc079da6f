import Flotilla.Fleet.Course
import Flotilla.Fleet.Script

/-!
# A rehearsal

A course whose occasions are laid down by a script, with changes of the script
and writes of controllers between the cycles.  An instance is nothing but its
token, and nothing is written when one is created.

The listing of a script is there at once.  When the token has fired before, the
cycle may see either first: which it is, is told for every cycle of a rehearsal.

A failure of a cluster whose creation also fires the token is given as it is.
-/

namespace Flotilla.Fleet

/-- What a cycle meets when everything goes by the script. -/
def Script.occasion (s : Script) (first : First) : Occasion where
  first
  listing := s.listing
  attempt cluster := { failure := s.failing.get? cluster }
  asides
    | .asked cluster => if s.cancelling.contains cluster then [.shutDown] else []
    | _ => []

/-- What is done in a rehearsal. -/
inductive Cue where
  /-- The script changes. -/
  | change (c : Change)
  /-- The token of the process is fired. -/
  | shutDown
  /-- A sink is made that stops with the newest instance of a cluster. -/
  | sink (name cluster : String)
  /-- Something is written. -/
  | metrics (step : Metrics.Step)
  /-- A cycle is played. -/
  | reconcile
deriving Repr, DecidableEq

/-- A course and the script it follows. -/
structure Rehearsal extends Course where
  /-- The script. -/
  script : Script := {}
  /-- How many cycles have been played. -/
  played : Nat := 0
  /-- What each cycle sees first if it finds its listing and the fired token. -/
  order : Nat → First := fun _ => .listing

namespace Rehearsal

/-- The rehearsal with another session. -/
def withSession (r : Rehearsal) (session : Metrics.Session) : Rehearsal :=
  { r with stage := { r.stage with session } }

/-- The rehearsal after a cue, and the report if that was a cycle. -/
def step (r : Rehearsal) : Cue → Rehearsal × Option Report
  | .change c => ({ r with script := r.script.change c }, none)
  | .shutDown => ({ r with stage := r.stage.aside .shutDown }, none)
  | .sink name cluster =>
    let sink : Metrics.Sink := ⟨cluster, r.stage.newest? cluster⟩
    (r.withSession (r.stage.session.addSink name sink), none)
  | .metrics step => (r.withSession (r.stage.session.step step), none)
  | .reconcile =>
    let o := r.script.occasion (r.order r.played)
    ({ r with toCourse := r.toCourse.cycle o, played := r.played + 1 },
      some (Report.ofSteps (r.toCourse.progress o).steps))

end Rehearsal

end Flotilla.Fleet
