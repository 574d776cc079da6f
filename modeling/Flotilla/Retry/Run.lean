import Flotilla.Failure
import Flotilla.Retry.Policy

/-!
# A retried check

A check is made again and again until it says yes, the policy is spent, the
time is up, or the shutdown comes.  Moments are counted in nanoseconds.

A `Run` tells what came of it, which attempts were begun and when, and when it
ended.

* The shutdown ends the run at its moment, whatever is under way.  A shutdown
  that came before the run lets no attempt begin.
* The deadline ends the run at its moment.  An attempt that falls due exactly
  there is still begun, and counts if it is answered at once.
* A check that is not prompt goes through a queue.  Its answer never comes in
  the moment of the deadline, and an attempt begun in that moment is cut before
  it leaves the queue (`Run.sent`).

The number of an attempt lies below `attemptBound`.

The clock is taken to be exact: a wait is over, and a deadline comes, in the nanosecond in which it
is due.  A timer that counts whole milliseconds rounds each of these moments up to one, so there the
moments hold as they stand for schedules and limits of whole milliseconds.
-/

namespace Flotilla.Retry

open Time (Moment)

/-- How one attempt turns out if nothing cuts it short. -/
structure Check where
  /-- Whether the answer is yes. -/
  ready : Bool := false
  /-- How long the answer takes; none if it never comes. -/
  takes : Option Nat := some 0
  /-- Whether the answer can come in the very moment it falls due. -/
  prompt : Bool := true
deriving Repr, DecidableEq

/-- The check made at each attempt. -/
abbrev Checks := Nat → Check

/-- The checks of a list, the last for every later attempt, and `none` when the list is empty. -/
def Checks.ofList (none : Check) (checks : List Check) : Checks :=
  fun k => (checks[k]?.or checks.getLast?).getD none

/-- What came of a retried check. -/
structure Run where
  /-- The number of attempts it took, or why there was no success. -/
  outcome : Except RetryFailure Nat
  /-- The attempts that were begun, each with its number and moment. -/
  calls : List (Nat × Moment)
  /-- When it was over. -/
  ended : Moment

/-- The run with an attempt before it. -/
def Run.after (call : Nat × Moment) (r : Run) : Run := { r with calls := call :: r.calls }

/-- The moments of the attempts that left the queue. -/
def Run.sent (r : Run) : List Moment :=
  let moments := r.calls.map (·.2)
  match r.outcome with
  | .error (.timedOut _) => moments.filter (· < r.ended)
  | .error .cancelled => moments.filter (· < r.ended)
  | _ => moments

/-- What cuts a run short: the shutdown and the deadline, each with its moment. -/
structure Limits where
  /-- The moment of the shutdown. -/
  shutdown : Option Moment := none
  /-- The deadline and the time it allows. -/
  deadline : Option (Moment × Time.Span) := none

namespace Limits

/-- The earlier of the two, the shutdown if they fall together. -/
def first (l : Limits) : Option (Moment × RetryFailure) :=
  match l.shutdown, l.deadline with
  | some t, some (d, limit) => if t ≤ d then some (t, .cancelled) else some (d, .timedOut limit)
  | some t, none => some (t, .cancelled)
  | none, some (d, limit) => some (d, .timedOut limit)
  | none, none => none

/-- What cuts short something that is over at a moment.  What is not prompt is cut in the moment of
the deadline too. -/
def cut (l : Limits) (finish : Option Moment) (prompt : Bool) : Option (Moment × RetryFailure) :=
  match l.first, finish with
  | none, _ => none
  | some (t, why), none => some (t, why)
  | some (t, why), some finish =>
    if t < finish ∨ (t = finish ∧ prompt = false) then some (t, why) else none

/-- Whether the shutdown has come by a moment. -/
def shut (l : Limits) (now : Moment) : Bool :=
  match l.shutdown with
  | some t => t ≤ now
  | none => false

end Limits

/-- Attempts are numbered below this bound. -/
def attemptBound : Nat := 4294967296

namespace Policy

/-- The run from attempt `k` on, which is due now.  Gives none when `fuel` attempts do not end it
and when it never ends. -/
def runFrom (p : Policy) (checks : Checks) (limits : Limits) :
    (fuel : Nat) → (k : Nat) → (now : Moment) → Option Run
  | 0, _, _ => none
  | fuel + 1, k, now =>
    if limits.shut now then some ⟨.error .cancelled, [], now⟩
    else
      let check := checks k
      let finish := check.takes.map (now + ·)
      match limits.cut finish check.prompt with
      | some (t, why) => some ⟨.error why, [(k, now)], t⟩
      | none =>
        match finish with
        | none => none
        | some finish =>
          if check.ready then some ⟨.ok (k + 1), [(k, now)], finish⟩
          else if p.spent (k + 1) then some ⟨.error (.exhausted (k + 1)), [(k, now)], finish⟩
          else
            let next := finish + (p.schedule.delayAfter k).toNanos
            match limits.cut (some next) true with
            | some (t, why) => some ⟨.error why, [(k, now)], t⟩
            | none => (p.runFrom checks limits fuel (k + 1) next).map (Run.after (k, now))

/-- The limits of a run that starts at a moment. -/
def limits (p : Policy) (start : Moment) (shutdown : Option Moment) : Limits :=
  { shutdown, deadline := p.timeout.map fun limit => (start + limit.toNanos, limit) }

/-- The run of a retried check. -/
def run (p : Policy) (checks : Checks) (start : Moment) (shutdown : Option Moment) : Option Run :=
  p.runFrom checks (p.limits start shutdown) attemptBound 0 start

end Policy

/-! ## Tests -/

private def no : Checks := fun _ => {}

example : ((Policy.probe.runFrom no {} 9 0 0).map (·.calls.length)) = some 5 := by decide
example : ((Policy.probe.runFrom no {} 9 0 0).map (·.ended)) = some 6000000000 := by decide

end Flotilla.Retry
