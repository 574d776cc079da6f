import Flotilla.Time.Span

/-!
# Retry policies

A policy bounds a retried check by a number of attempts, by a time for the
whole, by both or by neither, and says how long to wait after an attempt that
failed.  Attempts are numbered from zero.

* `probe`: five attempts, with waits of 0, 1, 2 and 3 seconds between them.
* `readiness`: an attempt every second, for 30 seconds.
-/

namespace Flotilla.Retry

open Time (Span)

/-- How long to wait after a failed attempt. -/
inductive Schedule where
  /-- After attempt `k`, wait `k` steps. -/
  | linear (step : Span)
  /-- Wait the same time after every attempt. -/
  | fixed (interval : Span)
deriving Repr, DecidableEq

/-- The wait after a failed attempt. -/
def Schedule.delayAfter : Schedule → Nat → Span
  | .linear step, attempt => step.scale attempt
  | .fixed interval, _ => interval

/-- Bounds and pace of a retried check. -/
structure Policy where
  /-- The greatest number of attempts; zero counts as one. -/
  maxAttempts : Option Nat := none
  /-- The waits. -/
  schedule : Schedule
  /-- The time for the whole. -/
  timeout : Option Span := none
deriving Repr, DecidableEq

namespace Policy

/-- For the question whether an apiserver can be reached. -/
def probe : Policy := { maxAttempts := some 5, schedule := .linear (.ofSecs 1) }

/-- For the wait until an apiserver is healthy. -/
def readiness : Policy := { schedule := .fixed (.ofSecs 1), timeout := some (.ofSecs 30) }

/-- Whether no attempt may follow after so many. -/
def spent (p : Policy) (made : Nat) : Bool :=
  match p.maxAttempts with
  | some most => most ≤ made
  | none => false

end Policy

/-- The length of the wait, as one number. -/
theorem Schedule.toNanos_delayAfter_linear (step : Span) (attempt : Nat) :
    ((Schedule.linear step).delayAfter attempt).toNanos =
      min (step.toNanos * attempt) Span.longest.toNanos :=
  Span.toNanos_scale step attempt

end Flotilla.Retry
