import Flotilla.Instance.Creation

/-!
# What the fleet sees of a creation

To the fleet a creation is an `Attempt`: what was written to the metrics while
the controllers were built, and why there is no instance, if there is none.  A
creation that was cut short by the shutdown has built nothing, and so has
written nothing.
-/

namespace Flotilla

namespace Instance

open Time (Moment)

/-- What comes of the creation of an instance. -/
structure Attempt where
  /-- What is written while the controllers are built. -/
  writes : List Metrics.Write := []
  /-- Why there is no instance. -/
  failure : Option ControllerFailure := none
  /-- A creation that was cut short has written nothing. -/
  writes_of_cancelled : failure = some .cancelled → writes = [] := by simp

/-! ## The attempts of a factory -/

/-- What building the controllers wrote. -/
def Launch.writes (l : Launch) : List Metrics.Write :=
  l.built.filterMap fun (controller, effect) => effect.write? controller

/-- A controller that cannot be built makes a failure that says so, whatever it failed with. -/
theorem startAll_error {cluster : String} {builders : List Builder} {failure : ControllerFailure}
    (h : (startAll cluster builders).2 = some failure) :
    ∃ controller named why, failure = .controllerInit controller named why := by
  simp only [startAll] at h
  split at h
  · next e he =>
    cases h
    exact start_error he
  · cases h

/-- A controller is never given up because of the shutdown. -/
theorem startAll_ne_cancelled (cluster : String) (builders : List Builder) :
    (startAll cluster builders).2 ≠ some .cancelled := by
  intro h
  obtain ⟨controller, named, why, hc⟩ := startAll_error h
  cases hc

/-- A launch that was cut short by the shutdown has built nothing. -/
theorem Launch.writes_of_cancelled {plan : Plan} {client : AdminClient} {world : Apiserver.World}
    {start : Moment} {shutdown : Option Moment} {l : Launch}
    (h : Launch.run plan client world start shutdown = some l) (hc : l.failure = some .cancelled) :
    l.writes = [] := by
  simp only [Launch.run, Option.map_eq_some_iff] at h
  obtain ⟨r, -, rfl⟩ := h
  cases hr : r.outcome with
  | ok n =>
    simp only [hr] at hc
    exact absurd hc (startAll_ne_cancelled _ _)
  | error e => cases e <;> simp [Launch.writes, Launch.built]

namespace Creation

/-- What building the controllers wrote. -/
def writes (c : Creation) : List Metrics.Write := (c.launch.map Launch.writes).getD []

/-- Why there is no instance. -/
def failure (c : Creation) : Option ControllerFailure :=
  match c.outcome with
  | .error failure => some failure
  | .ok _ => none

end Creation

/-- A creation that was cut short by the shutdown has built nothing. -/
theorem Factory.writes_of_cancelled {f : Factory} {cluster : String} {start : Moment}
    {shutdown : Option Moment} {c : Creation} (h : f.create cluster start shutdown = some c)
    (hc : c.failure = some .cancelled) : c.writes = [] := by
  unfold create at h
  split at h
  · cases h
  · next search _ =>
    split at h
    · cases h
      rfl
    · next client hok =>
      obtain ⟨l, hl, rfl⟩ := Option.map_eq_some_iff.mp h
      refine Launch.writes_of_cancelled hl ?_
      cases hf : l.failure with
      | none => simp [Creation.failure, Creation.outcome, hok, hf] at hc
      | some failure =>
        simp only [Creation.failure, Creation.outcome, hok, hf, Option.some.injEq] at hc
        rw [hc]

/-- What comes of a creation.  None if it never ends. -/
def Factory.attempt (f : Factory) (cluster : String) (start : Moment) (shutdown : Option Moment) :
    Option Attempt :=
  match h : f.create cluster start shutdown with
  | none => none
  | some c => some
    { writes := c.writes, failure := c.failure, writes_of_cancelled := writes_of_cancelled h }

end Instance

end Flotilla
