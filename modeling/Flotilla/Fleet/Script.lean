import Flotilla.Fleet.Cycle
import Flotilla.Tools.Inventory

/-!
# A scripted world

What a listing of the clusters and the creation of an instance come to, as a
script lays it down: the clusters there are or why they cannot be listed, the
clusters whose creation fails and how, and those whose creation is the moment of
the shutdown.  A `Change` sets one of these.
-/

namespace Flotilla.Fleet

open Std (ExtTreeMap ExtTreeSet)

/-- What is laid down. -/
structure Script where
  /-- The clusters there are. -/
  clusters : List String := []
  /-- Why they cannot be listed. -/
  listFailure : Option CommandFailure := none
  /-- Clusters whose creation fails. -/
  failing : ExtTreeMap String ControllerFailure := ∅
  /-- Clusters whose creation fires the token. -/
  cancelling : ExtTreeSet String := ∅

/-- A change of what is laid down. -/
inductive Change where
  /-- These are the clusters. -/
  | clusters (names : List String)
  /-- The clusters cannot be listed, or can be again. -/
  | listError (reason : Option String)
  /-- The creation of a cluster fails from now on. -/
  | fail (cluster : String) (failure : ControllerFailure)
  /-- It does not any more. -/
  | recover (cluster : String)
  /-- The creation of a cluster fires the token. -/
  | cancelOnCreate (cluster : String)
deriving Repr, DecidableEq

namespace Script

/-- The script by which every listing answers the same. -/
def ofListing : Except CommandFailure (List String) → Script
  | .ok clusters => { clusters }
  | .error failure => { listFailure := some failure }

/-- The script after a change. -/
def change (s : Script) : Change → Script
  | .clusters names => { s with clusters := names }
  | .listError reason =>
    { s with listFailure := reason.map (Tools.Inventory.refusal Tools.Inventory.listCommand) }
  | .fail cluster failure => { s with failing := s.failing.insert cluster failure }
  | .recover cluster => { s with failing := s.failing.erase cluster }
  | .cancelOnCreate cluster => { s with cancelling := s.cancelling.insert cluster }

/-- What a listing of the clusters answers. -/
def listing (s : Script) : Except CommandFailure (List String) :=
  match s.listFailure with
  | some failure => .error failure
  | none => .ok s.clusters

/-- A script made of a listing answers that listing. -/
theorem listing_ofListing (l : Except CommandFailure (List String)) :
    (ofListing l).listing = l := by
  cases l <;> rfl

end Script

end Flotilla.Fleet
