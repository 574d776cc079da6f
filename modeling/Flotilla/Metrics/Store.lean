import Std.Data.ExtTreeMap
import Std.Data.ExtTreeSet
import Flotilla.Cancellation

/-!
# The metrics

Three numbers for the fleet and three families of labelled series: launch
failures by cluster, and syncs and objects by cluster and controller.  A series
exists from its first write until it is dropped.  The fleet's numbers and the
counters are taken to stay within what 64 bits hold.

A registry finds a series by a hash of the values of its labels, one after
another and nothing between them.  Different texts are taken to have different
hashes, so a `SeriesTable` goes by the text of the labels (`SeriesKey.text`).
Labels with one text are not told apart: `c` of the cluster `ab` and `bc` of the
cluster `a` share a series.  It keeps the labels it was made with, and is gone as
soon as it is dropped for either.

`written` lists, for each cluster, the controllers that wrote.  `forget` drops
the series of those, and the cluster's launch failures.

A controller writes through a `Sink`, which knows its cluster.  A sink bound to
a token writes nothing once that token is cancelled, so a controller on its way
out cannot bring back a forgotten cluster.
-/

namespace Flotilla.Metrics

open Std (ExtTreeMap ExtTreeSet)

/-- The labels of a controller's series. -/
structure SeriesKey where
  /-- The cluster. -/
  cluster : String
  /-- The controller. -/
  controller : String
deriving Repr, DecidableEq

namespace SeriesKey

/-- By cluster, and within a cluster by controller. -/
instance : Ord SeriesKey :=
  ⟨compareLex (compareOn SeriesKey.cluster) (compareOn SeriesKey.controller)⟩

theorem compare_def (a b : SeriesKey) :
    compare a b = (compare a.cluster b.cluster).then (compare a.controller b.controller) := rfl

instance : Std.TransOrd SeriesKey :=
  inferInstanceAs <| Std.TransCmp <|
    compareLex (compareOn SeriesKey.cluster) (compareOn SeriesKey.controller)

instance : Std.LawfulEqOrd SeriesKey where
  eq_of_compare {a b} h := by
    rw [compare_def, Ordering.then_eq_eq] at h
    obtain ⟨h1, h2⟩ := h
    have h1 := Std.LawfulEqOrd.eq_of_compare h1
    have h2 := Std.LawfulEqOrd.eq_of_compare h2
    cases a; cases b; simp_all

/-- The text by which a registry finds a series. -/
def text (key : SeriesKey) : String := key.cluster ++ key.controller

end SeriesKey

/-- The series of a family, by the text of the labels they were made with. -/
structure SeriesTable where
  /-- The labels and the value of each series. -/
  entries : ExtTreeMap String (SeriesKey × Nat) := ∅
  keyed : ∀ (text : String) (key : SeriesKey) (n : Nat), entries[text]? = some (key, n) →
    key.text = text

namespace SeriesTable

instance : EmptyCollection SeriesTable where
  emptyCollection.entries := ∅
  emptyCollection.keyed _ _ _ h := by
    rw [ExtTreeMap.getElem?_empty] at h
    cases h

/-- The labels and the value of the series that a write is about.  One that is not there yet is
made with the labels of the write. -/
def slot (t : SeriesTable) (key : SeriesKey) : SeriesKey × Nat := t.entries.getD key.text (key, 0)

theorem text_slot (t : SeriesTable) (key : SeriesKey) : (t.slot key).1.text = key.text := by
  rw [slot, ExtTreeMap.getD_eq_getD_getElem?]
  cases h : t.entries[key.text]? with
  | none => rfl
  | some e => exact t.keyed _ _ _ h

/-- Change the value of a series, which keeps the labels it has. -/
def update (t : SeriesTable) (key : SeriesKey) (f : Nat → Nat) : SeriesTable where
  entries := t.entries.insert key.text ((t.slot key).1, f (t.slot key).2)
  keyed text other n h := by
    rw [ExtTreeMap.getElem?_insert] at h
    split at h
    · next ht =>
      obtain ⟨rfl, -⟩ := Prod.mk.inj (Option.some.inj h)
      exact (t.text_slot key).trans (Std.LawfulEqOrd.eq_of_compare ht)
    · exact t.keyed _ _ _ h

/-- Drop the series with the text of some labels. -/
def drop (t : SeriesTable) (key : SeriesKey) : SeriesTable where
  entries := t.entries.erase key.text
  keyed text other n h := by
    rw [ExtTreeMap.getElem?_erase] at h
    split at h
    · cases h
    · exact t.keyed _ _ _ h

/-- The value of the series that has these labels. -/
def value? (t : SeriesTable) (key : SeriesKey) : Option Nat :=
  match t.entries[key.text]? with
  | some (labels, n) => if labels = key then some n else none
  | none => none

instance : Membership SeriesKey SeriesTable := ⟨fun t key => (t.value? key).isSome⟩

/-- The series by their labels. -/
def byLabels (t : SeriesTable) : ExtTreeMap SeriesKey Nat := ExtTreeMap.ofList t.entries.values

end SeriesTable

/-- The greatest value a gauge can hold. -/
def gaugeBound : Nat := 9223372036854775807

/-- All metrics of a fleet. -/
structure Store where
  /-- Clusters with an instance. -/
  managed : Nat := 0
  /-- Completed cycles. -/
  cycles : Nat := 0
  /-- Failed listings. -/
  listingErrors : Nat := 0
  /-- Failed launches by cluster. -/
  launchFailures : ExtTreeMap String Nat := ∅
  /-- Completed passes by cluster and controller. -/
  syncs : SeriesTable := ∅
  /-- Objects by cluster and controller. -/
  objects : SeriesTable := ∅
  /-- The controllers that wrote, by cluster. -/
  written : ExtTreeMap String (ExtTreeSet String) := ∅

namespace Store

/-- Set how many clusters are managed. -/
def setManaged (m : Store) (n : Nat) : Store := { m with managed := min n gaugeBound }

/-- Count a completed cycle. -/
def countCycle (m : Store) : Store := { m with cycles := m.cycles + 1 }

/-- Count a failed listing. -/
def countListingError (m : Store) : Store := { m with listingErrors := m.listingErrors + 1 }

/-- Count a failed launch of a cluster. -/
def countLaunchFailure (m : Store) (cluster : String) : Store :=
  { m with launchFailures := m.launchFailures.insert cluster (m.launchFailures.getD cluster 0 + 1) }

/-- List a controller among those of a cluster that wrote. -/
def markWritten (m : Store) (cluster controller : String) : Store :=
  { m with
    written := m.written.insert cluster ((m.written.getD cluster ∅).insert controller) }

/-- Count a completed pass of a controller. -/
def recordSync (m : Store) (cluster controller : String) : Store :=
  let m := m.markWritten cluster controller
  { m with syncs := m.syncs.update ⟨cluster, controller⟩ (· + 1) }

/-- Set how many objects a controller has. -/
def setObjects (m : Store) (cluster controller : String) (n : Nat) : Store :=
  let m := m.markWritten cluster controller
  { m with objects := m.objects.update ⟨cluster, controller⟩ fun _ => min n gaugeBound }

/-- Drop the two series of a controller. -/
def dropSeries (m : Store) (key : SeriesKey) : Store :=
  { m with syncs := m.syncs.drop key, objects := m.objects.drop key }

/-- Drop every series of a cluster. -/
def forget (m : Store) (cluster : String) : Store :=
  let controllers := (m.written.getD cluster ∅).toList
  let m := controllers.foldl (fun m controller => m.dropSeries ⟨cluster, controller⟩) m
  { m with
    written := m.written.erase cluster
    launchFailures := m.launchFailures.erase cluster }

end Store

/-- Where a cluster's controllers write. -/
structure Sink where
  /-- The cluster. -/
  cluster : String
  /-- The token whose firing ends all writing, if there is one. -/
  token : Option Token := none
deriving Repr, DecidableEq

namespace Sink

/-- Whether a write has an effect. -/
def isLive (cancellation : Cancellation) (sink : Sink) : Bool :=
  match sink.token with
  | none => true
  | some t => !cancellation.isCancelled t

/-- Count a completed pass, if the sink is live. -/
def recordSync (sink : Sink) (cancellation : Cancellation) (controller : String) (m : Store) :
    Store :=
  if sink.isLive cancellation then m.recordSync sink.cluster controller else m

/-- Set how many objects a controller has, if the sink is live. -/
def setObjects (sink : Sink) (cancellation : Cancellation) (controller : String) (n : Nat)
    (m : Store) : Store :=
  if sink.isLive cancellation then m.setObjects sink.cluster controller n else m

end Sink

/-- What a controller writes. -/
inductive Write where
  /-- A completed pass. -/
  | sync (controller : String)
  /-- A number of objects. -/
  | objects (controller : String) (n : Nat)
deriving Repr, DecidableEq

/-- The metrics after a write through a sink. -/
def Sink.write (sink : Sink) (cancellation : Cancellation) (m : Store) : Write → Store
  | .sync controller => sink.recordSync cancellation controller m
  | .objects controller n => sink.setObjects cancellation controller n m

end Flotilla.Metrics
