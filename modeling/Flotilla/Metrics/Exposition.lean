import Flotilla.Metrics.Store
import Flotilla.Text.Shortest

/-!
# The text of the metrics

The families of a `Store` in ascending order of names.  A family is a line
`# HELP`, a line `# TYPE` and a line for each series, in ascending order of
labels.  A family without a series is left out.

A value is exported as a floating point number: the whole number nearest to it of
those with 53 significant bits.

In the value of a label a backslash, a double quote and a line feed are
written with a backslash, so a series is always one line.
-/

namespace Flotilla.Metrics

/-- Whether a number only grows. -/
inductive FamilyKind where
  | counter
  | gauge
deriving Repr, DecidableEq

/-- The kind's name. -/
def FamilyKind.name : FamilyKind → String
  | .counter => "counter"
  | .gauge => "gauge"

/-- One series: its labels and its value. -/
structure Sample where
  /-- Names and values of the labels. -/
  labels : List (String × String)
  /-- The value that is exported. -/
  value : Nat
deriving Repr, DecidableEq

/-- The sample of a series that has counted so much. -/
def Sample.of (labels : List (String × String)) (n : Nat) : Sample :=
  ⟨labels, Text.Shortest.nearest n⟩

/-- Series of one name. -/
structure Family where
  /-- The name. -/
  name : String
  /-- What the series count. -/
  help : String
  /-- The kind. -/
  kind : FamilyKind
  /-- The series. -/
  samples : List Sample
deriving Repr, DecidableEq

/-- One character of a label's value. -/
def escapeChar (c : Char) : List Char :=
  if c = '\\' then ['\\', '\\']
  else if c = '"' then ['\\', '"']
  else if c = '\n' then ['\\', 'n']
  else [c]

/-- The value of a label as it is written. -/
def escape (s : String) : String := String.ofList (s.toList.flatMap escapeChar)

/-- A label as it is written. -/
def labelText (label : String × String) : String :=
  label.1 ++ "=\"" ++ escape label.2 ++ "\""

/-- The line of a series. -/
def Sample.line (name : String) (s : Sample) : String :=
  let labels :=
    if s.labels.isEmpty then "" else "\x7b" ++ ",".intercalate (s.labels.map labelText) ++ "\x7d"
  name ++ labels ++ " " ++ Text.Shortest.text s.value

namespace Family

/-- The lines of the series of a family. -/
def sampleLines (f : Family) : List String := f.samples.map (Sample.line f.name)

/-- The lines of a family. -/
def lines (f : Family) : List String :=
  if f.samples.isEmpty then []
  else s!"# HELP {f.name} {f.help}" :: s!"# TYPE {f.name} {f.kind.name}" :: f.sampleLines

end Family

namespace Store

/-- The labels of a controller's series. -/
def keyLabels (key : SeriesKey) : List (String × String) :=
  [("cluster", key.cluster), ("controller", key.controller)]

/-- The families in ascending order of names. -/
def families (m : Store) : List Family :=
  [ ⟨"fleet_controller_objects", "Objects managed by a delegated controller at its last resync",
      .gauge, m.objects.byLabels.toList.map fun (key, n) => .of (keyLabels key) n⟩,
    ⟨"fleet_controller_syncs_total", "Resync passes completed by delegated controllers",
      .counter, m.syncs.byLabels.toList.map fun (key, n) => .of (keyLabels key) n⟩,
    ⟨"fleet_launch_failures_total", "Failed attempts to start a cluster instance",
      .counter, m.launchFailures.toList.map fun (cluster, n) => .of [("cluster", cluster)] n⟩,
    ⟨"fleet_listing_errors_total", "Failed cluster discovery listings",
      .counter, [.of [] m.listingErrors]⟩,
    ⟨"fleet_managed_clusters", "Clusters with a running controller instance",
      .gauge, [.of [] m.managed]⟩,
    ⟨"fleet_reconcile_cycles_total", "Completed reconciliation cycles",
      .counter, [.of [] m.cycles]⟩ ]

/-- The lines of all series. -/
def sampleLines (m : Store) : List String := m.families.flatMap Family.sampleLines

/-- The whole text. -/
def exposition (m : Store) : String :=
  String.join ((m.families.flatMap Family.lines).map (· ++ "\n"))

end Store

end Flotilla.Metrics
