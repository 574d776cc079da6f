import Flotilla.Metrics.Session

/-!
# What a history says

The samples that a history of steps leaves, told by the history alone.  It goes by
names and by what was done before, and knows neither of numbers of tokens nor of
the index of the series.

* A token is told by its `Origin`: its name if it was never made, else the place in
  the history where it was made, and its parent.
* `writes` has the live writes of a cluster's controllers since it was last
  forgotten, and `failures` counts its failed launches since then.
* `shared` has the live writes to the series of a text, which may be those of
  several clusters.  A history is `Apart` if that never happens in it.  Then the
  writes to a series are those of one controller of one cluster
  (`shared_of_alone`).
-/

namespace Flotilla.Metrics

/-- Where a token comes from. -/
inductive Origin where
  /-- It was named before anything of this name was made. -/
  | root (name : String)
  /-- It was made as a child when so many steps had been taken. -/
  | child (place : Nat) (parent : Origin)
deriving DecidableEq

/-- A token and those it descends from. -/
def Origin.lineage : Origin → List Origin
  | .root name => [.root name]
  | .child place parent => .child place parent :: parent.lineage

/-- What the name of a sink stands for. -/
structure Binding where
  /-- The cluster. -/
  cluster : String
  /-- The token that ends all writing, if there is one. -/
  token : Option Origin

/-- The controller that writes. -/
def Write.controller : Write → String
  | .sync controller => controller
  | .objects controller _ => controller

/-- The labels of a write for a cluster. -/
def Write.key (cluster : String) (w : Write) : SeriesKey := ⟨cluster, w.controller⟩

/-- The step that makes a write through a sink. -/
def Write.step (sink : String) : Write → Step
  | .sync controller => .sync sink controller
  | .objects controller n => .objects sink controller n

/-- The number of objects of a controller that a write sets. -/
def Write.objects? (controller : String) : Write → Option Nat
  | .sync _ => none
  | .objects k n => if k = controller then some n else none

/-- The labels of a pass. -/
def Write.pass? (cluster : String) : Write → Option SeriesKey
  | .sync controller => some ⟨cluster, controller⟩
  | .objects .. => none

/-- The labels and the number of a number of objects. -/
def Write.count? (cluster : String) : Write → Option (SeriesKey × Nat)
  | .sync _ => none
  | .objects controller n => some (⟨cluster, controller⟩, n)

/-- A history, with the newest step first. -/
abbrev History := List Step

namespace History

/-- The token that a name stands for. -/
def token : History → String → Origin
  | [], name => .root name
  | .child n parent :: past, name =>
    if n = name then .child past.length (token past parent) else token past name
  | _ :: past, name => token past name

/-- Whether a token itself was cancelled. -/
def fired : History → Origin → Bool
  | [], _ => false
  | .cancel name :: past, o => decide (token past name = o) || fired past o
  | _ :: past, o => fired past o

/-- Whether a token or one it descends from was cancelled. -/
def cancelled (h : History) (o : Origin) : Bool := o.lineage.any h.fired

/-- The sink that a name stands for. -/
def sink? : History → String → Option Binding
  | [], _ => none
  | .sink n cluster t :: past, name =>
    if n = name then some ⟨cluster, t.map (token past)⟩ else sink? past name
  | _ :: past, name => sink? past name

/-- The cluster that a write through a sink is about; none if the write is dead. -/
def target? (h : History) (sink : String) : Option String :=
  match h.sink? sink with
  | none => none
  | some ⟨cluster, none⟩ => some cluster
  | some ⟨cluster, some o⟩ => if h.cancelled o then none else some cluster

/-- The live writes for a cluster since it was last forgotten, the newest first. -/
def writes (cluster : String) : History → List Write
  | [] => []
  | .forget c :: past => if c = cluster then [] else writes cluster past
  | .sync s k :: past =>
    if target? past s = some cluster then .sync k :: writes cluster past else writes cluster past
  | .objects s k n :: past =>
    if target? past s = some cluster then .objects k n :: writes cluster past
    else writes cluster past
  | _ :: past => writes cluster past

/-- The live writes to the series of a text since it was last dropped, the newest first, with their
clusters.  A series is dropped with any cluster that wrote to it. -/
def shared (text : String) : History → List (String × Write)
  | [] => []
  | .forget c :: past =>
    if ∃ w ∈ writes c past, (w.key c).text = text then [] else shared text past
  | .sync s k :: past =>
    match target? past s with
    | some c => if c ++ k = text then (c, .sync k) :: shared text past else shared text past
    | none => shared text past
  | .objects s k n :: past =>
    match target? past s with
    | some c => if c ++ k = text then (c, .objects k n) :: shared text past else shared text past
    | none => shared text past
  | _ :: past => shared text past

/-- The labels of the passes that were written to the series of a text, the newest first. -/
def passes (h : History) (text : String) : List SeriesKey :=
  (h.shared text).filterMap fun (cluster, w) => w.pass? cluster

/-- The numbers of objects that were written to the series of a text, the newest first. -/
def counts (h : History) (text : String) : List (SeriesKey × Nat) :=
  (h.shared text).filterMap fun (cluster, w) => w.count? cluster

/-- The labels of all live writes. -/
def labels : History → List SeriesKey
  | [] => []
  | .sync s k :: past => ((target? past s).map fun c => ⟨c, k⟩).toList ++ labels past
  | .objects s k _ :: past => ((target? past s).map fun c => ⟨c, k⟩).toList ++ labels past
  | _ :: past => labels past

/-- No two labels of live writes have one text. -/
def Apart (h : History) : Prop := ∀ a ∈ h.labels, ∀ b ∈ h.labels, a.text = b.text → a = b

instance (h : History) : Decidable h.Apart :=
  inferInstanceAs (Decidable (∀ a ∈ h.labels, ∀ b ∈ h.labels, a.text = b.text → a = b))

/-- The failed launches of a cluster since it was last forgotten. -/
def failures (cluster : String) : History → Nat
  | [] => 0
  | .forget c :: past => if c = cluster then 0 else failures cluster past
  | .launchFailure c :: past => failures cluster past + if c = cluster then 1 else 0
  | _ :: past => failures cluster past

/-- The number of managed clusters that was set last. -/
def managed : History → Nat
  | [] => 0
  | .managed n :: _ => n
  | _ :: past => managed past

/-- The completed cycles. -/
def cycles (h : History) : Nat := h.count .cycle

/-- The failed listings. -/
def listingErrors (h : History) : Nat := h.count .listingError

end History

end Flotilla.Metrics
