import Flotilla.Proofs.Fleet.Settled
import Flotilla.Proofs.Metrics.Series

/-!
# The labels that a course writes

A course writes within some labels when its controllers do, in the attempts of its cycles and in
whatever goes on beside them (`Turn.WritesIn`).  Then the index of the metrics has no labels but
these.

Labels of different clusters can have one text.  A cluster is `ToldApart` in a course when that
happens to none of its own.  A stage is `Surveyed` for a cluster when it is settled and, if the
series of the cluster are looked at, the labels tell the cluster apart.
-/

namespace Flotilla.Fleet

open Instance (Attempt)
open Metrics (SeriesKey Store)

/-- What goes on writes within some labels. -/
def Aside.WritesIn (P : SeriesKey → Prop) : Aside → Prop
  | .write cluster _ w => P (w.key cluster)
  | .shutDown => True

/-- A cycle writes within some labels. -/
structure Occasion.WritesIn (P : SeriesKey → Prop) (o : Occasion) : Prop where
  attempts : ∀ names, o.listing = .ok names → ∀ c ∈ names, ∀ w ∈ (o.attempt c).writes, P (w.key c)
  asides : ∀ step, ∀ a ∈ o.asides step, a.WritesIn P

/-- Something that happens to a fleet writes within some labels. -/
def Turn.WritesIn (P : SeriesKey → Prop) : Turn → Prop
  | .cycle o => o.WritesIn P
  | .aside a => a.WritesIn P

theorem Turn.writesIn_true (t : Turn) : t.WritesIn fun _ => True := by
  cases t with
  | cycle o =>
    refine ⟨fun _ _ _ _ _ _ => trivial, fun step a _ => ?_⟩
    cases a <;> exact trivial
  | aside a => cases a <;> exact trivial

/-- No label that is written for another cluster has the text of one that is written for this
cluster. -/
def ToldApart (k : String) (turns : List Turn) : Prop :=
  ∃ P, SeriesKey.Clear P k ∧ ∀ t ∈ turns, t.WritesIn P

/-! ## The index -/

section Within

variable {s : Stage} {P : SeriesKey → Prop} (h : s.store.Within P)

include h

theorem within_note (step : Step Token) : (s.note step).store.Within P := by
  cases step with
  | stopped c t => exact h.forget c
  | forgotten c => exact h.forget c
  | _ => exact h

theorem within_build {c : String} {a : Attempt} (ha : ∀ w ∈ a.writes, P (w.key c)) :
    (s.build c a).2.store.Within P :=
  h.writes (s.begin c).1 (s.begin c).2.2.cancellation ha

theorem within_aside {a : Aside} (ha : a.WritesIn P) : (s.aside a).store.Within P := by
  cases a with
  | shutDown => exact h
  | write cluster place w =>
    simp only [Stage.aside]
    split
    · next sink hsink =>
      have hcluster : sink.cluster = cluster :=
        beq_iff_eq.mp (List.mem_filter.mp (List.mem_of_getElem? hsink)).2
      exact Store.Within.write h sink s.cancellation (hcluster ▸ ha)
    · exact h

end Within

/-! ## Stages -/

/-- A settled stage whose series can be told of a cluster, if they are looked at. -/
structure Surveyed (P : SeriesKey → Prop) (sees : Bool) (k : String) (s : Stage)
    (r : Roster Token) : Prop where
  settled : Settled s r
  within : s.store.Within P
  clear : sees = true → SeriesKey.Clear P k

namespace Surveyed

variable {P : SeriesKey → Prop} {sees : Bool} {k : String} {s : Stage} {r : Roster Token}

theorem parted (h : Surveyed P sees k s r) (hsees : sees = true) : s.store.Parted P k :=
  ⟨h.settled.covered.indexed, h.clear hsees, h.within⟩

theorem aside (h : Surveyed P sees k s r) {a : Aside} (ha : a.WritesIn P) :
    Surveyed P sees k (s.aside a) r :=
  ⟨h.settled.aside a, within_aside h.within ha, h.clear⟩

theorem asides (h : Surveyed P sees k s r) {l : List Aside} (hl : ∀ a ∈ l, a.WritesIn P) :
    Surveyed P sees k (l.foldl Stage.aside s) r := by
  induction l generalizing s with
  | nil => exact h
  | cons a rest ih =>
    rw [List.forall_mem_cons] at hl
    exact ih (h.aside hl.1) hl.2

/-- A step that brings, stops and forgets nothing. -/
theorem plain (h : Surveyed P sees k s r) {step : Step Token} (hp : step.isPlain = true)
    (hl : ∀ c t, step ≠ .launched c t) : Surveyed P sees k (s.note step) r :=
  ⟨h.settled.plain hp hl, within_note h.within step, h.clear⟩

section

variable (h : Surveyed P sees k s r) {c : String} {a : Attempt}

include h

theorem launch (hc : c ∉ r.instances) (ha : ∀ w ∈ a.writes, P (w.key c)) :
    Surveyed P sees k { (s.build c a).2 with instances := s.instances ++ [(c, (s.build c a).1)] }
      (r.launch c (s.build c a).1) :=
  ⟨h.settled.launch hc a, within_build h.within ha, h.clear⟩

theorem fail (hc : c ∉ r.instances) (ha : ∀ w ∈ a.writes, P (w.key c)) (f : ControllerFailure) :
    Surveyed P sees k (((s.build c a).2.fire (s.build c a).1).note (.launchFailed c f))
      (r.fail c) :=
  ⟨h.settled.fail hc a f, within_build h.within ha, h.clear⟩

theorem abandon (ha : a.writes = []) :
    Surveyed P sees k ((s.build c a).2.fire (s.build c a).1) r :=
  ⟨h.settled.abandon c ha, within_build h.within (by simp [ha]), h.clear⟩

theorem stop {t : Token} (ht : r.instances[c]? = some t) :
    Surveyed P sees k (s.note (.stopped c t)) (r.stop c) :=
  ⟨h.settled.stop ht, within_note h.within _, h.clear⟩

theorem forget (c : String) : Surveyed P sees k (s.note (.forgotten c)) (r.forget c) :=
  ⟨h.settled.forget c, within_note h.within _, h.clear⟩

end

end Surveyed

end Flotilla.Fleet
