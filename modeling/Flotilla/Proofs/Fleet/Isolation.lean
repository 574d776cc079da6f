import Mathlib.Data.List.Induction
import Mathlib.Data.List.Nodup
import Flotilla.Proofs.Fleet.Endings
import Flotilla.Proofs.Fleet.View

/-!
# No cluster leaks into another

Two courses are `Twins` for a cluster when they meet the same as far as that
cluster is concerned: their cycles come in pairs, none is interrupted, the listings
fail together and list the cluster together, its creations come out the same, and
the same goes on for it at the same points.  Of other clusters the two may meet
whatever they like.

Then the two do the same with the cluster (`Course.isolated`).  The argument has two
parts.  What a cycle does to a cluster is due to what was seen of it before
(`deeds_of_followed`), and together with what goes on for it this makes all that is
seen of it afterwards (`view_cycle`).

The series of controllers are the same in both as long as no other cluster writes
under labels with the text of its own.  The controller `c` of a cluster `ab` and
the controller `bc` of `a` share one series.
-/

namespace Flotilla.Fleet

open Std (ExtTreeMap ExtTreeSet)
open Instance (Attempt)
open Metrics (SeriesKey)

/-! ## Sights in order -/

/-- What happened to the cluster, if this is what it saw. -/
def Sight.deed? : Sight → Option Deed
  | .own deed => some deed
  | .beside _ => none

/-- What goes on for a cluster, each with the number of things that happened to it before. -/
def marks : Nat → List Sight → List (Nat × Aside)
  | _, [] => []
  | n, .own _ :: rest => marks (n + 1) rest
  | n, .beside a :: rest => (n, a) :: marks n rest

theorem le_of_mem_marks {n : Nat} {sights : List Sight} {x : Nat × Aside}
    (hx : x ∈ marks n sights) : n ≤ x.1 := by
  induction sights generalizing n with
  | nil => cases hx
  | cons sight rest ih =>
    cases sight with
    | own deed => exact Nat.le_of_succ_le (ih hx)
    | beside a =>
      rcases List.mem_cons.mp hx with rfl | hx
      · exact Nat.le_refl _
      · exact ih hx

/-- What happened, and what went on how late, tells all that was seen. -/
theorem sights_unique {n : Nat} {l l' : List Sight}
    (hdeeds : l.filterMap Sight.deed? = l'.filterMap Sight.deed?)
    (hmarks : marks n l = marks n l') : l = l' := by
  induction l generalizing n l' with
  | nil =>
    cases l' with
    | nil => rfl
    | cons sight rest => cases sight <;> simp [Sight.deed?, marks] at hdeeds hmarks
  | cons sight rest ih =>
    -- after something has happened nothing is marked with the number from before
    have late {d : Deed} {a : Aside} {l l' : List Sight}
        (h : marks n (.own d :: l) = marks n (.beside a :: l')) : False := by
      have hmem : (n, a) ∈ marks (n + 1) l := h ▸ List.mem_cons_self
      exact Nat.not_succ_le_self n (le_of_mem_marks hmem)
    cases l' with
    | nil => cases sight <;> simp [Sight.deed?, marks] at hdeeds hmarks
    | cons sight' rest' =>
      cases sight with
      | own d =>
        cases sight' with
        | own d' =>
          simp only [List.filterMap_cons, Sight.deed?, List.cons.injEq] at hdeeds
          rw [hdeeds.1, ih hdeeds.2 hmarks]
        | beside a => exact (late hmarks).elim
      | beside a =>
        cases sight' with
        | own d' => exact (late hmarks.symm).elim
        | beside a' =>
          simp only [marks, List.cons.injEq, Prod.mk.injEq, true_and] at hmarks
          have hrest : rest = rest' := ih hdeeds hmarks.2
          rw [hmarks.1, hrest]

/-! ## What is due -/

namespace Occasion

/-- What some steps do to a cluster. -/
def deeds (o : Occasion) (k : String) (steps : List (Step Token)) : List Deed :=
  steps.filterMap (o.deed? k)

theorem filterMap_sights (o : Occasion) (k : String) (steps : List (Step Token)) :
    (o.sights k steps).filterMap Sight.deed? = o.deeds k steps := by
  have hbesides (l : List Aside) : (l.map Sight.beside).filterMap Sight.deed? = [] := by
    simp [List.filterMap_map, Function.comp_def, Sight.deed?]
  induction steps with
  | nil => rfl
  | cons step rest ih =>
    have hrest : o.sights k (step :: rest) =
        ((o.deed? k step).toList.map .own ++ (o.besides k step).map .beside) ++
          o.sights k rest := rfl
    rw [hrest, List.filterMap_append, List.filterMap_append, hbesides, ih, deeds, deeds,
      List.filterMap_cons]
    cases o.deed? k step <;> simp [Sight.deed?]

end Occasion

/-- What comes of a creation that is not cut short. -/
def Deed.ofAttempt (a : Attempt) : Deed :=
  if a.failure.isSome then .failed a.writes else .launched a.writes

/-- What a complete cycle does to a cluster that it finds listed or not. -/
def View.due (v : View) (listed : Bool) (a : Attempt) : List Deed :=
  if listed then if v.managed then [] else [.ofAttempt a]
  else (if v.managed then [.stopped] else []) ++ if v.failed then [.forgotten] else []

/-- Of things that have different names at most the one of a name is picked. -/
theorem filterMap_of_name {α β : Type} {l : List α} {name : α → String} {pick : α → Option β}
    {k : String} (hn : (l.map name).Nodup) (hpick : ∀ x, name x ≠ k → pick x = none) :
    (∀ x ∈ l, name x = k → l.filterMap pick = (pick x).toList) ∧
      (k ∉ l.map name → l.filterMap pick = []) := by
  induction l with
  | nil => exact ⟨fun x hx => absurd hx List.not_mem_nil, fun _ => rfl⟩
  | cons y rest ih =>
    rw [List.map_cons, List.nodup_cons] at hn
    obtain ⟨hone, hnone⟩ := ih hn.2
    constructor
    · intro x hx hxk
      rcases List.mem_cons.mp hx with rfl | hx
      · rw [List.filterMap_cons, hnone (hxk ▸ hn.1)]
        cases pick x <;> rfl
      · have hy : name y ≠ k := by
          rintro rfl
          exact hn.1 (hxk ▸ List.mem_map_of_mem hx)
        rw [List.filterMap_cons, hpick y hy]
        exact hone x hx hxk
    · intro hk
      rw [List.map_cons, List.mem_cons, not_or] at hk
      rw [List.filterMap_cons, hpick y (Ne.symm hk.1)]
      exact hnone hk.2

theorem filterMap_ite_name {α β : Type} {l : List α} (name : α → String) (hn : (l.map name).Nodup)
    (k : String) (b : β) : l.filterMap (fun x => if name x = k then some b else none) =
      if k ∈ l.map name then [b] else [] := by
  have hpick (x : α) (hne : name x ≠ k) : (if name x = k then some b else none) = none :=
    if_neg hne
  obtain ⟨hone, hnone⟩ := filterMap_of_name hn hpick
  split
  · next hk =>
    obtain ⟨x, hx, rfl⟩ := List.mem_map.mp hk
    rw [hone x hx rfl, if_pos rfl]
    rfl
  · next hk => exact hnone hk

/-- The clusters that are asked for are those of the calls. -/
theorem asked_mem_steps {H : Type} {calls : List (Call H)} {k : String} :
    .asked k ∈ calls.flatMap Call.steps ↔ k ∈ calls.map (·.1) := by
  have hstep (call : Call H) : call.step ≠ .asked k := by
    obtain ⟨c, f | x⟩ := call
    · cases hf : f.isCancelled <;> simp [Call.step, hf]
    · simp [Call.step]
  simp only [List.mem_flatMap, List.mem_map, Call.steps, List.mem_cons, List.not_mem_nil, or_false,
    Step.asked.injEq, (hstep _).symm]
  exact exists_congr fun call => and_congr_right fun _ => eq_comm

namespace Course

variable {sees : Bool} {c : Course} {o : Occasion} {k : String}

/-- A cycle whose listing fails does nothing to any cluster. -/
theorem deeds_of_error {fault : CommandFailure} (hs : o.Sees c.stage)
    (hl : o.listing = .error fault) : o.deeds k (c.progress o).steps = [] := by
  rw [progress_of_error hs hl]
  rfl

section Followed

variable {names : List String}
  (h : Followed o.surroundings (.ofList names) ⟨c.stage, c.roster, []⟩ (c.calls o) true
    (c.progress o))

include h

theorem mem_calls_iff : k ∈ (c.calls o).map (·.1) ↔ k ∈ names ∧ k ∉ c.roster.instances := by
  rw [(h.whole rfl).1, Roster.mem_missing, mem_listed]

theorem asked_iff : .asked k ∈ (c.progress o).steps ↔ k ∈ names ∧ k ∉ c.roster.instances := by
  rw [← mem_calls_iff h, h.steps, ← asked_mem_steps]
  simp [Roster.closing]

/-- The creations that a complete cycle asks for. -/
theorem deeds_of_calls : o.deeds k ((c.calls o).flatMap Call.steps) =
    if k ∈ names ∧ k ∉ c.roster.instances then [.ofAttempt (o.attempt k)] else [] := by
  have hsteps : o.deeds k ((c.calls o).flatMap Call.steps) =
      (c.calls o).filterMap fun call => o.deed? k call.step := by
    generalize c.calls o = calls
    induction calls with
    | nil => rfl
    | cons call rest ih =>
      simp only [Occasion.deeds, List.flatMap_cons, List.filterMap_append] at ih ⊢
      rw [ih, Call.steps, List.filterMap_cons, List.filterMap_cons, List.filterMap_cons]
      cases o.deed? k call.step <;> rfl
  have hpick (call : Call Token) (hne : call.1 ≠ k) : o.deed? k call.step = none := by
    obtain ⟨c, f | t⟩ := call
    · cases hf : f.isCancelled <;> simp [Call.step, hf, Occasion.deed?, hne]
    · simp [Call.step, Occasion.deed?, hne]
  obtain ⟨hone, hnone⟩ := filterMap_of_name (k := k) h.nodup hpick
  rw [hsteps]
  split
  · next hk =>
    obtain ⟨⟨c', answer⟩, hcall, rfl⟩ := List.mem_map.mp ((mem_calls_iff h).mpr hk)
    have hfailure := failure_of_call hcall
    have hwhole := (h.whole rfl).2 _ hcall
    rw [hone _ hcall rfl]
    cases answer with
    | ok t => simp [Call.step, Occasion.deed?, Deed.ofAttempt, hfailure, Call.failure?]
    | error f =>
      have hreal : f.isCancelled = false := hwhole
      simp [Call.step, Occasion.deed?, Deed.ofAttempt, hfailure, Call.failure?, hreal]
  · next hk => exact hnone fun hm => hk ((mem_calls_iff h).mp hm)

/-- What the end of a complete cycle does to a cluster. -/
theorem deeds_of_closing :
    o.deeds k (((c.calls o).foldl Roster.answer c.roster).closing (.ofList names)) =
      (if k ∈ c.roster.instances ∧ k ∉ names then [.stopped] else []) ++
        if k ∈ c.roster.failed ∧ k ∉ names then [.forgotten] else [] := by
  have hstale := h.mem_stale_map (k := k)
  have hvanished := h.mem_vanished (k := k)
  rw [mem_listed] at hstale hvanished
  generalize (c.calls o).foldl Roster.answer c.roster = r at hstale hvanished ⊢
  have hstopped := filterMap_ite_name (fun x : String × Token => x.1)
    (nodup_of_ascending (r.stale_ascending (.ofList names))) k Deed.stopped
  have hforgotten := filterMap_ite_name (fun x : String => x)
    (by simpa using nodup_of_ascending (r.vanished_ascending (.ofList names))) k Deed.forgotten
  simp only [hstale] at hstopped
  simp only [List.map_id', hvanished] at hforgotten
  rw [← hstopped, ← hforgotten]
  simp [Occasion.deeds, Roster.closing, List.filterMap_map, Function.comp_def, Occasion.deed?]

/-- What a complete cycle does to a cluster is due to how it found the cluster. -/
theorem deeds_of_followed : o.deeds k (c.progress o).steps =
    (View.of sees k c.stage c.roster).due (decide (k ∈ names)) (o.attempt k) := by
  have hsteps : (c.progress o).steps = .discovered (ExtTreeSet.ofList names).toList ::
      ((c.calls o).flatMap Call.steps ++
        ((c.calls o).foldl Roster.answer c.roster).closing (.ofList names)) := h.steps
  have hdeeds : o.deeds k (c.progress o).steps = o.deeds k ((c.calls o).flatMap Call.steps) ++
      o.deeds k (((c.calls o).foldl Roster.answer c.roster).closing (.ofList names)) := by
    rw [hsteps, Occasion.deeds, List.filterMap_cons, List.filterMap_append]
    rfl
  rw [hdeeds, deeds_of_calls h, deeds_of_closing h]
  by_cases hk : k ∈ names <;> by_cases hm : k ∈ c.roster.instances <;>
    simp [View.due, View.managed_iff, View.failed_iff, hk, hm]

end Followed

/-! ## Twins -/

section

variable (k : String) (c : Course) (o : Occasion) (c' : Course) (o' : Occasion)

/-- Two cycles meet the same as far as one cluster is concerned. -/
structure SameOccasion : Prop where
  /-- The listing fails in both of them or in none. -/
  fails : (∃ fault, o.listing = .error fault) ↔ ∃ fault, o'.listing = .error fault
  /-- It has the cluster in both of them or in none. -/
  lists : ∀ names names', o.listing = .ok names → o'.listing = .ok names' →
    (k ∈ names ↔ k ∈ names')
  /-- If both ask for an instance, the creation comes out the same. -/
  attempts : .asked k ∈ (c.progress o).steps → .asked k ∈ (c'.progress o').steps →
    (o.attempt k).writes = (o'.attempt k).writes ∧
      (o.attempt k).failure.isSome = (o'.attempt k).failure.isSome
  /-- The same goes on for the cluster, each time when as much has happened to it. -/
  besides : marks 0 (o.sights k (c.progress o).steps) = marks 0 (o'.sights k (c'.progress o').steps)

end

/-- Two courses in which no cycle is interrupted and which meet the same as far as one cluster is
concerned.  What goes on between cycles for other clusters may be different. -/
inductive Twins (k : String) : List Turn → List Turn → Prop where
  | start : Twins k [] []
  | cycle {turns turns' : List Turn} {o o' : Occasion} (before : Twins k turns turns')
      (whole : ¬ (run turns).Interrupted o) (whole' : ¬ (run turns').Interrupted o')
      (same : SameOccasion k (run turns) o (run turns') o') :
      Twins k (turns ++ [.cycle o]) (turns' ++ [.cycle o'])
  | aside {turns turns' : List Turn} (before : Twins k turns turns') (a : Aside) :
      Twins k (turns ++ [.aside a]) (turns' ++ [.aside a])
  | left {turns turns' : List Turn} (before : Twins k turns turns') (a : Aside)
      (other : a.touches k = false) : Twins k (turns ++ [.aside a]) turns'
  | right {turns turns' : List Turn} (before : Twins k turns turns') (a : Aside)
      (other : a.touches k = false) : Twins k turns (turns' ++ [.aside a])

/-- Two cycles report the same of a cluster. -/
structure SameReport (k : String) (e e' : Episode) : Prop where
  started : k ∈ (Report.ofSteps e.steps).started ↔ k ∈ (Report.ofSteps e'.steps).started
  failed : k ∈ (Report.ofSteps e.steps).failed ↔ k ∈ (Report.ofSteps e'.steps).failed
  stopped : k ∈ (Report.ofSteps e.steps).stopped ↔ k ∈ (Report.ofSteps e'.steps).stopped

/-- Two courses agree on a cluster. -/
structure SameCluster (k : String) (c c' : Course) : Prop where
  /-- There were as many cycles, and one by one they have reported the same. -/
  reports : List.Forall₂ (SameReport k) c.episodes c'.episodes
  managed : k ∈ c.roster.instances ↔ k ∈ c'.roster.instances
  failed : k ∈ c.roster.failed ↔ k ∈ c'.roster.failed
  /-- An instance was asked of the factory as often. -/
  created : c.stage.created.count k = c'.stage.created.count k
  /-- The token of its instance is cancelled in both of them or in none. -/
  token : c.roster.instances[k]?.map c.stage.cancellation.isCancelled =
    c'.roster.instances[k]?.map c'.stage.cancellation.isCancelled
  /-- So is that of its newest instance, which may have been stopped. -/
  newest : (c.stage.newest? k).map c.stage.cancellation.isCancelled =
    (c'.stage.newest? k).map c'.stage.cancellation.isCancelled
  /-- So are those of all instances that were ever asked for, one by one. -/
  sinks : (c.stage.sinksOf k).map (·.isLive c.stage.cancellation) =
    (c'.stage.sinksOf k).map (·.isLive c'.stage.cancellation)
  /-- As many failed launches are exported. -/
  failures : ∀ s : Metrics.Sample, ("cluster", k) ∈ s.labels →
    (s ∈ c.stage.store.samplesOf "fleet_launch_failures_total" ↔
      s ∈ c'.stage.store.samplesOf "fleet_launch_failures_total")

/-- Two courses export the same samples that are labelled with a cluster. -/
def SameSamples (k : String) (c c' : Course) : Prop :=
  ∀ (name : String) (s : Metrics.Sample), ("cluster", k) ∈ s.labels →
    (s ∈ c.stage.store.samplesOf name ↔ s ∈ c'.stage.store.samplesOf name)

/-! ## One cycle of twins -/

theorem sees_of_uninterrupted (h : ¬ c.Interrupted o) : o.Sees c.stage :=
  not_not.mp fun hs => h (Or.inl hs)

/-- The same happens to the cluster in both cycles. -/
theorem deeds_eq {c' : Course} {o' : Occasion} (h : SameOccasion k c o c' o')
    (hview : View.of sees k c.stage c.roster = View.of sees k c'.stage c'.roster)
    (hi : ¬ c.Interrupted o) (hi' : ¬ c'.Interrupted o') :
    o.deeds k (c.progress o).steps = o'.deeds k (c'.progress o').steps := by
  cases hl : o.listing with
  | error fault =>
    obtain ⟨fault', hl'⟩ := h.fails.mp ⟨fault, hl⟩
    rw [deeds_of_error (sees_of_uninterrupted hi) hl, deeds_of_error (sees_of_uninterrupted hi') hl']
  | ok names =>
    cases hl' : o'.listing with
    | error fault' =>
      obtain ⟨fault, he⟩ := h.fails.mpr ⟨fault', hl'⟩
      rw [hl] at he
      cases he
    | ok names' =>
      have hf := (followed_of_uninterrupted hi hl).2
      have hf' := (followed_of_uninterrupted hi' hl').2
      have hlists : k ∈ names ↔ k ∈ names' := h.lists names names' hl hl'
      have hmanaged : k ∈ c.roster.instances ↔ k ∈ c'.roster.instances :=
        View.managed_congr hview
      rw [deeds_of_followed hf, deeds_of_followed hf', ← hview, decide_eq_decide.mpr hlists]
      by_cases hk : k ∈ names ∧ k ∉ c.roster.instances
      · obtain ⟨hw, hfailure⟩ := h.attempts ((asked_iff hf).mpr hk)
          ((asked_iff hf').mpr (by rwa [← hlists, ← hmanaged]))
        have hattempt : Deed.ofAttempt (o.attempt k) = .ofAttempt (o'.attempt k) := by
          rw [Deed.ofAttempt, Deed.ofAttempt, hw, hfailure]
        rw [View.due, View.due, hattempt]
      · -- no instance is asked for, so it does not matter what would come of it
        have hnone : k ∉ names' ∨ (View.of sees k c.stage c.roster).managed = true := by
          by_cases hm : k ∈ c.roster.instances
          · exact Or.inr (View.managed_iff.mpr hm)
          · exact Or.inl fun hn => hk ⟨hlists.mpr hn, hm⟩
        rcases hnone with hn | hm
        · simp [View.due, hn]
        · simp [View.due, hm]

/-- So it sees the same. -/
theorem sights_eq {c' : Course} {o' : Occasion} (h : SameOccasion k c o c' o')
    (hview : View.of sees k c.stage c.roster = View.of sees k c'.stage c'.roster)
    (hi : ¬ c.Interrupted o) (hi' : ¬ c'.Interrupted o') :
    o.sights k (c.progress o).steps = o'.sights k (c'.progress o').steps := by
  refine sights_unique (n := 0) ?_ h.besides
  rw [o.filterMap_sights, o'.filterMap_sights]
  exact deeds_eq h hview hi hi'

/-- What is picked from the steps for the cluster is picked from what happened to it. -/
theorem picked_iff {pick : Step Token → Option String} {P : Deed → Prop}
    (hpick : ∀ step, pick step = some k ↔ ∃ deed, o.deed? k step = some deed ∧ P deed)
    (steps : List (Step Token)) :
    k ∈ steps.filterMap pick ↔ ∃ deed ∈ o.deeds k steps, P deed := by
  simp only [Occasion.deeds, List.mem_filterMap, hpick]
  constructor
  · rintro ⟨step, hs, deed, hd, hp⟩
    exact ⟨deed, ⟨step, hs, hd⟩, hp⟩
  · rintro ⟨deed, ⟨step, hs, hd⟩, hp⟩
    exact ⟨step, hs, deed, hd, hp⟩

variable (o) (k) in
/-- What is reported of a cluster is what happened to it. -/
theorem mem_report (steps : List (Step Token)) :
    (k ∈ (Report.ofSteps steps).started ↔
        ∃ deed ∈ o.deeds k steps, ∃ writes, deed = .launched writes) ∧
      (k ∈ (Report.ofSteps steps).failed ↔
        ∃ deed ∈ o.deeds k steps, ∃ writes, deed = .failed writes) ∧
      (k ∈ (Report.ofSteps steps).stopped ↔ ∃ deed ∈ o.deeds k steps, deed = .stopped) := by
  rw [Report.ofSteps_eq]
  refine ⟨picked_iff ?_ steps, picked_iff ?_ steps, picked_iff ?_ steps⟩
  all_goals
    intro step
    cases step <;>
      simp [Step.launched?, Step.launchFailed?, Step.stopped?, Occasion.deed?]

theorem sameReport_of_deeds {o' : Occasion} {e e' : Episode}
    (h : o.deeds k e.steps = o'.deeds k e'.steps) : SameReport k e e' := by
  obtain ⟨hstarted, hfailed, hstopped⟩ := mem_report o k e.steps
  obtain ⟨hstarted', hfailed', hstopped'⟩ := mem_report o' k e'.steps
  rw [h] at hstarted hfailed hstopped
  exact ⟨hstarted.trans hstarted'.symm, hfailed.trans hfailed'.symm,
    hstopped.trans hstopped'.symm⟩

/-! ## Whole courses -/

/-- Every course is surveyed for a cluster, if what it writes tells the cluster apart. -/
theorem surveyed {P : SeriesKey → Prop} {turns : List Turn} (hwrites : ∀ t ∈ turns, t.WritesIn P)
    (hclear : sees = true → SeriesKey.Clear P k) :
    Surveyed P sees k (run turns).stage (run turns).roster := by
  induction turns using List.reverseRecOn with
  | nil => exact ⟨settled [], .start, hclear⟩
  | append_singleton turns t ih =>
    rw [List.forall_mem_append] at hwrites
    have h := ih hwrites.1
    have ht : t.WritesIn P := hwrites.2 t List.mem_cons_self
    rw [run_concat]
    cases t with
    | cycle o => exact (view_cycle h ht).1
    | aside a => exact h.aside ht

/-- Twins look the same to the cluster, and have reported the same of it. -/
theorem twins_view {P P' : SeriesKey → Prop} (hclear : sees = true → SeriesKey.Clear P k)
    (hclear' : sees = true → SeriesKey.Clear P' k) {turns turns' : List Turn}
    (h : Twins k turns turns') (hwrites : ∀ t ∈ turns, t.WritesIn P)
    (hwrites' : ∀ t ∈ turns', t.WritesIn P') :
    View.of sees k (run turns).stage (run turns).roster =
        View.of sees k (run turns').stage (run turns').roster ∧
      List.Forall₂ (SameReport k) (run turns).episodes (run turns').episodes := by
  induction h with
  | start => exact ⟨rfl, .nil⟩
  | @cycle turns turns' o o' before whole whole' same ih =>
    rw [List.forall_mem_append, List.forall_mem_singleton] at hwrites hwrites'
    obtain ⟨hview, hreports⟩ := ih hwrites.1 hwrites'.1
    rw [run_concat, run_concat]
    constructor
    · refine (view_cycle (surveyed hwrites.1 hclear) hwrites.2).2.trans ?_
      rw [sights_eq same hview whole whole', hview]
      exact (view_cycle (surveyed hwrites'.1 hclear') hwrites'.2).2.symm
    · refine List.rel_append hreports (.cons ?_ .nil)
      exact sameReport_of_deeds (deeds_eq same hview whole whole')
  | @aside turns turns' before a ih =>
    rw [List.forall_mem_append, List.forall_mem_singleton] at hwrites hwrites'
    obtain ⟨hview, hreports⟩ := ih hwrites.1 hwrites'.1
    rw [run_concat, run_concat]
    refine ⟨?_, hreports⟩
    refine (View.of_aside (surveyed hwrites.1 hclear) hwrites.2).trans ?_
    rw [hview]
    exact (View.of_aside (surveyed hwrites'.1 hclear') hwrites'.2).symm
  | @left turns turns' before a other ih =>
    rw [List.forall_mem_append, List.forall_mem_singleton] at hwrites
    obtain ⟨hview, hreports⟩ := ih hwrites.1 hwrites'
    rw [run_concat]
    refine ⟨?_, hreports⟩
    refine ((View.of_aside (surveyed hwrites.1 hclear) hwrites.2).trans ?_).trans hview
    rw [other]
    rfl
  | @right turns turns' before a other ih =>
    rw [List.forall_mem_append, List.forall_mem_singleton] at hwrites'
    obtain ⟨hview, hreports⟩ := ih hwrites hwrites'.1
    rw [run_concat]
    refine ⟨?_, hreports⟩
    refine hview.trans ((View.of_aside (surveyed hwrites'.1 hclear') hwrites'.2).trans ?_).symm
    rw [other]
    rfl

theorem sameCluster_of_view {c c' : Course} (hs : Settled c.stage c.roster)
    (hs' : Settled c'.stage c'.roster)
    (hview : View.of sees k c.stage c.roster = View.of sees k c'.stage c'.roster)
    (hreports : List.Forall₂ (SameReport k) c.episodes c'.episodes) : SameCluster k c c' := by
  have hmanaged : k ∈ c.roster.instances ↔ k ∈ c'.roster.instances := View.managed_congr hview
  exact {
    reports := hreports
    managed := hmanaged
    failed := View.failed_congr hview
    created := congrArg View.asked hview
    token := by
      cases ht : c.roster.instances[k]? with
      | none =>
        have hnone : k ∉ c'.roster.instances := by
          rw [← hmanaged, Roster.mem_instances_iff, ht]
          simp
        rw [ExtTreeMap.getElem?_eq_none hnone]
        rfl
      | some t =>
        obtain ⟨t', ht'⟩ := (c'.roster.mem_instances_iff).mp
          (hmanaged.mp (c.roster.mem_instances_iff.mpr ⟨t, ht⟩))
        rw [ht', Option.map_some, Option.map_some, hs.isCancelled_managed ht,
          hs'.isCancelled_managed ht']
        exact congrArg some (congrArg View.fired hview)
    newest := congrArg View.current hview
    sinks := congrArg View.live hview
    failures := fun _ hs =>
      Metrics.Store.mem_failures_congr (congrArg View.failures hview) hs }

theorem same_of_twins {turns turns' : List Turn} (h : Twins k turns turns') :
    SameCluster k (run turns) (run turns') := by
  -- all that is written is among all labels there are
  have hclear : false = true → SeriesKey.Clear (fun _ => True) k := nofun
  obtain ⟨hview, hreports⟩ := twins_view hclear hclear h (fun t _ => t.writesIn_true)
    (fun t _ => t.writesIn_true)
  exact sameCluster_of_view (settled turns) (settled turns') hview hreports

theorem sameSamples_of_twins {turns turns' : List Turn} (h : Twins k turns turns')
    (hapart : ToldApart k turns) (hapart' : ToldApart k turns') :
    SameSamples k (run turns) (run turns') := by
  obtain ⟨P, hclear, hwrites⟩ := hapart
  obtain ⟨P', hclear', hwrites'⟩ := hapart'
  have hsees : true = true → SeriesKey.Clear P k := fun _ => hclear
  obtain ⟨hview, -⟩ := twins_view hsees (fun _ => hclear') h hwrites hwrites'
  have hseries : some ((run turns).stage.store.seriesOf k) =
      some ((run turns').stage.store.seriesOf k) := congrArg View.series hview
  exact fun name s hs => Metrics.Store.mem_samplesOf_congr (Option.some.inj hseries) hs

/-- A turn among some turns and one more is the last one or one of the others. -/
theorem split_concat {turns before after : List Turn} {t u : Turn}
    (h : turns ++ [t] = before ++ u :: after) :
    (turns = before ∧ t = u ∧ after = []) ∨
      ∃ rest, after = rest ++ [t] ∧ turns = before ++ u :: rest := by
  rcases List.eq_nil_or_concat after with rfl | ⟨rest, last, rfl⟩
  · obtain ⟨rfl, hlast⟩ := List.append_inj' h rfl
    exact Or.inl ⟨rfl, List.singleton_injective hlast, rfl⟩
  · rw [List.concat_eq_append, ← List.cons_append, ← List.append_assoc] at h
    obtain ⟨hturns, hlast⟩ := List.append_inj' h rfl
    obtain rfl : t = last := List.singleton_injective hlast
    exact Or.inr ⟨rest, by rw [List.concat_eq_append], hturns⟩

/-- A cycle of one twin has its pair in the other. -/
theorem Twins.pair {turns turns' : List Turn} (h : Twins k turns turns') {before after : List Turn}
    {o : Occasion} (hsplit : turns = before ++ .cycle o :: after) :
    ∃ before' o' after', turns' = before' ++ .cycle o' :: after' ∧
      Twins k (before ++ [.cycle o]) (before' ++ [.cycle o']) := by
  induction h generalizing after with
  | start => simp at hsplit
  | @cycle turns turns' o₁ o₁' hbefore whole whole' same ih =>
    rcases split_concat hsplit with ⟨rfl, he, -⟩ | ⟨rest, -, hturns⟩
    · cases he
      exact ⟨turns', o₁', [], rfl, .cycle hbefore whole whole' same⟩
    · obtain ⟨before', o', after', rfl, hpair⟩ := ih hturns
      exact ⟨before', o', after' ++ [.cycle o₁'], by simp, hpair⟩
  | @aside turns turns' hbefore a ih =>
    rcases split_concat hsplit with ⟨-, he, -⟩ | ⟨rest, -, hturns⟩
    · cases he
    · obtain ⟨before', o', after', rfl, hpair⟩ := ih hturns
      exact ⟨before', o', after' ++ [.aside a], by simp, hpair⟩
  | @left turns turns' hbefore a other ih =>
    rcases split_concat hsplit with ⟨-, he, -⟩ | ⟨rest, -, hturns⟩
    · cases he
    · exact ih hturns
  | @right turns turns' hbefore a other ih =>
    obtain ⟨before', o', after', rfl, hpair⟩ := ih hsplit
    exact ⟨before', o', after' ++ [.aside a], by simp, hpair⟩

/-- If two courses meet the same as far as one cluster is concerned, then after every cycle, and also
between cycles, they agree on the cluster, whatever they meet of others.  They also export the same
samples of it, as long as its labels are told apart in both of them. -/
theorem isolated {turns turns' : List Turn} (h : Twins k turns turns') :
    SameCluster k (run turns) (run turns') ∧
      (ToldApart k turns → ToldApart k turns' → SameSamples k (run turns) (run turns')) ∧
      ∀ before o after, turns = before ++ .cycle o :: after →
        ∃ before' o' after', turns' = before' ++ .cycle o' :: after' ∧
          SameCluster k ((run before).cycle o) ((run before').cycle o') ∧
          (ToldApart k (before ++ [.cycle o]) → ToldApart k (before' ++ [.cycle o']) →
            SameSamples k ((run before).cycle o) ((run before').cycle o')) := by
  refine ⟨same_of_twins h, sameSamples_of_twins h, fun before o after hsplit => ?_⟩
  obtain ⟨before', o', after', hsplit', hpair⟩ := h.pair hsplit
  have hsame := same_of_twins hpair
  have hsamples := sameSamples_of_twins hpair
  rw [run_concat, run_concat] at hsame hsamples
  exact ⟨before', o', after', hsplit', hsame, hsamples⟩

/-- An occasion on which some clusters are listed of which one cannot be launched. -/
def sharing (names : List String) (lost : String) (asides : Step Token → List Aside) : Occasion where
  listing := .ok names
  attempt c := { failure := if c = lost then some (.noWorkingClient c) else none }
  asides

/-- In one course `b` comes after `a`, in the other one before `c`, and these cannot be launched.
The controllers of `b` write in both. -/
theorem isolated_trial :
    let o := sharing ["a", "b"] "a" fun
      | .launched _ _ => [.write "a" 0 (.sync "node"), .write "b" 0 (.objects "node" 3)]
      | _ => []
    let o' := sharing ["c", "b"] "c" fun
      | .asked "c" => [.write "b" 0 (.objects "node" 3)]
      | _ => []
    let write := Aside.write "b" 0 (.sync "node")
    let c := run [.cycle o, .aside (.write "a" 0 (.sync "node")), .aside write]
    let c' := run [.cycle o', .aside write]
    SameCluster "b" c c' ∧ SameSamples "b" c c' ∧
      SameCluster "b" ((run []).cycle o) ((run []).cycle o') ∧
      c.roster.failed.toList = ["a"] ∧ c'.roster.failed.toList = ["c"] ∧
      c.stage.store.samplesOf "fleet_controller_objects" =
        [⟨[("cluster", "b"), ("controller", "node")], 3⟩] := by
  intro o o' write c c'
  have hi : ¬ (run []).Interrupted o :=
    fun h => (interrupted_iff.mp h).1 (completes_iff.mpr (by decide +kernel))
  have hi' : ¬ (run []).Interrupted o' :=
    fun h => (interrupted_iff.mp h).1 (completes_iff.mpr (by decide +kernel))
  have same : SameOccasion "b" (run []) o (run []) o' := by
    refine ⟨by simp [o, o', sharing], ?_, fun _ _ => ⟨rfl, rfl⟩, by decide +kernel⟩
    rintro _ _ ⟨⟩ ⟨⟩
    decide
  have twins : Twins "b" [.cycle o, .aside (.write "a" 0 (.sync "node")), .aside write]
      [.cycle o', .aside write] :=
    .aside (.left (.cycle .start hi hi' same) _ rfl) write
  -- only one controller writes, so the text of its labels tells the cluster
  let P (key : SeriesKey) : Prop := key = ⟨"a", "node"⟩ ∨ key = ⟨"b", "node"⟩
  have hclear : SeriesKey.Clear P "b" := by
    rintro _ _ (rfl | rfl) (rfl | rfl) htext hcluster
    · exact hcluster
    · rfl
    · exact absurd htext (by decide +kernel)
    · rfl
  have ho : o.WritesIn P := by
    refine ⟨by simp [o, sharing], fun step a ha => ?_⟩
    cases step with
    | launched c t =>
      rcases List.mem_pair.mp ha with rfl | rfl
      · exact Or.inl rfl
      · exact Or.inr rfl
    | _ => cases ha
  have ho' : o'.WritesIn P := by
    refine ⟨by simp [o', sharing], fun step a ha => ?_⟩
    simp only [o', sharing] at ha
    split at ha
    · obtain rfl := List.mem_singleton.mp ha
      exact Or.inr rfl
    · cases ha
  have hapart : ToldApart "b" [.cycle o, .aside (.write "a" 0 (.sync "node")), .aside write] := by
    refine ⟨P, hclear, ?_⟩
    rw [List.forall_mem_cons, List.forall_mem_cons, List.forall_mem_singleton]
    exact ⟨ho, Or.inl rfl, Or.inr rfl⟩
  have hapart' : ToldApart "b" [.cycle o', .aside write] := by
    refine ⟨P, hclear, ?_⟩
    rw [List.forall_mem_cons, List.forall_mem_singleton]
    exact ⟨ho', Or.inr rfl⟩
  obtain ⟨hend, hsamples, hcycles⟩ := isolated twins
  obtain ⟨before', o'', after', hsplit, hfirst, -⟩ := hcycles [] o _ rfl
  have hpair : before' = [] ∧ o' = o'' := by
    rcases before' with _ | ⟨t, _ | ⟨t', rest⟩⟩
    · exact ⟨rfl, by cases hsplit; rfl⟩
    · cases hsplit
    · simp at hsplit
  obtain ⟨rfl, rfl⟩ := hpair
  exact ⟨hend, hsamples hapart hapart', hfirst, by decide +kernel, by decide +kernel,
    by decide +kernel⟩

end Course

end Flotilla.Fleet
