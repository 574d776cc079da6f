import Flotilla.Proofs.Fleet.Footprint

/-!
# What is seen of one cluster

A `View` is all that a stage and a roster show of one cluster: whether it is
managed and whether its last launch failed, how often an instance was asked for
and which of these can still write, whether the token of the newest instance is
cancelled, and its failed launches in the metrics.  A view that sees the series
has those too.  They are looked at where labels tell the cluster apart.

Of a cycle the cluster sees its own deeds and what goes on beside the cycle for
it.  These are its `Sight`s, and the view after a cycle follows from them and from
the view before it (`view_cycle`).  Whatever the other clusters do changes
nothing.
-/

namespace Flotilla.Fleet

open Std (ExtTreeMap ExtTreeSet)
open Instance (Attempt)
open Metrics (Series SeriesKey Write)

/-! ## Views and sights -/

/-- What there is to see of one cluster. -/
@[ext] structure View where
  /-- Whether it has an instance. -/
  managed : Bool
  /-- Whether its last launch failed. -/
  failed : Bool
  /-- How often an instance was asked of the factory. -/
  asked : Nat
  /-- Of each of these instances, whether its controllers can write. -/
  live : List Bool
  /-- Whether the token of the newest instance is cancelled, if there was an instance. -/
  current : Option Bool
  /-- Whether the token of the process has fired. -/
  fired : Bool
  /-- Its failed launches in the metrics. -/
  failures : Option Nat
  /-- What the metrics say of it, if they are looked at. -/
  series : Option Series

/-- What happens to one cluster in a cycle. -/
inductive Deed where
  /-- It gets an instance, whose controllers have written something. -/
  | launched (writes : List Write)
  /-- Its launch fails, and what was written before stays. -/
  | failed (writes : List Write)
  /-- Its launch is cut short. -/
  | abandoned
  /-- Its instance is stopped. -/
  | stopped
  /-- It never ran and is forgotten. -/
  | forgotten
deriving DecidableEq

/-- What one cluster sees of a cycle. -/
inductive Sight where
  /-- Something happens to it. -/
  | own (deed : Deed)
  /-- Something goes on beside the cycle. -/
  | beside (a : Aside)

/-- Whether something that goes on is a matter of a cluster. -/
def Aside.touches (k : String) : Aside → Bool
  | .write cluster _ _ => cluster == k
  | .shutDown => true

namespace Occasion

variable (o : Occasion) (k : String)

/-- What a step does to a cluster. -/
def deed? : Step Token → Option Deed
  | .launched c _ => if c = k then some (.launched (o.attempt k).writes) else none
  | .launchFailed c _ => if c = k then some (.failed (o.attempt k).writes) else none
  | .abandoned c => if c = k then some .abandoned else none
  | .stopped c _ => if c = k then some .stopped else none
  | .forgotten c => if c = k then some .forgotten else none
  | _ => none

/-- What goes on for a cluster after a step. -/
def besides (step : Step Token) : List Aside := (o.asides step).filter (Aside.touches k)

/-- What a cluster sees of some steps. -/
def sights (steps : List (Step Token)) : List Sight :=
  steps.flatMap fun step => ((o.deed? k step).toList.map .own) ++ (o.besides k step).map .beside

theorem sights_concat (steps : List (Step Token)) (step : Step Token) :
    o.sights k (steps ++ [step]) = o.sights k steps ++
      ((o.deed? k step).toList.map .own ++ (o.besides k step).map .beside) := by
  simp [sights]

end Occasion

namespace View

/-- The series of a cluster, if they are looked at. -/
def seriesIn (sees : Bool) (k : String) (m : Metrics.Store) : Option Series :=
  if sees then some (m.seriesOf k) else none

/-- What is seen of a cluster, with its series or without them. -/
def of (sees : Bool) (k : String) (s : Stage) (r : Roster Token) : View where
  managed := r.instances.contains k
  failed := r.failed.contains k
  asked := s.created.count k
  live := (s.sinksOf k).map fun sink => sink.isLive s.cancellation
  current := (s.newest? k).map s.cancellation.isCancelled
  fired := s.fired
  failures := s.store.launchFailures[k]?
  series := seriesIn sees k s.store

variable {sees : Bool} {k : String} {s s' : Stage} {r r' : Roster Token}

theorem managed_iff :
    (of sees k s r).managed = true ↔ k ∈ r.instances := ExtTreeMap.contains_iff_mem

theorem failed_iff :
    (of sees k s r).failed = true ↔ k ∈ r.failed := ExtTreeSet.contains_iff_mem

theorem managed_congr (h : of sees k s r = of sees k s' r') :
    k ∈ r.instances ↔ k ∈ r'.instances :=
  managed_iff.symm.trans ((Bool.eq_iff_iff.mp (congrArg View.managed h)).trans managed_iff)

theorem failed_congr (h : of sees k s r = of sees k s' r') : k ∈ r.failed ↔ k ∈ r'.failed :=
  failed_iff.symm.trans ((Bool.eq_iff_iff.mp (congrArg View.failed h)).trans failed_iff)

/-- What is done to the series is done to them if they are looked at. -/
theorem seriesIn_eq_map {m m' : Metrics.Store} (f : Series → Series)
    (h : sees = true → m'.seriesOf k = f (m.seriesOf k)) :
    seriesIn sees k m' = (seriesIn sees k m).map f := by
  cases sees with
  | false => rfl
  | true => exact congrArg some (h rfl)

theorem seriesIn_congr {m m' : Metrics.Store}
    (h : sees = true → m'.seriesOf k = m.seriesOf k) : seriesIn sees k m' = seriesIn sees k m := by
  cases sees with
  | false => rfl
  | true => exact congrArg some (h rfl)

/-! ## Changes -/

/-- No instance that was begun can write any more. -/
def silence (v : View) : View := { v with live := v.live.map fun _ => false }

/-- The token of the newest instance is cancelled. -/
def cancel (v : View) : View := { v with current := v.current.map fun _ => true }

/-- Sinks that were there before are silenced when none of them can write. -/
theorem live_of_dead (hsinks : s'.sinksOf k = s.sinksOf k)
    (hdead : ∀ sink ∈ s'.sinksOf k, sink.isLive s'.cancellation = false) :
    (of sees k s' r').live = (of sees k s r).silence.live :=
  calc (s'.sinksOf k).map (fun sink => sink.isLive s'.cancellation)
      = (s'.sinksOf k).map fun _ => false := List.map_congr_left hdead
    _ = (s.sinksOf k).map fun _ => false := by rw [hsinks]
    _ = ((s.sinksOf k).map fun sink => sink.isLive s.cancellation).map fun _ => false := by
      rw [List.map_map]
      rfl

theorem current_of_cancelled (hnewest : s'.newest? k = s.newest? k)
    (hcancelled : ∀ t, s'.newest? k = some t → s'.cancellation.isCancelled t = true) :
    (of sees k s' r').current = (of sees k s r).cancel.current :=
  calc (s'.newest? k).map s'.cancellation.isCancelled
      = (s'.newest? k).map fun _ => true := Option.map_congr hcancelled
    _ = (s.newest? k).map fun _ => true := by rw [hnewest]
    _ = ((s.newest? k).map s.cancellation.isCancelled).map fun _ => true := by
      rw [Option.map_map]
      rfl

/-- An instance was begun, and its controllers have written something. -/
def build (v : View) (writes : List Write) : View :=
  { v with
    asked := v.asked + 1
    live := v.live ++ [!v.fired]
    series := if v.fired then v.series else v.series.map (writes.foldl Series.write) }

/-- Something has happened to the cluster. -/
def act (v : View) : Deed → View
  | .launched writes =>
    { v.build writes with managed := true, failed := false, current := some v.fired }
  | .failed writes =>
    let w := (v.build writes).silence
    { w with
      failed := true
      failures := some (w.failures.getD 0 + 1)
      series := w.series.map Series.fail }
  | .abandoned => (v.build []).silence
  | .stopped =>
    { v.silence.cancel with managed := false, failures := none, series := v.series.map fun _ => {} }
  | .forgotten => { v with failed := false, failures := none, series := v.series.map fun _ => {} }

/-- Something has gone on. -/
def aside (v : View) : Aside → View
  | .write _ place write =>
    if v.live[place]? = some true then { v with series := v.series.map (·.write write) } else v
  | .shutDown => { v.silence.cancel with fired := true }

/-- The cluster has seen something. -/
def see (v : View) : Sight → View
  | .own deed => v.act deed
  | .beside a => v.aside a

variable {P : SeriesKey → Prop} {k : String} {s : Stage} {r : Roster Token}

/-! ## What changes nothing for the cluster -/

/-- A step that changes no labelled series. -/
theorem of_note (sees : Bool) (k : String) (s : Stage) (r : Roster Token) {step : Step Token}
    (hp : step.isPlain = true) : of sees k (s.note step) r = of sees k s r := by
  cases step with
  | launchFailed c f => cases hp
  | stopped c t => cases hp
  | forgotten c => cases hp
  | _ => rfl

/-- A token is fired that has nothing to do with the process or with an instance of the cluster. -/
theorem of_fire (h : Settled s r) {t : Token} (hprocess : t.number ∉ s.process.path)
    (hother : ∀ u, (k, u) ∈ s.instances → t.number ∉ u.path) :
    of sees k (s.fire t) r = of sees k s r := by
  have hlive : ∀ sink ∈ s.sinksOf k,
      sink.isLive (s.fire t).cancellation = sink.isLive s.cancellation := by
    intro sink hsink
    obtain ⟨hs, hcluster⟩ := List.mem_filter.mp hsink
    cases hl : sink.isLive s.cancellation with
    | false =>
      rw [Bool.eq_false_iff] at hl ⊢
      exact fun hlive => hl (isLive_of_fire hlive)
    | true =>
      obtain ⟨u, he, hu⟩ := h.live_mem hs hl
      rw [beq_iff_eq.mp hcluster] at he hu
      rw [he] at hl ⊢
      have hkept : (s.fire t).cancellation.isCancelled u = s.cancellation.isCancelled u :=
        Cancellation.isCancelled_fire_of_not_mem (hother u hu)
      simp only [Metrics.Sink.isLive, Bool.not_eq_true'] at hl ⊢
      exact hkept.trans hl
  ext1
  case live => exact List.map_congr_left hlive
  case current =>
    refine Option.map_congr fun u hu => ?_
    exact Cancellation.isCancelled_fire_of_not_mem (hother u (Stage.newest?_mem hu))
  case fired => exact Cancellation.isCancelled_fire_of_not_mem hprocess
  all_goals rfl

/-! ## Creations -/

section Build

variable (c : String) (a : Attempt)

theorem sinksOf_build (k : String) (s : Stage) : (s.build c a).2.sinksOf k =
    s.sinksOf k ++ if c = k then [⟨c, some (s.build c a).1⟩] else [] := by
  by_cases hc : c = k <;> simp [Stage.sinksOf, hc]

theorem count_created_build (k : String) (s : Stage) : (s.build c a).2.created.count k =
    s.created.count k + if c = k then 1 else 0 := by
  rw [show (s.build c a).2.created = s.created ++ [c] from rfl, List.count_append,
    List.count_singleton]
  simp only [beq_iff_eq]

theorem launchFailures_build (s : Stage) :
    (s.build c a).2.store.launchFailures = s.store.launchFailures :=
  Metrics.Store.launchFailures_writes _ _ a.writes s.store

variable {c a}

theorem seriesOf_build (h : s.store.Parted P k) (ha : ∀ w ∈ a.writes, P (w.key c)) :
    (s.build c a).2.store.seriesOf k =
      if c = k ∧ (!(s.build c a).2.cancellation.isCancelled (s.build c a).1) = true then
        a.writes.foldl Series.write (s.store.seriesOf k)
      else s.store.seriesOf k :=
  h.seriesOf_writes (s.begin c).1 (s.begin c).2.2.cancellation ha

/-- A token that was built is cancelled if the process is shut down. -/
theorem isCancelled_build (h : Settled s r) :
    (s.build c a).2.cancellation.isCancelled (s.build c a).1 = s.fired := by
  have hfresh : (s.cancellation.child s.process).1.number ∉ (s.build c a).2.cancellation.fired :=
    fun hm => Nat.lt_irrefl _ (h.sound.fired_lt _ hm)
  exact Cancellation.isCancelled_child_eq _ hfresh

/-- The token of an instance or of the process is none that is built. -/
theorem build_not_mem_path (h : Settled s r) :
    (s.build c a).1.number ∉ s.process.path ∧
      ∀ u, (k, u) ∈ s.instances → (s.build c a).1.number ∉ u.path := by
  have hnew : s.process.number < (s.build c a).1.number := h.sound.process_lt
  refine ⟨h.sound.not_mem_process hnew, fun u hu => h.sound.not_mem_path hu hnew ?_⟩
  exact Nat.ne_of_gt (h.sound.descends _ hu).2.2

theorem of_build (h : Surveyed P sees k s r) (ha : ∀ w ∈ a.writes, P (w.key c)) :
    of sees k (s.build c a).2 r =
      if c = k then (of sees k s r).build a.writes else of sees k s r := by
  have hcancelled := isCancelled_build (c := c) (a := a) h.settled
  have hseries (hsees : sees = true) := seriesOf_build (h.parted hsees) ha
  rw [hcancelled] at hseries
  by_cases hc : c = k
  · subst hc
    rw [if_pos rfl]
    ext1
    case asked => exact (count_created_build c a c s).trans (by rw [if_pos rfl]; rfl)
    case live =>
      have hnew : Metrics.Sink.isLive (s.build c a).2.cancellation ⟨c, some (s.build c a).1⟩ =
          !s.fired := by rw [← hcancelled]; rfl
      simp only [of, build, sinksOf_build, if_true, List.map_append, List.map_singleton, hnew]
      rfl
    case failures => exact congrArg (·[c]?) (launchFailures_build c a s)
    case series =>
      show _ = if s.fired = true then _ else _
      cases hf : s.fired with
      | true => exact seriesIn_congr fun hsees => (hseries hsees).trans (if_neg (by simp [hf]))
      | false =>
        exact seriesIn_eq_map _ fun hsees => (hseries hsees).trans (if_pos ⟨rfl, by simp [hf]⟩)
    all_goals rfl
  · rw [if_neg hc]
    ext1
    case asked => exact (count_created_build c a k s).trans (by rw [if_neg hc]; rfl)
    case live => simp only [of, sinksOf_build, if_neg hc, List.append_nil]; rfl
    case failures => exact congrArg (·[k]?) (launchFailures_build c a s)
    case series =>
      exact seriesIn_congr fun hsees => (hseries hsees).trans (if_neg fun hand => hc hand.1)
    all_goals rfl

theorem of_launch (h : Surveyed P sees k s r) (ha : ∀ w ∈ a.writes, P (w.key c)) :
    of sees k { (s.build c a).2 with instances := s.instances ++ [(c, (s.build c a).1)] }
        (r.launch c (s.build c a).1) =
      if c = k then (of sees k s r).act (.launched a.writes) else of sees k s r := by
  have hb := of_build h ha
  have hnewest : (Stage.newest?
      { (s.build c a).2 with instances := s.instances ++ [(c, (s.build c a).1)] } k) =
        if c = k then some (s.build c a).1 else s.newest? k := by
    by_cases hc : c = k <;> simp [Stage.newest?, hc]
  by_cases hc : c = k
  · rw [if_pos hc] at hb hnewest
    rw [if_pos hc, act, ← hb]
    ext1
    case managed => simp [of, Roster.launch, hc]
    case failed => simp [of, Roster.launch, hc]
    case current =>
      refine (congrArg (Option.map _) hnewest).trans (congrArg some ?_)
      exact isCancelled_build h.settled
    all_goals rfl
  · rw [if_neg hc] at hb hnewest
    rw [if_neg hc, ← hb]
    ext1
    case managed => simp [of, Roster.launch, ExtTreeMap.contains_insert, hc]
    case failed => simp [of, Roster.launch, ExtTreeSet.contains_erase, hc]
    case current => exact congrArg (Option.map _) hnewest
    all_goals rfl

/-- Of a creation that failed nothing is left but the call and, in the metrics, what was written. -/
theorem of_lost (h : Surveyed P sees k s r) (hm : c ∉ r.instances)
    (ha : ∀ w ∈ a.writes, P (w.key c)) :
    of sees k ((s.build c a).2.fire (s.build c a).1) r =
      if c = k then ((of sees k s r).build a.writes).silence else of sees k s r := by
  have hb := of_build h ha
  obtain ⟨hprocess, hother⟩ := build_not_mem_path (c := c) (a := a) (k := k) h.settled
  by_cases hc : c = k
  · subst hc
    rw [if_pos rfl] at hb
    rw [if_pos rfl, ← hb]
    ext1
    case live =>
      have hdead : ∀ sink ∈ (s.build c a).2.sinksOf c,
          sink.isLive ((s.build c a).2.cancellation.fire (s.build c a).1) = false := by
        intro sink hsink
        obtain ⟨hs, hcluster⟩ := List.mem_filter.mp hsink
        rw [Bool.eq_false_iff]
        intro hl
        obtain ⟨t, -, ht⟩ := h.settled.covered.live_lost c a sink hs hl
        rw [beq_iff_eq.mp hcluster] at ht
        exact hm (r.mem_instances_iff.mpr ⟨t, ht⟩)
      exact live_of_dead rfl hdead
    case current =>
      refine Option.map_congr fun u hu => ?_
      exact Cancellation.isCancelled_fire_of_not_mem (hother u (Stage.newest?_mem (s := s) hu))
    case fired => exact Cancellation.isCancelled_fire_of_not_mem hprocess
    all_goals rfl
  · rw [if_neg hc] at hb ⊢
    have hsinks : (s.build c a).2.sinksOf k = s.sinksOf k := by
      rw [sinksOf_build, if_neg hc, List.append_nil]
    have hasked : (s.build c a).2.created.count k = s.created.count k := congrArg asked hb
    have hfailures : (s.build c a).2.store.launchFailures[k]? = s.store.launchFailures[k]? :=
      congrArg failures hb
    have hseries : seriesIn sees k (s.build c a).2.store = seriesIn sees k s.store :=
      congrArg series hb
    refine Eq.trans ?_ (of_fire h.settled hprocess hother)
    ext1
    case asked => exact hasked
    case live => exact congrArg (List.map _) hsinks
    case failures => exact hfailures
    case series => exact hseries
    all_goals rfl

/-- A launch that failed is counted too. -/
theorem of_fail (h : Surveyed P sees k s r) (hm : c ∉ r.instances)
    (ha : ∀ w ∈ a.writes, P (w.key c)) (f : ControllerFailure) :
    of sees k (((s.build c a).2.fire (s.build c a).1).note (.launchFailed c f)) (r.fail c) =
      if c = k then (of sees k s r).act (.failed a.writes) else of sees k s r := by
  have hlost := of_lost h hm ha
  have hseries := ((s.build c a).2.fire (s.build c a).1).store.seriesOf_countLaunchFailure c k
  have hfailures := congrArg Series.failures hseries
  by_cases hc : c = k
  · rw [if_pos hc] at hlost hseries hfailures ⊢
    rw [act, ← hlost]
    ext1
    case failed => simp [of, Roster.fail, hc]
    case failures => exact hfailures
    case series => exact seriesIn_eq_map Series.fail fun _ => hseries
    all_goals rfl
  · rw [if_neg hc] at hlost hseries hfailures ⊢
    rw [← hlost]
    ext1
    case failed => simp [of, Roster.fail, hc]
    case failures => exact hfailures
    case series => exact seriesIn_congr fun _ => hseries
    all_goals rfl

end Build

/-! ## Stops -/

theorem of_stop {c : String} {t : Token} (h : Surveyed P sees k s r)
    (ht : r.instances[c]? = some t) :
    of sees k (s.note (.stopped c t)) (r.stop c) =
      if c = k then (of sees k s r).act .stopped else of sees k s r := by
  have h' : Settled (s.note (.stopped c t)) (r.stop c) := h.settled.stop ht
  obtain ⟨steps, hc⟩ := h.settled.chronicle
  have hinstance : (c, t) ∈ s.instances := hc.managed c t ht
  obtain ⟨-, holder, -⟩ := h.settled.sound.descends _ hinstance
  have hprocess : t.number ∉ s.process.path := h.settled.sound.not_mem_process holder
  have hfailures := s.store.lookup_launchFailures_forget c k
  have hseries (hsees : sees = true) := (h.parted hsees).seriesOf_forget c
  by_cases hck : c = k
  · subst hck
    have hgone : c ∉ (r.stop c).instances := fun hm => (r.mem_instances_stop c c).mp hm |>.1 rfl
    simp only [if_true] at hseries hfailures ⊢
    ext1
    case managed => simp [of, Roster.stop, act]
    case live => exact live_of_dead rfl fun sink hs => h'.dead_of_unmanaged hgone hs
    case current =>
      exact current_of_cancelled (r := r) rfl fun u hu => h'.cancelled_of_unmanaged hgone hu
    case fired => exact Cancellation.isCancelled_fire_of_not_mem hprocess
    case failures => exact hfailures
    case series => exact seriesIn_eq_map _ hseries
    all_goals rfl
  · simp only [if_neg hck] at hseries hfailures ⊢
    -- the tokens of other instances have other numbers
    have hother (u : Token) (hu : (k, u) ∈ s.instances) : t.number ∉ u.path :=
      h.settled.sound.not_mem_path hu holder fun he =>
        hck (congrArg Prod.fst (h.settled.sound.unique hinstance hu he))
    refine Eq.trans ?_ (of_fire h.settled hprocess hother)
    ext1
    case managed => simp [of, Roster.stop, hck]
    case failures => exact hfailures
    case series => exact seriesIn_congr hseries
    all_goals rfl

theorem of_forget (h : Surveyed P sees k s r) (c : String) :
    of sees k (s.note (.forgotten c)) (r.forget c) =
      if c = k then (of sees k s r).act .forgotten else of sees k s r := by
  have hfailures := s.store.lookup_launchFailures_forget c k
  have hseries (hsees : sees = true) := (h.parted hsees).seriesOf_forget c
  by_cases hck : c = k
  · simp only [if_pos hck] at hseries hfailures ⊢
    ext1
    case failed => simp [of, Roster.forget, act, hck]
    case failures => exact hfailures
    case series => exact seriesIn_eq_map _ hseries
    all_goals rfl
  · simp only [if_neg hck] at hseries hfailures ⊢
    ext1
    case failed => simp [of, Roster.forget, hck]
    case failures => exact hfailures
    case series => exact seriesIn_congr hseries
    all_goals rfl

/-! ## What goes on beside the cycles -/

theorem of_aside (h : Surveyed P sees k s r) {a : Aside} (ha : a.WritesIn P) :
    of sees k (s.aside a) r = if a.touches k then (of sees k s r).aside a else of sees k s r := by
  cases a with
  | shutDown =>
    have h' : Settled s.shutDown r := h.settled.aside .shutDown
    have hfired : s.shutDown.fired = true :=
      Cancellation.isCancelled_fire.mpr (Or.inl List.mem_cons_self)
    rw [Aside.touches, if_pos rfl]
    ext1
    case live =>
      exact live_of_dead rfl fun sink hs => h'.dead_of_fired hfired (List.mem_of_mem_filter hs)
    case current =>
      exact current_of_cancelled (r := r) rfl fun u hu => h'.cancelled_of_fired hfired hu
    case fired => exact hfired
    all_goals rfl
  | write cluster place w =>
    have hplace : (of sees cluster s r).live[place]? =
        ((s.sinksOf cluster)[place]?).map (Metrics.Sink.isLive s.cancellation) :=
      List.getElem?_map ..
    simp only [Stage.aside, Aside.touches, beq_iff_eq]
    cases hsink : (s.sinksOf cluster)[place]? with
    | none =>
      rw [hsink] at hplace
      by_cases hc : cluster = k
      · subst hc
        simp [aside, hplace]
      · simp [hc]
    | some sink =>
      rw [hsink] at hplace
      have hcluster : sink.cluster = cluster :=
        beq_iff_eq.mp (List.mem_filter.mp (List.mem_of_getElem? hsink)).2
      have hfailures : (sink.write s.cancellation s.store w).launchFailures[k]? =
          s.store.launchFailures[k]? :=
        congrArg (·[k]?) (Metrics.Store.launchFailures_write sink s.cancellation w s.store)
      have hseries (hsees : sees = true) :=
        (h.parted hsees).seriesOf_write sink s.cancellation (w := w) (hcluster ▸ ha)
      rw [hcluster] at hseries
      by_cases hc : cluster = k
      · subst hc
        rw [Option.map_some] at hplace
        simp only [if_true, aside, hplace, Option.some.injEq]
        cases hl : sink.isLive s.cancellation with
        | false =>
          rw [if_neg Bool.false_ne_true]
          ext1
          case failures => exact hfailures
          case series =>
            exact seriesIn_congr fun hsees => (hseries hsees).trans (if_neg (by simp [hl]))
          all_goals rfl
        | true =>
          rw [if_pos rfl]
          ext1
          case failures => exact hfailures
          case series =>
            exact seriesIn_eq_map _ fun hsees => (hseries hsees).trans (if_pos ⟨rfl, hl⟩)
          all_goals rfl
      · rw [if_neg hc]
        ext1
        case failures => exact hfailures
        case series =>
          exact seriesIn_congr fun hsees => (hseries hsees).trans (if_neg fun hand => hc hand.1)
        all_goals rfl

/-- Of what goes on a cluster sees what touches it. -/
theorem of_asides (h : Surveyed P sees k s r) {asides : List Aside}
    (ha : ∀ a ∈ asides, a.WritesIn P) :
    of sees k (asides.foldl Stage.aside s) r =
      (asides.filter (Aside.touches k)).foldl aside (of sees k s r) := by
  induction asides generalizing s with
  | nil => rfl
  | cons a rest ih =>
    rw [List.forall_mem_cons] at ha
    rw [List.foldl_cons, ih (h.aside ha.1) ha.2, of_aside h ha.1, List.filter_cons]
    split <;> rfl

/-! ## Cycles -/

/-- After a step, and with what goes on then, the cluster has seen what it had seen and this. -/
theorem of_take {o : Occasion} {steps : List (Step Token)} {step : Step Token} {v w : View}
    (h : Surveyed P sees k (s.note step) r) (hasides : ∀ a ∈ o.asides step, a.WritesIn P)
    (hw : w = (o.sights k steps).foldl see v)
    (hstep : of sees k (s.note step) r = (o.deed? k step).elim w w.act) :
    of sees k (o.surroundings.note step s) r = (o.sights k (steps ++ [step])).foldl see v := by
  have hbesides (v : View) (l : List Aside) :
      (l.map Sight.beside).foldl see v = l.foldl aside v := by
    rw [List.foldl_map]
    rfl
  rw [show o.surroundings.note step s = (o.asides step).foldl Stage.aside (s.note step) from rfl,
    of_asides h hasides, hstep, o.sights_concat, List.foldl_append, ← hw, List.foldl_append, hbesides]
  cases o.deed? k step <;> rfl

/-- A move shows the cluster what its steps do to it, and what goes on for it. -/
theorem move {o : Occasion} {listed : ExtTreeSet String} {p q : Progress Stage Token} {v : View}
    (hm : Move o.surroundings listed p q)
    (hattempts : ∀ c ∈ listed, ∀ w ∈ (o.attempt c).writes, P (w.key c))
    (hasides : ∀ step, ∀ a ∈ o.asides step, a.WritesIn P)
    (h : Surveyed P sees k p.scene p.roster)
    (hv : of sees k p.scene p.roster = (o.sights k p.steps).foldl see v) :
    Surveyed P sees k q.scene q.roster ∧
      of sees k q.scene q.roster = (o.sights k q.steps).foldl see v := by
  -- after its step, a move goes on with what goes on then
  have take {s : Stage} {r : Roster Token} {steps : List (Step Token)} {step : Step Token} {w : View}
      (h : Surveyed P sees k (s.note step) r) (hw : w = (o.sights k steps).foldl see v)
      (hstep : of sees k (s.note step) r = (o.deed? k step).elim w w.act) :
      Surveyed P sees k (o.surroundings.note step s) r ∧
        of sees k (o.surroundings.note step s) r = (o.sights k (steps ++ [step])).foldl see v :=
    ⟨h.asides (hasides step), of_take h (hasides step) hw hstep⟩
  have plain {step : Step Token} (hp : step.isPlain = true) (hl : ∀ c t, step ≠ .launched c t)
      (hd : o.deed? k step = none) :
      Surveyed P sees k (o.surroundings.note step p.scene) p.roster ∧
        of sees k (o.surroundings.note step p.scene) p.roster =
          (o.sights k (p.steps ++ [step])).foldl see v := by
    refine take (h.plain hp hl) hv ?_
    rw [hd]
    exact of_note sees k p.scene p.roster hp
  cases hm with
  | listingFailed fault => exact plain rfl nofun rfl
  | discovered => exact plain rfl nofun rfl
  | completed => exact plain rfl nofun rfl
  | launched isListed isMissing answer =>
    rename_i c t s
    obtain ⟨rfl, rfl⟩ := Stage.create_ok answer
    obtain ⟨hs, hw⟩ := plain (show (Step.asked c : Step Token).isPlain = true from rfl) nofun rfl
    have ha := hattempts c isListed
    refine take (hs.launch isMissing ha) hw ?_
    refine (of_launch hs ha).trans ?_
    by_cases hc : c = k <;> simp [Occasion.deed?, hc]
  | launchFailed isListed isMissing isReal answer =>
    rename_i c f s
    obtain ⟨-, rfl⟩ := Stage.create_error answer
    obtain ⟨hs, hw⟩ := plain (show (Step.asked c : Step Token).isPlain = true from rfl) nofun rfl
    have ha := hattempts c isListed
    refine take (hs.fail isMissing ha f) hw ?_
    refine (of_fail hs isMissing ha f).trans ?_
    by_cases hc : c = k <;> simp [Occasion.deed?, hc]
  | abandoned isListed isMissing isCut answer =>
    rename_i c f s
    obtain ⟨hf, rfl⟩ := Stage.create_error answer
    rw [(ControllerFailure.isCancelled_iff f).mp isCut] at hf
    obtain ⟨hs, hw⟩ := plain (show (Step.asked c : Step Token).isPlain = true from rfl) nofun rfl
    have hwrites := (o.attempt c).writes_of_cancelled hf
    refine take ((hs.abandon hwrites).plain rfl nofun) hw ?_
    refine (of_note sees k _ _ rfl).trans ((of_lost hs isMissing (hattempts c isListed)).trans ?_)
    rw [hwrites]
    by_cases hc : c = k <;> simp [Occasion.deed?, hc, act]
  | stopped isManaged isGone =>
    rename_i c t
    refine take (h.stop isManaged) hv ?_
    refine (of_stop h isManaged).trans ?_
    by_cases hc : c = k <;> simp [Occasion.deed?, hc]
  | forgotten isFailed isGone =>
    rename_i c
    refine take (h.forget c) hv ?_
    refine (of_forget h c).trans ?_
    by_cases hc : c = k <;> simp [Occasion.deed?, hc]

end View

/-- The view after a cycle follows from the view before it and from what the cluster saw. -/
theorem view_cycle {P : SeriesKey → Prop} {sees : Bool} {k : String} {c : Course}
    (h : Surveyed P sees k c.stage c.roster) {o : Occasion} (ho : o.WritesIn P) :
    Surveyed P sees k (c.cycle o).stage (c.cycle o).roster ∧
      View.of sees k (c.cycle o).stage (c.cycle o).roster =
        (o.sights k (c.progress o).steps).foldl View.see (View.of sees k c.stage c.roster) := by
  refine cycle_keeps_listed
    (P := fun p : Progress Stage Token => Surveyed P sees k p.scene p.roster ∧
      View.of sees k p.scene p.roster =
        (o.sights k p.steps).foldl View.see (View.of sees k c.stage c.roster))
    (fun listed hlisted _ _ hm hp => ?_) o.first c.stage c.roster ⟨h, rfl⟩
  refine View.move hm (fun c hc => ?_) ho.asides hp.1 hp.2
  obtain ⟨names, hlisting, hmem⟩ := hlisted c hc
  exact ho.attempts names hlisting c hmem

end Flotilla.Fleet
