import Flotilla.Proofs.Fleet.Moves
import Flotilla.Proofs.Fleet.Reports

/-!
# A cycle makes the roster follow the listing

`Converged` says what an undisturbed cycle leaves: the instances that were there
and are listed, just as they were, and those that the factory made of the missing
clusters.  `cycle_converges` proves it of every roster, listing and factory.

The factory is watched from outside (`calls`), and the order in which the entries
of a table come out is left open (`Enumeration`), so that the statement says that
neither the cycle's own account nor that order matters.
-/

namespace Flotilla.Fleet

open Std (ExtTreeMap ExtTreeSet)

variable {S H : Type}

/-! ## Watching the factory -/

namespace Surroundings

/-- The surroundings that also keep every call of the factory. -/
def watched (around : Surroundings S H) : Surroundings (S × List (Call H)) H where
  fired s := around.fired s.1
  create c s :=
    let (answer, scene) := around.create c s.1
    (answer, (scene, s.2 ++ [(c, answer)]))
  note step s := (around.note step s.1, s.2)

/-- The calls of the factory in a cycle, in order, with the answers. -/
def calls (around : Surroundings S H) (first : First)
    (listing : Except CommandFailure (List String)) (scene : S) (roster : Roster H) :
    List (Call H) :=
  (around.watched.cycle first listing (scene, []) roster).scene.2

/-- Nothing cuts the creation of some clusters short: whenever the token is looked at it has not
fired, and no creation is given up because of the shutdown. -/
def Unhindered (around : Surroundings S H) : List String → S → Prop
  | [], _ => True
  | c :: rest, s =>
    around.fired s = false ∧
      match around.create c (around.note (.asked c) s) with
      | (.ok h, s) => around.Unhindered rest (around.note (.launched c h) s)
      | (.error f, s) =>
        f.isCancelled = false ∧ around.Unhindered rest (around.note (.launchFailed c f) s)

/-- Nothing disturbs a cycle: its listing is seen, and nothing cuts its creations short. -/
def Undisturbed (around : Surroundings S H) (first : First) (names : List String) (scene : S)
    (roster : Roster H) : Prop :=
  let listed := ExtTreeSet.ofList names
  (first = .listing ∨ around.fired scene = false) ∧
    around.Unhindered (roster.missing listed) (around.note (.discovered listed.toList) scene)

end Surroundings

/-- The progress of a watched cycle without the calls. -/
def Progress.unwatch (p : Progress (S × List (Call H)) H) : Progress S H :=
  { scene := p.scene.1, roster := p.roster, steps := p.steps }

theorem Progress.unwatch_take (around : Surroundings S H)
    (p : Progress (S × List (Call H)) H) (step : Step H) :
    (p.take around.watched step).unwatch = p.unwatch.take around step := rfl

@[simp] theorem note_watched (around : Surroundings S H) (step : Step H)
    (s : S × List (Call H)) : (around.watched.note step s).2 = s.2 := rfl

/-- A creation is a call. -/
theorem create_watched {around : Surroundings S H} {c : String} {s s' : S × List (Call H)}
    {answer : Except ControllerFailure H} (h : around.watched.create c s = (answer, s')) :
    s'.2 = s.2 ++ [(c, answer)] := by
  cases h
  rfl

/-- Watching does not change the creations. -/
theorem addAll_watched (around : Surroundings S H) (clusters : List String)
    (p : Progress (S × List (Call H)) H) :
    (around.watched.addAll clusters p).1 = (around.addAll clusters p.unwatch).1 ∧
      (around.watched.addAll clusters p).2.unwatch = (around.addAll clusters p.unwatch).2 := by
  induction clusters generalizing p with
  | nil => exact ⟨rfl, rfl⟩
  | cons c rest ih =>
    cases hf : around.fired p.scene.1 with
    | true =>
      have hw : around.watched.fired p.scene = true := hf
      have hu : around.fired p.unwatch.scene = true := hf
      simp only [Surroundings.addAll, hw, hu, if_true, true_and]
    | false =>
      have hw : around.watched.fired p.scene = false := hf
      have hu : around.fired p.unwatch.scene = false := hf
      obtain ⟨⟨answer, s⟩, ha⟩ :
          ∃ x, around.create c (around.note (.asked c) p.scene.1) = x := ⟨_, rfl⟩
      have hau : around.create c (p.unwatch.take around (.asked c)).scene = (answer, s) := ha
      have haw : around.watched.create c (p.take around.watched (.asked c)).scene =
          (answer, s, p.scene.2 ++ [(c, answer)]) := by
        show (let (answer, s) := around.create c (around.note (.asked c) p.scene.1)
          (answer, (s, p.scene.2 ++ [(c, answer)]))) = _
        rw [ha]
      simp only [Surroundings.addAll, hw, hu, haw, hau, Bool.false_eq_true, if_false]
      cases answer with
      | ok h => exact ih _
      | error f =>
        simp only
        split
        · exact ⟨rfl, rfl⟩
        · exact ih _

theorem stopAll_watched (around : Surroundings S H) (stale : List (String × H))
    (p : Progress (S × List (Call H)) H) :
    (around.watched.stopAll stale p).unwatch = around.stopAll stale p.unwatch := by
  induction stale generalizing p with
  | nil => rfl
  | cons x rest ih => exact ih _

theorem forgetAll_watched (around : Surroundings S H) (vanished : List String)
    (p : Progress (S × List (Call H)) H) :
    (around.watched.forgetAll vanished p).unwatch = around.forgetAll vanished p.unwatch := by
  induction vanished generalizing p with
  | nil => rfl
  | cons c rest ih => exact ih _

/-- Forgetting failed clusters calls nothing. -/
theorem forgetAll_watched_calls (around : Surroundings S H) (vanished : List String)
    (p : Progress (S × List (Call H)) H) :
    (around.watched.forgetAll vanished p).scene.2 = p.scene.2 := by
  induction vanished generalizing p with
  | nil => rfl
  | cons c rest ih => exact ih _

/-- Watching does not change how a listing is followed. -/
theorem converge_watched (around : Surroundings S H) (listed : ExtTreeSet String)
    (p : Progress (S × List (Call H)) H) :
    (around.watched.converge listed p).unwatch = around.converge listed p.unwatch := by
  obtain ⟨hall, hp⟩ := addAll_watched around (p.roster.missing listed)
    (p.take around.watched (.discovered listed.toList))
  rw [Progress.unwatch_take] at hall hp
  unfold Surroundings.converge
  simp only
  rw [show (p.unwatch.take around (.discovered listed.toList)).roster = p.roster from rfl,
    show (p.take around.watched (.discovered listed.toList)).roster = p.roster from rfl]
  generalize around.watched.addAll (p.roster.missing listed) _ = x at hall hp ⊢
  generalize around.addAll (p.roster.missing listed) _ = y at hall hp ⊢
  obtain ⟨b, q⟩ := x
  obtain ⟨b', q'⟩ := y
  obtain rfl : b = b' := hall
  obtain rfl : q.unwatch = q' := hp
  cases b with
  | false => rfl
  | true =>
    simp only
    have hs := stopAll_watched around (q.roster.stale listed) q
    generalize around.watched.stopAll (q.roster.stale listed) q = u at hs ⊢
    have hf := forgetAll_watched around (u.roster.vanished listed) u
    rw [show q.unwatch.roster = q.roster from rfl, ← hs, show u.unwatch.roster = u.roster from rfl,
      ← hf]
    rfl

/-- Watching does not change a cycle. -/
theorem cycle_watched (around : Surroundings S H) (first : First)
    (listing : Except CommandFailure (List String)) (scene : S) (roster : Roster H) :
    (around.watched.cycle first listing (scene, []) roster).unwatch =
      around.cycle first listing scene roster := by
  have hf : around.watched.fired (scene, ([] : List (Call H))) = around.fired scene := rfl
  unfold Surroundings.cycle
  rw [hf]
  split
  · rfl
  · cases listing with
    | error fault => rfl
    | ok names => exact converge_watched around _ _

/-- The calls that were seen from outside are those that the steps tell of. -/
theorem calls_eq (around : Surroundings S H) (first : First)
    (listing : Except CommandFailure (List String)) (scene : S) (roster : Roster H) :
    around.calls first listing scene roster =
      (around.cycle first listing scene roster).steps.filterMap Step.call? := by
  rw [← cycle_watched]
  refine cycle_keeps (P := fun p => p.scene.2 = p.steps.filterMap Step.call?) ?_ first listing
    (scene, []) roster rfl
  intro listed p q hm hp
  cases hm with
  | launched isListed isMissing answer =>
    have hs := create_watched answer
    simpa [Progress.take, Step.call?, List.filterMap_cons, hp] using hs
  | launchFailed isListed isMissing isReal answer =>
    have hs := create_watched answer
    simpa [Progress.take, Step.call?, List.filterMap_cons, hp] using hs
  | abandoned isListed isMissing isCut answer =>
    have hs := create_watched answer
    rw [(ControllerFailure.isCancelled_iff _).mp isCut] at hs
    simpa [Progress.take, Step.call?, List.filterMap_cons, hp] using hs
  | _ => simpa [Progress.take, Step.call?, List.filterMap_cons] using hp

/-! ## The order in which entries come out -/

/-- Orders in which the entries of the tables may come out. -/
structure Enumeration (H : Type) where
  /-- The order of the instances. -/
  instances : ExtTreeMap String H → List (String × H)
  /-- The order of the failed clusters. -/
  failed : ExtTreeSet String → List String
  /-- Each instance comes out once. -/
  instances_perm : ∀ m, (instances m).Perm m.toList
  /-- Each failed cluster comes out once. -/
  failed_perm : ∀ s, (failed s).Perm s.toList

namespace Enumeration

variable (e : Enumeration H) (r : Roster H) (listed : ExtTreeSet String)

/-- The instances whose cluster is not listed, sorted by name. -/
def stale : List (String × H) :=
  ((e.instances r.instances).filter fun (c, _) => !listed.contains c).mergeSort
    fun a b => decide (a.1 ≤ b.1)

/-- The failed clusters that are not listed, as they come out. -/
def vanished : List String := (e.failed r.failed).filter fun c => !listed.contains c

theorem stale_perm : (e.stale r listed).Perm (r.stale listed) :=
  (List.mergeSort_perm _ _).trans ((e.instances_perm _).filter _)

/-- Sorted by name, the instances to stop come out in one order only. -/
theorem stale_eq : e.stale r listed = r.stale listed := by
  have hp := e.stale_perm r listed
  have hantisymm (a b : String × H) (ha : a ∈ e.stale r listed) (hb : b ∈ r.stale listed)
      (hab : a.1 ≤ b.1) (hba : b.1 ≤ a.1) : a = b := by
    obtain ⟨c, h⟩ := a
    obtain ⟨c', h'⟩ := b
    obtain rfl : c = c' := String.le_antisymm hab hba
    have hh := ((r.mem_stale listed).mp (hp.mem_iff.mp ha)).1
    have hh' := ((r.mem_stale listed).mp hb).1
    rw [hh] at hh'
    cases hh'
    rfl
  have htrans (a b c : String × H) (hab : decide (a.1 ≤ b.1) = true)
      (hbc : decide (b.1 ≤ c.1) = true) : decide (a.1 ≤ c.1) = true := by
    simp only [decide_eq_true_eq] at hab hbc ⊢
    exact String.le_trans hab hbc
  have htotal (a b : String × H) : (decide (a.1 ≤ b.1) || decide (b.1 ≤ a.1)) = true := by
    simp only [Bool.or_eq_true, decide_eq_true_eq]
    exact String.le_total a.1 b.1
  have hsorted : (e.stale r listed).Pairwise fun a b => a.1 ≤ b.1 :=
    (List.pairwise_mergeSort htrans htotal _).imp fun h => of_decide_eq_true h
  have hascending : (r.stale listed).Pairwise fun a b => a.1 ≤ b.1 :=
    (List.pairwise_map.mp (r.stale_ascending listed)).imp fun h => Std.le_of_lt h
  exact hp.eq_of_pairwise hantisymm hsorted hascending

theorem mem_vanished {c : String} : c ∈ e.vanished r listed ↔ c ∈ r.vanished listed :=
  ((e.failed_perm _).filter _).mem_iff

end Enumeration

namespace Surroundings

/-- Follow a listing, with the entries coming out in some order. -/
def convergeIn (around : Surroundings S H) (e : Enumeration H) (listed : ExtTreeSet String)
    (p : Progress S H) : Progress S H :=
  let p := p.take around (.discovered listed.toList)
  match around.addAll (p.roster.missing listed) p with
  | (false, p) => p
  | (true, p) =>
    let p := around.stopAll (e.stale p.roster listed) p
    let p := around.forgetAll (e.vanished p.roster listed) p
    p.take around (.completed p.roster.instances.size)

/-- One cycle that follows a listing, with the entries coming out in some order. -/
def cycleIn (around : Surroundings S H) (e : Enumeration H) (first : First)
    (names : List String) (scene : S) (roster : Roster H) : Progress S H :=
  if first = .shutdown ∧ around.fired scene = true then { scene, roster }
  else around.convergeIn e (ExtTreeSet.ofList names) { scene, roster }

/-- The calls of the factory in such a cycle. -/
def callsIn (around : Surroundings S H) (e : Enumeration H) (first : First)
    (names : List String) (scene : S) (roster : Roster H) : List (Call H) :=
  (around.watched.cycleIn e first names (scene, []) roster).scene.2

end Surroundings

/-- A listing is followed up to the forgetting of failed clusters in one way, and those are
forgotten in some order. -/
theorem convergeIn_cases (around : Surroundings S H) (e : Enumeration H)
    (listed : ExtTreeSet String) (p : Progress S H) :
    around.convergeIn e listed p = around.converge listed p ∨
      ∃ (q : Progress S H) (vanished : List String),
        (∀ c, c ∈ vanished ↔ c ∈ q.roster.vanished listed) ∧
        around.convergeIn e listed p =
          (let q := around.forgetAll vanished q
           q.take around (.completed q.roster.instances.size)) ∧
        around.converge listed p =
          (let q := around.forgetAll (q.roster.vanished listed) q
           q.take around (.completed q.roster.instances.size)) := by
  unfold Surroundings.convergeIn Surroundings.converge
  simp only
  generalize around.addAll _ _ = x
  obtain ⟨b, q⟩ := x
  cases b with
  | false => exact Or.inl rfl
  | true =>
    simp only [Enumeration.stale_eq]
    exact Or.inr ⟨around.stopAll (q.roster.stale listed) q, _, fun c => e.mem_vanished _ listed,
      rfl, rfl⟩

theorem cycle_ok (around : Surroundings S H) (first : First) (names : List String) (scene : S)
    (roster : Roster H) :
    around.cycle first (.ok names) scene roster =
      if first = .shutdown ∧ around.fired scene = true then { scene, roster }
      else around.converge (ExtTreeSet.ofList names) { scene, roster } := rfl

/-- The order in which entries come out changes neither the roster nor the report. -/
theorem cycleIn_outcome (around : Surroundings S H) (e : Enumeration H) (first : First)
    (names : List String) (scene : S) (roster : Roster H) :
    (around.cycleIn e first names scene roster).roster =
        (around.cycle first (.ok names) scene roster).roster ∧
      Report.ofSteps (around.cycleIn e first names scene roster).steps =
        Report.ofSteps (around.cycle first (.ok names) scene roster).steps := by
  rw [cycle_ok]
  unfold Surroundings.cycleIn
  split
  · exact ⟨rfl, rfl⟩
  · rcases convergeIn_cases around e (.ofList names) ⟨scene, roster, []⟩ with
      h | ⟨q, vanished, hv, h, h'⟩
    · rw [h]
      exact ⟨rfl, rfl⟩
    · rw [h, h']
      constructor
      · exact forgetAll_roster_congr around hv q
      · simp only [Progress.take, forgetAll_steps, Report.ofSteps_forgotten]

/-- Nor the calls of the factory. -/
theorem callsIn_eq (around : Surroundings S H) (e : Enumeration H) (first : First)
    (names : List String) (scene : S) (roster : Roster H) :
    around.callsIn e first names scene roster = around.calls first (.ok names) scene roster := by
  unfold Surroundings.callsIn Surroundings.calls Surroundings.cycleIn
  rw [cycle_ok]
  split
  · rfl
  · rcases convergeIn_cases around.watched e (.ofList names) ⟨(scene, []), roster, []⟩ with
      h | ⟨q, vanished, -, h, h'⟩
    · rw [h]
    · rw [h, h']
      show (around.watched.forgetAll vanished q).scene.2 =
        (around.watched.forgetAll (q.roster.vanished _) q).scene.2
      rw [forgetAll_watched_calls, forgetAll_watched_calls]

/-! ## The roster after a cycle -/

/-- What an undisturbed cycle leaves. -/
structure Converged (names : List String) (before : Roster H) (calls : List (Call H))
    (after : Roster H) (report : Report) : Prop where
  /-- The instances are the old ones that are listed and the created ones. -/
  instances : ∀ c, c ∈ after.instances ↔
    (c ∈ before.instances ∧ c ∈ names) ∨
      ((c ∈ names ∧ c ∉ before.instances) ∧ ∃ h, (c, .ok h) ∈ calls)
  /-- An old instance that is listed is the very same as before. -/
  kept : ∀ c, c ∈ before.instances → c ∈ names → after.instances[c]? = before.instances[c]?
  /-- A created instance is the one that the factory gave. -/
  created : ∀ c h, (c, .ok h) ∈ calls → after.instances[c]? = some h
  /-- The factory is called in ascending order, so never twice for a cluster. -/
  calls_ascending : (calls.map (·.1)).Pairwise (· < ·)
  /-- It is called for the listed clusters without an instance. -/
  mem_calls : ∀ c, c ∈ calls.map (·.1) ↔ c ∈ names ∧ c ∉ before.instances
  /-- The created clusters are reported in ascending order. -/
  started : report.started.Pairwise (· < ·) ∧
    ∀ c, c ∈ report.started ↔ ∃ h, (c, .ok h) ∈ calls
  /-- So are the failed ones. -/
  failed : report.failed.Pairwise (· < ·) ∧
    ∀ c, c ∈ report.failed ↔ ∃ f, (c, .error f) ∈ calls
  /-- And so are those whose instance was removed. -/
  stopped : report.stopped.Pairwise (· < ·) ∧
    ∀ c, c ∈ report.stopped ↔ c ∈ before.instances ∧ c ∉ names
  /-- No cluster is reported twice. -/
  disjoint : (∀ c ∈ report.started, c ∉ report.failed ∧ c ∉ report.stopped) ∧
    ∀ c ∈ report.failed, c ∉ report.stopped
  /-- The listing did not fail. -/
  listed : report.listingFailed = false

/-- Where nothing cuts the creations short they all take place. -/
theorem addAll_of_unhindered (around : Surroundings S H) (clusters : List String)
    (p : Progress S H) (h : around.Unhindered clusters p.scene) :
    (around.addAll clusters p).1 = true := by
  induction clusters generalizing p with
  | nil => rfl
  | cons c rest ih =>
    obtain ⟨hf, hrest⟩ := h
    obtain ⟨⟨answer, s⟩, ha⟩ :
        ∃ x, around.create c (around.note (.asked c) p.scene) = x := ⟨_, rfl⟩
    have ha' : around.create c (p.take around (.asked c)).scene = (answer, s) := ha
    rw [ha] at hrest
    simp only [Surroundings.addAll, hf, ha', Bool.false_eq_true, if_false]
    cases answer with
    | ok x => exact ih _ hrest
    | error f =>
      obtain ⟨hcut, hrest⟩ := hrest
      simp only [hcut, Bool.false_eq_true, if_false]
      exact ih _ hrest

/-- A complete cycle makes the roster follow the listing. -/
theorem Followed.converged {around : Surroundings S H} {names : List String} {scene : S}
    {roster : Roster H} {calls : List (Call H)} {q : Progress S H}
    (h : Followed around (.ofList names) ⟨scene, roster, []⟩ calls true q) :
    Converged names roster calls q.roster (Report.ofSteps q.steps) := by
  obtain ⟨hm, hcut⟩ := h.whole rfl
  have hl (c : String) : c ∈ ExtTreeSet.ofList names ↔ c ∈ names := mem_listed
  have hnew {c : String} {a : Except ControllerFailure H} (hc : (c, a) ∈ calls) :
      c ∈ names ∧ c ∉ roster.instances := by
    rw [← hl]
    exact h.mem_missing hc
  have hold (c : String) : c ∈ roster.instances ↔ ∃ x, roster.instances[c]? = some x :=
    roster.mem_instances_iff
  have hi (c : String) (x : H) : q.roster.instances[c]? = some x ↔
      c ∈ names ∧ ((c, .ok x) ∈ calls ∨ roster.instances[c]? = some x) := by
    rw [← hl]
    exact h.instances_complete c x
  have hfailed (c : String) : c ∈ calls.filterMap Call.failed? ↔ ∃ f, (c, .error f) ∈ calls := by
    rw [Call.mem_failed]
    exact exists_congr fun f => ⟨fun hf => hf.1, fun hf => ⟨hf, hcut _ hf⟩⟩
  have hstale (c : String) :
      c ∈ ((calls.foldl Roster.answer roster).stale (.ofList names)).map (·.1) ↔
        c ∈ roster.instances ∧ c ∉ names := by
    simp only [List.mem_map, Prod.exists, h.mem_stale, hold, ← hl]
    constructor
    · rintro ⟨_, x, ⟨hx, hc⟩, rfl⟩
      exact ⟨⟨x, hx⟩, hc⟩
    · rintro ⟨⟨x, hx⟩, hc⟩
      exact ⟨c, x, ⟨hx, hc⟩, rfl⟩
  rw [h.report]
  refine {
    instances := ?instances
    kept := ?kept
    created := fun c x hx => (hi c x).mpr ⟨(hnew hx).1, Or.inl hx⟩
    calls_ascending := h.ascending
    mem_calls := fun c => by rw [hm, Roster.mem_missing, hl]
    started := ⟨Call.ascending_filterMap (fun _ _ => Call.eq_of_created) h.ascending,
      fun c => Call.mem_created⟩
    failed := ⟨Call.ascending_filterMap (fun _ _ => Call.eq_of_failed) h.ascending, hfailed⟩
    stopped := ⟨Roster.stale_ascending _ _, hstale⟩
    disjoint := ⟨?startedOnly, ?failedOnly⟩
    listed := rfl }
  case instances =>
    intro c
    simp only [Roster.mem_instances_iff, hi]
    constructor
    · rintro ⟨x, hc, hx | hx⟩
      · exact Or.inr ⟨⟨hc, fun he => (hnew hx).2 ((hold c).mpr he)⟩, x, hx⟩
      · exact Or.inl ⟨⟨x, hx⟩, hc⟩
    · rintro (⟨⟨x, hx⟩, hc⟩ | ⟨⟨hc, -⟩, x, hx⟩)
      · exact ⟨x, hc, Or.inr hx⟩
      · exact ⟨x, hc, Or.inl hx⟩
  case kept =>
    intro c hc hcn
    obtain ⟨x, hx⟩ := (hold c).mp hc
    rw [hx]
    exact (hi c x).mpr ⟨hcn, Or.inr hx⟩
  case startedOnly =>
    intro c hc
    obtain ⟨x, hx⟩ := Call.mem_created.mp hc
    constructor
    · intro hf
      obtain ⟨f, hf⟩ := (hfailed c).mp hf
      cases answer_unique h.nodup hx hf
    · intro hs
      exact ((hstale c).mp hs).2 (hnew hx).1
  case failedOnly =>
    intro c hc hs
    obtain ⟨f, hf⟩ := (hfailed c).mp hc
    exact ((hstale c).mp hs).2 (hnew hf).1

/-- A cycle that nothing disturbs makes the roster follow the listing.  Nothing of this depends on
the order or the multiplicity of what is listed, nor on the order in which entries come out. -/
theorem cycle_converges (around : Surroundings S H) (first : First) (names : List String)
    (scene : S) (roster : Roster H) (h : around.Undisturbed first names scene roster) :
    let p := around.cycle first (.ok names) scene roster
    let calls := around.calls first (.ok names) scene roster
    Converged names roster calls p.roster (Report.ofSteps p.steps) ∧
      (∀ names', (∀ c, c ∈ names' ↔ c ∈ names) →
        around.cycle first (.ok names') scene roster = p ∧
          around.calls first (.ok names') scene roster = calls) ∧
      ∀ e : Enumeration H,
        (around.cycleIn e first names scene roster).roster = p.roster ∧
          Report.ofSteps (around.cycleIn e first names scene roster).steps =
            Report.ofSteps p.steps ∧
          around.callsIn e first names scene roster = calls := by
  obtain ⟨hfirst, hun⟩ := h
  intro p calls
  refine ⟨?_, ?_, ?_⟩
  · have hp : p = around.converge (.ofList names) ⟨scene, roster, []⟩ := by
      refine if_neg ?_
      rintro ⟨rfl, hf⟩
      rcases hfirst with hfirst | hfirst
      · cases hfirst
      · rw [hf] at hfirst
        cases hfirst
    obtain ⟨calls', hc⟩ := converge_spec around (.ofList names) ⟨scene, roster, []⟩
    have hall : around.completes (ExtTreeSet.ofList names) ⟨scene, roster, []⟩ = true :=
      addAll_of_unhindered around _ _ hun
    rw [hall, ← hp] at hc
    have hcalls : calls = calls' := by
      show around.calls first (.ok names) scene roster = calls'
      rw [calls_eq, show (around.cycle first (.ok names) scene roster).steps = _ from hc.steps]
      simp [List.filterMap_cons, Step.call?]
    rw [hcalls]
    exact hc.converged
  · intro names' hn
    have hl : ExtTreeSet.ofList names' = ExtTreeSet.ofList names := by
      refine ExtTreeSet.ext_mem fun c => ?_
      rw [mem_listed, mem_listed, hn]
    constructor
    · rw [cycle_ok, hl]
      rfl
    · show (around.watched.cycle first (.ok names') (scene, []) roster).scene.2 = _
      rw [cycle_ok, hl]
      rfl
  · intro e
    obtain ⟨hr, hs⟩ := cycleIn_outcome around e first names scene roster
    exact ⟨hr, hs, callsIn_eq around e first names scene roster⟩

/-- Surroundings in which the cluster `d` cannot be launched. -/
def Surroundings.trial : Surroundings Unit Nat where
  fired _ := false
  create c s := if c = "d" then (.error (.noWorkingClient c), s) else (.ok 3, s)
  note _ s := s

theorem unhindered_trial (clusters : List String) : Surroundings.trial.Unhindered clusters () := by
  induction clusters with
  | nil => trivial
  | cons c rest ih =>
    refine ⟨rfl, ?_⟩
    by_cases hc : c = "d"
    · simpa [Surroundings.trial, hc, ControllerFailure.isCancelled] using ih
    · simpa [Surroundings.trial, hc] using ih

/-- With instances of `a` and `b`, of `c`, `b` and `d` one is started, one fails and one goes on. -/
theorem cycle_converges_trial :
    let roster : Roster Nat := { instances := .ofList [("a", 1), ("b", 2)] }
    let p := Surroundings.trial.cycle .shutdown (.ok ["c", "b", "d", "b"]) () roster
    Surroundings.trial.Undisturbed .shutdown ["c", "b", "d", "b"] () roster ∧
      Converged ["c", "b", "d", "b"] roster
        (Surroundings.trial.calls .shutdown (.ok ["c", "b", "d", "b"]) () roster)
        p.roster (Report.ofSteps p.steps) ∧
      p.roster.instances.toList = [("b", 2), ("c", 3)] ∧
      Report.ofSteps p.steps = { started := ["c"], stopped := ["a"], failed := ["d"] } := by
  intro roster p
  have h : Surroundings.trial.Undisturbed .shutdown ["c", "b", "d", "b"] () roster :=
    ⟨Or.inr rfl, unhindered_trial _⟩
  exact ⟨h, (cycle_converges Surroundings.trial .shutdown ["c", "b", "d", "b"] () roster h).1,
    by decide +kernel, by decide +kernel⟩

end Flotilla.Fleet
