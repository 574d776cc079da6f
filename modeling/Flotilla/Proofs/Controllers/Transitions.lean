import Flotilla.Proofs.Controllers.Readiness
import Flotilla.Proofs.Controllers.Schedule
import Flotilla.Proofs.Metrics.Series
import Flotilla.Proofs.Tables

/-!
# The changes of readiness

The changes from one map of nodes to another are told by what each of the two says of a node
(`Transition.Between`).  So they are what it takes to get from the one to the other and nothing
besides (`Difference`), and many of them one after another still lead from the first map to the last
(`replay_differences`).

The node controller compares each pass with the one before.  What it has logged after so many passes
leads from nothing to the snapshot that it took last, and it has recorded how many nodes were ready
in that (`Node.Account`).
-/

namespace Flotilla.Controllers

open Std (ExtTreeMap)
open Metrics (Series SeriesKey gaugeBound)
open Time (Moment)

namespace Transition

/-- The node that changes. -/
def node : Transition → String
  | .joined node _ | .left node | .becameReady node | .becameNotReady node => node

/-- Whether the node is ready after the change, if it is there. -/
def after : Transition → Option Bool
  | .joined _ ready => some ready
  | .left _ => none
  | .becameReady _ => some true
  | .becameNotReady _ => some false

/-- The change takes place between two maps. -/
def Between (previous current : Readiness) : Transition → Prop
  | .joined node ready => previous[node]? = none ∧ current[node]? = some ready
  | .left node => (∃ was, previous[node]? = some was) ∧ current[node]? = none
  | .becameReady node => previous[node]? = some false ∧ current[node]? = some true
  | .becameNotReady node => previous[node]? = some true ∧ current[node]? = some false

end Transition

/-- The changes between two maps of nodes. -/
structure Difference (previous current : Readiness) (changes : List Transition) : Prop where
  /-- They lead from the one to the other. -/
  patch : changes.foldl Transition.apply previous = current
  /-- They are the changes that take place. -/
  exact : ∀ c, c ∈ changes ↔ c.Between previous current
  /-- No node changes twice. -/
  once : (changes.map Transition.node).Nodup
  /-- A node changes only if the maps differ in it. -/
  differs : ∀ c ∈ changes, previous[c.node]? ≠ current[c.node]?
  /-- A node joins if it was not there. -/
  joined : ∀ node ready, .joined node ready ∈ changes → node ∉ previous
  /-- It changes in another way if it was. -/
  present : ∀ c ∈ changes, (∀ node ready, c ≠ .joined node ready) → c.node ∈ previous
  /-- Between equal maps there is none. -/
  nothing : changes = [] ↔ previous = current
  /-- First come the nodes that have joined or changed, and then those that have left, both in
  ascending order. -/
  ascending : ∃ (here : List Transition) (gone : List String), changes = here ++ gone.map .left ∧
    (∀ node, .left node ∉ here) ∧ (here.map Transition.node).Pairwise (· < ·) ∧
      gone.Pairwise (· < ·)

/-- The changes from each map to the next, the first so many times. -/
def differences (seen : Nat → Readiness) (count : Nat) : List Transition :=
  (List.range count).flatMap fun k => transitions (seen k) (seen (k + 1))

namespace Activity

/-- The metrics of a cluster after what a controller has done. -/
def record (a : Activity) (cluster controller : String) (m : Metrics.Store) : Metrics.Store :=
  a.foldl (fun m x => x.2.record cluster controller m) m

end Activity

namespace Node

/-- What the node controller has told and recorded by a moment, after so many passes which have seen
these maps, and nothing before the first. -/
structure Account (t : Term) (horizon : Moment) (passes : Nat) (seen : Nat → Readiness) : Prop where
  /-- These passes are made: those that are due by then, and before the token fires. -/
  made : 0 < t.period → ∀ k, k < passes ↔
    wait t = .ready ∧ t.due (since t) k ≤ horizon ∧ t.stoppedBy (t.due (since t) k) = false
  /-- Each has seen which nodes the store had when it was due, and which of them were ready. -/
  snapshots : seen 0 = ∅ ∧ ∀ k < passes,
    Snapshot (t.informers.nodesAt (t.due (since t) k)).values (seen (k + 1))
  /-- Between its first line and its last the controller logs what has changed from pass to pass. -/
  told : ∃ first last,
    Activity.logLines (run t horizon) =
      first ++ (differences seen passes).map (Transition.line t.cluster) ++ last ∧
    (∀ line ∈ first, line = startLine t) ∧ (∀ line ∈ last, line = stopLine t)
  /-- This leads from nothing to what it has seen last. -/
  replay : (differences seen passes).foldl Transition.apply ∅ = seen passes
  /-- Its passes are counted, in all metrics that tell its cluster apart from others. -/
  syncs : ∀ (m : Metrics.Store) (P : SeriesKey → Prop), m.Parted P t.cluster →
    (∀ controller, P ⟨t.cluster, controller⟩) →
      ((run t horizon).record t.cluster name m).syncs.value? ⟨t.cluster, name⟩ =
        if passes = 0 then m.syncs.value? ⟨t.cluster, name⟩
        else some ((m.syncs.value? ⟨t.cluster, name⟩).getD 0 + passes)
  /-- So are the nodes that were ready in the last one, as far as a gauge goes. -/
  objects : ∃ names : List String, names.Nodup ∧
    (∀ node, node ∈ names ↔ (seen passes)[node]? = some true) ∧
      ∀ (m : Metrics.Store) (P : SeriesKey → Prop), m.Parted P t.cluster →
        (∀ controller, P ⟨t.cluster, controller⟩) →
          ((run t horizon).record t.cluster name m).objects.value? ⟨t.cluster, name⟩ =
            if passes = 0 then m.objects.value? ⟨t.cluster, name⟩
            else some (min names.length gaugeBound)

end Node

/-! ## Two maps -/

theorem not_mem_iff {r : Readiness} {node : String} : node ∉ r ↔ r[node]? = none := by
  rw [ExtTreeMap.mem_iff_isSome_getElem?, Option.not_isSome_iff_eq_none]

theorem mem_iff_exists {r : Readiness} {node : String} :
    node ∈ r ↔ ∃ ready, r[node]? = some ready := by
  rw [ExtTreeMap.mem_iff_isSome_getElem?, Option.isSome_iff_exists]

namespace Transition

variable {previous current : Readiness}

theorem lookup_apply (r : Readiness) (c : Transition) (node : String) :
    (c.apply r)[node]? = if c.node = node then c.after else r[node]? := by
  cases c with
  | left gone => exact lookup_erase r gone node
  | joined new ready => exact lookup_insert r new node ready
  | becameReady changed => exact lookup_insert r changed node true
  | becameNotReady changed => exact lookup_insert r changed node false

theorem after_of_between {c : Transition} (h : c.Between previous current) :
    c.after = current[c.node]? := by
  cases c <;> exact h.2.symm

theorem ne_of_between {c : Transition} (h : c.Between previous current) :
    previous[c.node]? ≠ current[c.node]? := by
  cases c with
  | left gone =>
    obtain ⟨⟨was, hwas⟩, hnone⟩ := h
    simp [node, hwas, hnone]
  | _ =>
    obtain ⟨hprevious, hcurrent⟩ := h
    simp [node, hprevious, hcurrent]

/-- Maps that differ in a node have a change of it between them. -/
theorem exists_between {n : String} (h : previous[n]? ≠ current[n]?) :
    ∃ c : Transition, c.node = n ∧ c.Between previous current := by
  cases hp : previous[n]? with
  | none =>
    cases hc : current[n]? with
    | none => exact absurd (hp.trans hc.symm) h
    | some ready => exact ⟨.joined n ready, rfl, hp, hc⟩
  | some was =>
    cases hc : current[n]? with
    | none => exact ⟨.left n, rfl, ⟨was, hp⟩, hc⟩
    | some ready =>
      cases was <;> cases ready
      · exact absurd (hp.trans hc.symm) h
      · exact ⟨.becameReady n, rfl, hp, hc⟩
      · exact ⟨.becameNotReady n, rfl, hp, hc⟩
      · exact absurd (hp.trans hc.symm) h

theorem present?_eq_some {n : String} {ready : Bool} {c : Transition}
    (hn : current[n]? = some ready) :
    present? previous n ready = some c ↔
      c.node = n ∧ c.Between previous current ∧ c ≠ .left n := by
  unfold present?
  simp only [ExtTreeMap.get?_eq_getElem?]
  constructor
  · intro h
    split at h
    · next hp =>
      cases h
      exact ⟨rfl, ⟨hp, hn⟩, nofun⟩
    · next was hp =>
      cases was <;> cases ready <;> simp at h <;> subst h
      · exact ⟨rfl, ⟨hp, hn⟩, nofun⟩
      · exact ⟨rfl, ⟨hp, hn⟩, nofun⟩
  · rintro ⟨rfl, hbetween, hleft⟩
    cases c with
    | left gone => exact absurd rfl hleft
    | joined new flag =>
      obtain ⟨hp, hc⟩ := hbetween
      simp only [node] at hn hp ⊢
      rw [hc] at hn
      cases hn
      simp [hp]
    | becameReady changed =>
      obtain ⟨hp, hc⟩ := hbetween
      simp only [node] at hn hp ⊢
      rw [hc] at hn
      cases hn
      simp [hp]
    | becameNotReady changed =>
      obtain ⟨hp, hc⟩ := hbetween
      simp only [node] at hn hp ⊢
      rw [hc] at hn
      cases hn
      simp [hp]

end Transition

section

variable (previous current : Readiness)

/-- The changes of the nodes that are there. -/
def changesHere : List Transition :=
  current.toList.filterMap fun x => Transition.present? previous x.1 x.2

/-- The nodes that are gone. -/
def nodesGone : List String := previous.keys.filter fun node => !current.contains node

theorem transitions_eq :
    transitions previous current =
      changesHere previous current ++ (nodesGone previous current).map .left := rfl

variable {previous current}

theorem mem_changesHere {c : Transition} :
    c ∈ changesHere previous current ↔
      c.Between previous current ∧ ∀ node, c ≠ .left node := by
  rw [changesHere, List.mem_filterMap]
  constructor
  · rintro ⟨⟨n, ready⟩, hmem, hc⟩
    have hn := ExtTreeMap.mem_toList_iff_getElem?_eq_some.mp hmem
    obtain ⟨rfl, hbetween, hleft⟩ := (Transition.present?_eq_some hn).mp hc
    refine ⟨hbetween, ?_⟩
    rintro node rfl
    exact hleft rfl
  · rintro ⟨hbetween, hleft⟩
    obtain ⟨ready, hready⟩ : ∃ ready, current[c.node]? = some ready := by
      cases c with
      | left gone => exact absurd rfl (hleft gone)
      | _ => exact ⟨_, hbetween.2⟩
    exact ⟨(c.node, ready), ExtTreeMap.mem_toList_iff_getElem?_eq_some.mpr hready,
      (Transition.present?_eq_some hready).mpr ⟨rfl, hbetween, hleft _⟩⟩

theorem mem_nodesGone {node : String} :
    node ∈ nodesGone previous current ↔ (Transition.left node).Between previous current := by
  rw [nodesGone, List.mem_filter, ExtTreeMap.mem_keys, Bool.not_eq_true', ← Bool.not_eq_true,
    ExtTreeMap.contains_iff_mem, not_mem_iff, mem_iff_exists, Transition.Between]

/-- The changes are those that take place. -/
theorem mem_transitions {c : Transition} :
    c ∈ transitions previous current ↔ c.Between previous current := by
  rw [transitions_eq, List.mem_append, List.mem_map, mem_changesHere]
  constructor
  · rintro (h | ⟨node, hnode, rfl⟩)
    · exact h.1
    · exact mem_nodesGone.mp hnode
  · intro h
    cases c with
    | left gone => exact Or.inr ⟨gone, mem_nodesGone.mpr h, rfl⟩
    | _ => exact Or.inl ⟨h, nofun⟩

theorem changesHere_ascending :
    ((changesHere previous current).map Transition.node).Pairwise (· < ·) := by
  rw [List.pairwise_map, changesHere, List.pairwise_filterMap]
  refine ExtTreeMap.ordered_keys_toList.imp_of_mem ?_
  intro x y hx hy hlt c hc d hd
  have hx := ExtTreeMap.mem_toList_iff_getElem?_eq_some.mp hx
  have hy := ExtTreeMap.mem_toList_iff_getElem?_eq_some.mp hy
  rw [((Transition.present?_eq_some hx).mp hc).1, ((Transition.present?_eq_some hy).mp hd).1]
  exact compare_eq_lt_iff.mp hlt

theorem nodesGone_ascending : (nodesGone previous current).Pairwise (· < ·) :=
  (ExtTreeMap.ordered_keys.imp fun h => compare_eq_lt_iff.mp h).filter _

theorem nodup_nodes : ((transitions previous current).map Transition.node).Nodup := by
  rw [transitions_eq, List.map_append, List.map_map, List.nodup_append]
  have hgone : (nodesGone previous current).map (Transition.node ∘ Transition.left) =
      nodesGone previous current := List.map_id _
  rw [hgone]
  refine ⟨nodup_of_ascending changesHere_ascending, nodup_of_ascending nodesGone_ascending, ?_⟩
  -- a node that is there is not gone
  rintro a ha b hb rfl
  obtain ⟨c, hc, rfl⟩ := List.mem_map.mp ha
  obtain ⟨hbetween, hleft⟩ := mem_changesHere.mp hc
  have hnone := (mem_nodesGone.mp hb).2
  cases c with
  | left gone => exact hleft gone rfl
  | _ =>
    obtain ⟨-, hcurrent⟩ := hbetween
    simp only [Transition.node] at hnone
    rw [hcurrent] at hnone
    cases hnone

/-! ## One map after another -/

/-- A patch gives each node that it names the entry of the map that it leads to. -/
theorem lookup_patch {changes : List Transition} (r : Readiness)
    (h : ∀ c ∈ changes, c.after = current[c.node]?) (node : String) :
    (changes.foldl Transition.apply r)[node]? =
      if node ∈ changes.map Transition.node then current[node]? else r[node]? := by
  induction changes generalizing r with
  | nil => rfl
  | cons c rest ih =>
    rw [List.foldl_cons, ih (c.apply r) fun d hd => h d (List.mem_cons_of_mem c hd),
      Transition.lookup_apply, h c List.mem_cons_self]
    by_cases hc : c.node = node
    · simp [hc]
    · simp [hc, Ne.symm hc]

theorem patch_transitions (previous current : Readiness) :
    (transitions previous current).foldl Transition.apply previous = current := by
  refine ExtTreeMap.ext_getElem? fun {node} => ?_
  rw [lookup_patch previous fun c hc => Transition.after_of_between (mem_transitions.mp hc)]
  split
  · rfl
  · next hnode =>
    refine Decidable.byContradiction fun hne => hnode ?_
    obtain ⟨c, rfl, hc⟩ := Transition.exists_between hne
    exact List.mem_map_of_mem (mem_transitions.mpr hc)

theorem difference (previous current : Readiness) :
    Difference previous current (transitions previous current) where
  patch := patch_transitions previous current
  exact _ := mem_transitions
  once := nodup_nodes
  differs _ hc := Transition.ne_of_between (mem_transitions.mp hc)
  joined _ _ hc := not_mem_iff.mpr (mem_transitions.mp hc).1
  present c hc hjoined := by
    have hbetween := mem_transitions.mp hc
    rw [mem_iff_exists]
    cases c with
    | joined node ready => exact absurd rfl (hjoined node ready)
    | left gone => exact hbetween.1
    | _ => exact ⟨_, hbetween.1⟩
  nothing := by
    constructor
    · intro hnil
      have hpatch := patch_transitions previous current
      rwa [hnil] at hpatch
    · rintro rfl
      refine List.eq_nil_iff_forall_not_mem.mpr fun c hc => ?_
      exact Transition.ne_of_between (mem_transitions.mp hc) rfl
  ascending :=
    ⟨changesHere previous current, nodesGone previous current, rfl,
      fun node hnode => (mem_changesHere.mp hnode).2 node rfl, changesHere_ascending,
      nodesGone_ascending⟩

end

theorem replay_differences (seen : Nat → Readiness) (count : Nat) :
    (differences seen count).foldl Transition.apply (seen 0) = seen count := by
  induction count with
  | zero => rfl
  | succ count ih =>
    rw [differences, List.range_succ, List.flatMap_append, List.flatMap_singleton,
      List.foldl_append, ← differences, ih]
    exact patch_transitions (seen count) (seen (count + 1))

/-! ## The passes of the node controller -/

namespace Activity

theorem logLines_append (a b : Activity) : logLines (a ++ b) = a.logLines ++ b.logLines :=
  List.filterMap_append

theorem logLines_flatMap {α : Type} (l : List α) (f : α → Activity) :
    logLines (l.flatMap f) = l.flatMap fun a => (f a).logLines :=
  List.filterMap_flatMap

/-- What is done changes the series of the cluster as its writes do. -/
theorem seriesOf_record (a : Activity) {cluster controller : String} {m : Metrics.Store}
    {P : SeriesKey → Prop} (h : m.Parted P cluster) (hown : ∀ controller, P ⟨cluster, controller⟩) :
    (a.record cluster controller m).seriesOf cluster =
      (a.writes controller).foldl Series.write (m.seriesOf cluster) := by
  have hfold := seriesOf_foldl_record hown (a.map fun x => (x.1, controller, x.2)) h
  rwa [List.foldl_map, List.filterMap_map] at hfold

end Activity

namespace Node

variable {t : Term}

variable (t) in
/-- What the passes of the controller see, and nothing before the first. -/
def seen : Nat → Readiness
  | 0 => ∅
  | k + 1 => readinessAt t (t.due (since t) k)

variable (t) in
/-- What a pass does. -/
def pass (k : Nat) : Activity := passEffects t (t.due (since t) k) (seen t k) (seen t (k + 1))

theorem due_mono {i j : Nat} (h : i ≤ j) : t.due (since t) i ≤ t.due (since t) j :=
  Nat.add_le_add_left (Nat.mul_le_mul_right _ h) _

/-- The passes from one on are made until the token fires. -/
theorem passesFrom_eq (t : Term) (count k : Nat) :
    ∃ n, (∀ i, i < n ↔ i < count ∧ t.stoppedBy (t.due (since t) (k + i)) = false) ∧
      passesFrom t count k (seen t k) = (List.range' k n).flatMap (pass t) := by
  induction count generalizing k with
  | zero => exact ⟨0, by simp, rfl⟩
  | succ count ih =>
    cases hstopped : t.stoppedBy (t.due (since t) k) with
    | true =>
      refine ⟨0, fun i => iff_of_false (Nat.not_lt_zero i) ?_, by simp [passesFrom, hstopped]⟩
      rintro ⟨-, hi⟩
      rw [Term.stoppedBy_mono (due_mono (Nat.le_add_right k i)) hi] at hstopped
      cases hstopped
    | false =>
      obtain ⟨n, hn, hrest⟩ := ih (k + 1)
      refine ⟨n + 1, fun i => ?_, ?_⟩
      · cases i with
        | zero => simpa using hstopped
        | succ i =>
          rw [Nat.add_lt_add_iff_right, Nat.add_lt_add_iff_right, hn, Nat.add_right_comm,
            Nat.add_assoc]
      · rw [List.range'_succ, List.flatMap_cons, ← hrest]
        simp only [passesFrom, hstopped, Bool.false_eq_true, if_false]
        rfl

theorem due_le_of_lt_dueBy {horizon : Moment} {k : Nat} (h : k < t.dueBy (since t) horizon) :
    t.due (since t) k ≤ horizon := by
  unfold Term.dueBy at h
  split at h
  · next hle =>
    have hmul : k * t.period ≤ horizon - since t :=
      Nat.le_trans (Nat.mul_le_mul_right _ (Nat.le_of_lt_succ h)) (Nat.div_mul_le_self _ _)
    exact (Nat.le_sub_iff_add_le' hle).mp hmul
  · cases h

/-- What the controller does between its first line and its last. -/
theorem done_eq (t : Term) (horizon : Moment) :
    ∃ passes, (∀ k, k < passes ↔
        wait t = .ready ∧ k < t.dueBy (since t) horizon ∧ t.stoppedBy (t.due (since t) k) = false) ∧
      Activity.upTo (done t horizon) horizon = (List.range passes).flatMap (pass t) := by
  cases hwait : wait t with
  | ready =>
    obtain ⟨n, hn, hpasses⟩ := passesFrom_eq t (t.dueBy (since t) horizon) 0
    simp only [Nat.zero_add] at hn
    refine ⟨n, fun k => by simp [hn], ?_⟩
    have hdone : done t horizon = (List.range n).flatMap (pass t) := by
      rw [List.range_eq_range', ← hpasses, done, hwait]
      rfl
    rw [hdone]
    refine upTo_eq_self fun x hx => ?_
    obtain ⟨k, hk, hx⟩ := List.mem_flatMap.mp hx
    rw [(of_mem_passEffects hx).1]
    exact due_le_of_lt_dueBy ((hn k).mp (List.mem_range.mp hk)).1
  | _ =>
    refine ⟨0, fun k => by simp, ?_⟩
    rw [done, hwait]
    rfl

theorem logLines_pass (k : Nat) :
    (pass t k).logLines =
      (transitions (seen t k) (seen t (k + 1))).map (Transition.line t.cluster) := by
  have hlines : Activity.logLines ((transitions (seen t k) (seen t (k + 1))).map fun change =>
      (t.due (since t) k, Effect.log (change.line t.cluster))) =
        (transitions (seen t k) (seen t (k + 1))).map (Transition.line t.cluster) := by
    rw [Activity.logLines, List.filterMap_map]
    exact congrFun List.filterMap_eq_map' _
  rw [pass, passEffects, Activity.logLines_append, hlines]
  exact List.append_nil _

theorem writes_pass (k : Nat) :
    (pass t k).writes name = [.sync name, .objects name (readyCount (seen t (k + 1)))] := by
  rw [pass, passEffects, Activity.writes_append, Activity.writes_eq_nil, List.nil_append]
  · rfl
  · intro x hx
    obtain ⟨change, -, rfl⟩ := List.mem_map.mp hx
    exact ⟨_, rfl⟩

theorem account_of_done {horizon : Moment} {passes : Nat}
    (hmade : ∀ k, k < passes ↔
      wait t = .ready ∧ k < t.dueBy (since t) horizon ∧ t.stoppedBy (t.due (since t) k) = false)
    (hdone : Activity.upTo (done t horizon) horizon = (List.range passes).flatMap (pass t)) :
    Account t horizon passes (seen t) := by
  let first : Activity := Activity.upTo [(t.start, .log (startLine t))] horizon
  let last : Activity := (t.leave (wait t) (stopLine t)).upTo horizon
  have hrun : run t horizon = first ++ (List.range passes).flatMap (pass t) ++ last := by
    rw [run_eq, ← List.singleton_append, Activity.upTo_append, Activity.upTo_append, hdone]
  have hfirst : ∀ x ∈ first, x.2 = .log (startLine t) := fun x hx => by
    rw [List.mem_singleton.mp (Activity.mem_upTo.mp hx).1]
  have hlast : ∀ x ∈ last, x.2 = .log (stopLine t) := fun x hx =>
    Term.log_of_mem_leave (Activity.mem_upTo.mp hx).1
  have onlyLine {a : Activity} {line : LogLine} (ha : ∀ x ∈ a, x.2 = .log line) :
      (∀ l ∈ a.logLines, l = line) ∧ a.writes name = [] := by
    refine ⟨fun l hl => ?_, Activity.writes_eq_nil fun x hx => ⟨line, ha x hx⟩⟩
    obtain ⟨x, hx, hline⟩ := List.mem_filterMap.mp hl
    simpa [ha x hx] using hline.symm
  have hwrites : (run t horizon).writes name =
      Series.passWrites name (fun k => readyCount (seen t (k + 1))) passes := by
    rw [hrun, Activity.writes_append, Activity.writes_append, (onlyLine hfirst).2,
      (onlyLine hlast).2, List.nil_append, List.append_nil, Activity.writes,
      List.filterMap_flatMap]
    exact congrArg (List.flatMap · _) (funext writes_pass)
  have hrecords {m : Metrics.Store} {P : SeriesKey → Prop} (h : m.Parted P t.cluster)
      (hown : ∀ controller, P ⟨t.cluster, controller⟩) :
      ((run t horizon).record t.cluster name m).seriesOf t.cluster =
        (Series.passWrites name (fun k => readyCount (seen t (k + 1))) passes).foldl Series.write
          (m.seriesOf t.cluster) := by
    rw [Activity.seriesOf_record _ h hown, hwrites]
  obtain ⟨names, hnodup, hnames, hcount⟩ := readyCount_eq (seen t passes)
  refine ⟨?_, ⟨rfl, fun k _ => snapshot_readinessAt t _⟩,
    ⟨first.logLines, last.logLines, ?_, (onlyLine hfirst).1, (onlyLine hlast).1⟩,
    replay_differences (seen t) passes, ?_, names, hnodup, hnames, ?_⟩
  · intro hperiod k
    rw [hmade, Term.lt_dueBy hperiod]
  · rw [hrun, Activity.logLines_append, Activity.logLines_append, Activity.logLines_flatMap,
      differences, List.map_flatMap]
    simp only [logLines_pass]
  · intro m P h hown
    have hsyncs := (Series.foldl_passWrites (m.seriesOf t.cluster) name
      (fun k => readyCount (seen t (k + 1))) passes).1
    rwa [← hrecords h hown] at hsyncs
  · intro m P h hown
    have hobjects := (Series.foldl_passWrites (m.seriesOf t.cluster) name
      (fun k => readyCount (seen t (k + 1))) passes).2
    rw [← hrecords h hown] at hobjects
    refine hobjects.trans ?_
    split
    · rfl
    · next hpasses => rw [Nat.sub_add_cancel (Nat.pos_of_ne_zero hpasses), hcount]

end Node

/-- The changes between two maps of nodes are exact and minimal.  So what is told of any maps one
after another leads from the first to the last, and what the node controller tells of its passes
leads from nothing to what it has seen last. -/
theorem transitions_exact :
    (∀ previous current, Difference previous current (transitions previous current)) ∧
      (∀ (maps : Nat → Readiness) (count : Nat),
        (differences maps count).foldl Transition.apply (maps 0) = maps count) ∧
      ∀ (t : Term) (horizon : Moment), ∃ passes seen, Node.Account t horizon passes seen := by
  refine ⟨difference, replay_differences, fun t horizon => ?_⟩
  obtain ⟨passes, hmade, hdone⟩ := Node.done_eq t horizon
  exact ⟨passes, Node.seen t, Node.account_of_done hmade hdone⟩

/-- A cluster with three nodes, one of which gets ready later, while another is deleted. -/
def Node.trialTerm : Term :=
  let node (name status : String) : Kube.Node :=
    { identity := { name }, conditions := [("MemoryPressure", "False"), ("Ready", status)] }
  { cluster := "alpha"
    start := 0
    period := 10
    informers := {
      start := some 0
      world := {
        nodes := {
          base := [node "n1" "True", node "n2" "False", node "n3" "True"]
          takes := 4
          events := [⟨8, false, node "n2" "True"⟩, ⟨20, true, node "n1" "True"⟩] } } } }

/-- Its passes count two ready nodes, then three, and then two again. -/
theorem transitions_exact_trial :
    (∃ seen, Node.Account Node.trialTerm 24 3 seen) ∧
      [4, 14, 24].map (fun horizon =>
          ((Node.run Node.trialTerm horizon).record "alpha" Node.name {}).objects.value?
            ⟨"alpha", Node.name⟩) = [some 2, some 3, some 2] ∧
      ((Node.run Node.trialTerm 24).record "alpha" Node.name {}).syncs.value?
        ⟨"alpha", Node.name⟩ = some 3 := by
  obtain ⟨passes, seen, haccount⟩ := transitions_exact.2.2 Node.trialTerm 24
  have hmade := haccount.made (by decide)
  have hlast : 2 < passes := (hmade 2).mpr (by decide +kernel)
  have hnone : ¬ 3 < passes := fun h => absurd ((hmade 3).mp h).2.1 (by decide +kernel)
  obtain rfl : passes = 3 := by omega
  exact ⟨⟨seen, haccount⟩, by decide +kernel, by decide +kernel⟩

end Flotilla.Controllers
