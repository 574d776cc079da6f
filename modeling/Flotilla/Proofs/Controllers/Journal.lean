import Flotilla.Proofs.Controllers.Backends

/-!
# The journal of the service controller

A pass of the service controller tells which load balancers have appeared since the pass before it
and which have disappeared.  Whatever happens to the services in between, the journal is faithful:
each pass compares what its store holds with what the store held at the pass before (`Held`), and
nothing else is remembered.

* `Journal`: what the passes tell, taken together.
* `mem_known`, `mem_added`, `mem_removed`: the lists against the stores.
* `replay_eq`, `removed_between`: the lists of one pass after another.
* `Change.line_inj`, `filter_run`: the lines in the log are those of the lists.
-/

namespace Flotilla.Controllers

open Std (ExtTreeSet)
open Time (Moment)

namespace Service

/-- The store of a pass. -/
def seen (t : Term) (k : Nat) : Apiserver.Objects Kube.Service :=
  t.informers.servicesAt (nth t k).begun

/-- At a pass there is a load balancer of this key. -/
def Held (t : Term) (k : Nat) (key : String) : Prop :=
  ∃ (id : Apiserver.ObjectKey) (s : Kube.Service),
    (seen t k)[id]? = some s ∧ s.isLoadBalancer = true ∧ s.key = key

/-- There was one at the pass before. -/
def HeldBefore (t : Term) : Nat → String → Prop
  | 0, _ => False
  | k + 1, key => Held t k key

/-- A load balancer appears or disappears. -/
inductive Change where
  | appeared
  | disappeared
deriving DecidableEq

/-- The keys that a pass tells of. -/
def Change.keys (s : Summary) : Change → List String
  | .appeared => s.added
  | .disappeared => s.removed

/-- The line that tells of a key. -/
def Change.line (cluster key : String) : Change → LogLine
  | .appeared => .info s!"LoadBalancer service {key} appeared in cluster {cluster}"
  | .disappeared => .info s!"LoadBalancer service {key} disappeared from cluster {cluster}"

/-- The keys after a pass, by what it tells. -/
def Summary.replay (keys : ExtTreeSet String) (s : Summary) : ExtTreeSet String :=
  s.added.foldl .insert (s.removed.foldl .erase keys)

/-- The journal of a service controller is faithful. -/
structure Journal (t : Term) : Prop where
  /-- The completed passes come one after another from the first on. -/
  initial : ∀ horizon,
    completed t horizon = (List.range (completed t horizon).length).map (nth t)
  /-- A pass is completed when it has ended, unless the controller is stopped before that. -/
  made : 0 < t.period → ∀ horizon k, k < (completed t horizon).length ↔
    wait t = .ready ∧ (nth t k).ended ≤ horizon ∧ t.stoppedBy (nth t k).ended = false
  /-- Known are the load balancers of the pass. -/
  known : ∀ k key, key ∈ (nth t k).known ↔ Held t k key
  /-- Added are, in ascending order, those that were not there at the pass before. -/
  added : ∀ k, (nth t k).summary.added.Pairwise (· < ·) ∧
    ∀ key, key ∈ (nth t k).summary.added ↔ Held t k key ∧ ¬ HeldBefore t k key
  /-- Removed are, in ascending order, those that were there then and are no more. -/
  removed : ∀ k, (nth t k).summary.removed.Pairwise (· < ·) ∧
    ∀ key, key ∈ (nth t k).summary.removed ↔ HeldBefore t k key ∧ ¬ Held t k key
  /-- Nothing is added and removed at once. -/
  disjoint : ∀ k key, key ∈ (nth t k).summary.added → key ∉ (nth t k).summary.removed
  /-- What is known can be read off what was added and removed so far. -/
  replay : ∀ k, ((List.range (k + 1)).map fun i => (nth t i).summary).foldl Summary.replay ∅ =
    (nth t k).known
  /-- A key is not added again before it was removed. -/
  once : ∀ i j key, i < j → key ∈ (nth t i).summary.added → key ∈ (nth t j).summary.added →
    ∃ m, i < m ∧ m < j ∧ key ∈ (nth t m).summary.removed
  /-- Only the type counts that a service has now. -/
  present : ∀ k (id : Apiserver.ObjectKey) s, (seen t k)[id]? = some s →
    (s.key ∈ (nth t k).known ↔ s.isLoadBalancer = true)
  /-- The log tells of each key when it is added or removed, and not otherwise. -/
  told : ∀ (change : Change) key withLookups horizon,
    (run t withLookups horizon).filter (fun x => x.2 = .log (change.line t.cluster key)) =
      ((completed t horizon).filter fun pass => key ∈ change.keys pass.summary).map fun pass =>
        (pass.ended, .log (change.line t.cluster key))
  /-- What a pass finds of its load balancers and their backends. -/
  counts : ∀ k, Counts t (nth t k)
  /-- The lookups of the completed passes are made. -/
  asked : ∀ horizon, (completed t horizon).flatMap (·.lookups) <+: lookupsBegun t horizon

variable {t : Term}

/-! ## What is known -/

theorem mem_known (k : Nat) (key : String) : key ∈ (nth t k).known ↔ Held t k key := by
  have hknown : (nth t k).known =
      ExtTreeSet.ofList ((balancersAt t (nth t k).begun).map Kube.Service.key) := by
    rw [nth_eq]
    rfl
  rw [hknown, mem_listed, List.mem_map]
  constructor
  · rintro ⟨s, hs, rfl⟩
    obtain ⟨hs, htype⟩ := List.mem_filter.mp hs
    obtain ⟨id, hid⟩ := mem_values.mp hs
    exact ⟨id, s, hid, htype, rfl⟩
  · rintro ⟨id, s, hid, htype, rfl⟩
    exact ⟨s, List.mem_filter.mpr ⟨mem_values.mpr ⟨id, hid⟩, htype⟩, rfl⟩

theorem mem_knownBefore (k : Nat) (key : String) : key ∈ knownBefore t k ↔ HeldBefore t k key := by
  cases k with
  | zero => exact iff_of_false ExtTreeSet.not_mem_empty id
  | succ k => exact mem_known k key

theorem added_eq (t : Term) (k : Nat) : (nth t k).summary.added =
    (nth t k).known.toList.filter fun key => !(knownBefore t k).contains key := by
  rw [nth_eq]
  rfl

theorem removed_eq (t : Term) (k : Nat) : (nth t k).summary.removed =
    (knownBefore t k).toList.filter fun key => !(nth t k).known.contains key := by
  rw [nth_eq]
  rfl

theorem added_ascending (t : Term) (k : Nat) : (nth t k).summary.added.Pairwise (· < ·) := by
  rw [added_eq]
  exact (toList_ascending _).filter _

theorem removed_ascending (t : Term) (k : Nat) : (nth t k).summary.removed.Pairwise (· < ·) := by
  rw [removed_eq]
  exact (toList_ascending _).filter _

theorem mem_difference {keys others : ExtTreeSet String} {key : String} :
    (key ∈ keys.toList.filter fun key => !others.contains key) ↔ key ∈ keys ∧ key ∉ others := by
  rw [List.mem_filter, ExtTreeSet.mem_toList, Bool.not_eq_true', ← Bool.not_eq_true,
    ExtTreeSet.contains_iff_mem]

theorem mem_added (k : Nat) (key : String) :
    key ∈ (nth t k).summary.added ↔ Held t k key ∧ ¬ HeldBefore t k key := by
  rw [added_eq, mem_difference, mem_known, mem_knownBefore]

theorem mem_removed (k : Nat) (key : String) :
    key ∈ (nth t k).summary.removed ↔ HeldBefore t k key ∧ ¬ Held t k key := by
  rw [removed_eq, mem_difference, mem_known, mem_knownBefore]

/-! ## Reading off what is known -/

theorem mem_foldl_erase (keys : ExtTreeSet String) (l : List String) (key : String) :
    key ∈ l.foldl .erase keys ↔ key ∈ keys ∧ key ∉ l := by
  induction l generalizing keys with
  | nil => simp
  | cons a l ih =>
    rw [List.foldl_cons, ih, ExtTreeSet.mem_erase, List.mem_cons]
    simp only [ne_eq, Std.compare_eq_iff_eq, not_or, eq_comm (a := a), and_assoc]
    exact and_left_comm

theorem mem_foldl_insert (keys : ExtTreeSet String) (l : List String) (key : String) :
    key ∈ l.foldl .insert keys ↔ key ∈ keys ∨ key ∈ l := by
  induction l generalizing keys with
  | nil => simp
  | cons a l ih =>
    rw [List.foldl_cons, ih, ExtTreeSet.mem_insert, List.mem_cons]
    simp only [Std.compare_eq_iff_eq, eq_comm (a := a), or_assoc]
    exact or_left_comm

/-- A pass tells everything that has changed. -/
theorem replay_knownBefore (t : Term) (k : Nat) :
    (nth t k).summary.replay (knownBefore t k) = (nth t k).known := by
  refine ExtTreeSet.ext_mem fun key => ?_
  rw [Summary.replay, mem_foldl_insert, mem_foldl_erase, mem_added, mem_removed, mem_knownBefore,
    mem_known]
  by_cases hbefore : HeldBefore t k key <;> by_cases hnow : Held t k key <;> simp [hbefore, hnow]

theorem replay_eq (t : Term) (k : Nat) :
    ((List.range k).map fun i => (nth t i).summary).foldl Summary.replay ∅ = knownBefore t k := by
  induction k with
  | zero => rfl
  | succ k ih =>
    rw [List.range_succ, List.map_append, List.foldl_append, ih]
    exact replay_knownBefore t k

/-- What held and holds no more has ended at some point in between. -/
theorem exists_end {p : Nat → Prop} {i j : Nat} (hle : i ≤ j) (hi : p i) (hj : ¬ p j) :
    ∃ m, i ≤ m ∧ m < j ∧ p m ∧ ¬ p (m + 1) := by
  induction j with
  | zero =>
    obtain rfl := Nat.le_zero.mp hle
    exact absurd hi hj
  | succ j ih =>
    rcases Nat.lt_or_eq_of_le hle with hlt | rfl
    · by_cases hp : p j
      · exact ⟨j, Nat.le_of_lt_succ hlt, Nat.lt_succ_self j, hp, hj⟩
      · obtain ⟨m, him, hmj, hm⟩ := ih (Nat.le_of_lt_succ hlt) hp
        exact ⟨m, him, Nat.lt_succ_of_lt hmj, hm⟩
    · exact absurd hi hj

theorem removed_between {i j : Nat} {key : String} (hij : i < j)
    (hi : key ∈ (nth t i).summary.added) (hj : key ∈ (nth t j).summary.added) :
    ∃ m, i < m ∧ m < j ∧ key ∈ (nth t m).summary.removed := by
  obtain ⟨hi, -⟩ := (mem_added i key).mp hi
  obtain ⟨-, hj⟩ := (mem_added j key).mp hj
  cases j with
  | zero => exact absurd hij (Nat.not_lt_zero i)
  | succ j =>
    obtain ⟨m, him, hmj, hm, hm'⟩ :=
      exists_end (p := fun k => Held t k key) (Nat.le_of_lt_succ hij) hi hj
    exact ⟨m + 1, Nat.lt_succ_of_le him, Nat.succ_lt_succ hmj, (mem_removed _ key).mpr ⟨hm, hm'⟩⟩

/-! ## The lines of the journal -/

theorem appeared_ne_disappeared (before before' : List Char) :
    before ++ " appeared in cluster ".toList ≠ before' ++ " disappeared from cluster ".toList := by
  have hin : " appeared in cluster ".toList = " appeared i".toList ++ "n cluster ".toList := rfl
  have hfrom : " disappeared from cluster ".toList = " disappeared fro".toList ++
      "m cluster ".toList := rfl
  rw [hin, hfrom, ← List.append_assoc, ← List.append_assoc]
  intro h
  have hend : "n cluster ".toList = "m cluster ".toList := List.append_inj_right' h (by decide)
  exact absurd hend (by decide)

theorem text_inj {before after cluster : List Char} {key key' : String}
    (h : before ++ key.toList ++ after ++ cluster = before ++ key'.toList ++ after ++ cluster) :
    key = key' := by
  have hkey := List.append_cancel_left (List.append_cancel_right (List.append_cancel_right h))
  exact String.toList_inj.mp hkey

/-- The lines for different changes and keys are different. -/
theorem Change.line_inj {cluster key key' : String} {c c' : Change}
    (h : c.line cluster key = c'.line cluster key') : c = c' ∧ key = key' := by
  have htext := congrArg (·.text.toList) h
  cases c with
  | appeared =>
    cases c' with
    | appeared =>
      simp only [line, LogLine.info, String.toList_append] at htext
      exact ⟨rfl, text_inj htext⟩
    | disappeared =>
      simp only [line, LogLine.info, String.toList_append] at htext
      exact absurd (List.append_cancel_right htext) (appeared_ne_disappeared _ _)
  | disappeared =>
    cases c' with
    | appeared =>
      simp only [line, LogLine.info, String.toList_append] at htext
      exact absurd (List.append_cancel_right htext).symm (appeared_ne_disappeared _ _)
    | disappeared =>
      simp only [line, LogLine.info, String.toList_append] at htext
      exact ⟨rfl, text_inj htext⟩

theorem Change.exists_line (cluster key : String) (c : Change) :
    ∃ rest, c.line cluster key = .info ("LoadBalancer service " ++ rest) := by
  cases c with
  | appeared =>
    refine ⟨key ++ (" appeared in cluster " ++ cluster), ?_⟩
    simp only [← String.append_assoc]
    rfl
  | disappeared =>
    refine ⟨key ++ (" disappeared from cluster " ++ cluster), ?_⟩
    simp only [← String.append_assoc]
    rfl

theorem startLine_ne_line (cluster key : String) (c : Change) :
    startLine t ≠ c.line cluster key := by
  obtain ⟨rest, hline⟩ := c.exists_line cluster key
  rw [hline, startLine]
  simp only [String.append_assoc]
  exact info_ne_info 1 (by decide) (by decide) (by decide) _ _

theorem stopLine_ne_line (cluster key : String) (c : Change) :
    stopLine t ≠ c.line cluster key := by
  obtain ⟨rest, hline⟩ := c.exists_line cluster key
  rw [hline, stopLine]
  simp only [String.append_assoc]
  split
  · exact info_ne_info 1 (by decide) (by decide) (by decide) _ _
  · exact info_ne_info 1 (by decide) (by decide) (by decide) _ _

/-- The lines of lookups are of other levels. -/
theorem line_not_mem_lookupLines (cluster key : String) (c : Change) (pass : Pass) :
    c.line cluster key ∉ pass.lookupLines cluster := by
  intro h
  obtain ⟨l, -, hl⟩ := List.mem_map.mp (List.mem_mergeSort.mp h)
  obtain ⟨rest, hline⟩ := c.exists_line cluster key
  rw [hline] at hl
  have hlevel := congrArg LogLine.level hl
  unfold Lookup.line at hlevel
  split at hlevel
  · cases hlevel
  · cases hlevel

theorem count_map_line (cluster key : String) (c c' : Change) (keys : List String) :
    (keys.map fun key => c'.line cluster key).count (c.line cluster key) =
      if c = c' then keys.count key else 0 := by
  induction keys with
  | nil => simp
  | cons k keys ih =>
    rw [List.map_cons, List.count_cons, ih, List.count_cons]
    split
    · next hc =>
      subst hc
      by_cases hk : k = key
      · simp [hk]
      · have hne : c.line cluster k ≠ c.line cluster key := fun h => hk (Change.line_inj h).2
        simp [hk, hne]
    · next hc =>
      have hne : c'.line cluster k ≠ c.line cluster key := fun h => hc (Change.line_inj h).1.symm
      simp [hne]

theorem count_lines (cluster key : String) (c : Change) (s : Summary) :
    (s.lines cluster).count (c.line cluster key) = (c.keys s).count key := by
  obtain ⟨text, hlines⟩ : ∃ text, s.lines cluster =
      (s.added.map fun key => Change.appeared.line cluster key) ++
        (s.removed.map fun key => Change.disappeared.line cluster key) ++ [.debug text] := ⟨_, rfl⟩
  have hlast : [LogLine.debug text].count (c.line cluster key) = 0 := by
    refine List.count_eq_zero.mpr fun h => ?_
    obtain ⟨rest, hline⟩ := c.exists_line cluster key
    rw [hline] at h
    cases congrArg LogLine.level (List.mem_singleton.mp h)
  rw [hlines, List.count_append, List.count_append, count_map_line, count_map_line, hlast]
  cases c with
  | appeared => rfl
  | disappeared => simp [Change.keys]

theorem filter_logs (m : Moment) (line : LogLine) (lines : List LogLine) :
    (lines.map fun line => (m, Effect.log line)).filter (fun x => x.2 = .log line) =
      List.replicate (lines.count line) (m, .log line) := by
  induction lines with
  | nil => rfl
  | cons l lines ih =>
    rw [List.map_cons, List.filter_cons, List.count_cons, ih]
    by_cases hl : l = line
    · simp [hl, List.replicate_succ]
    · simp [hl]

theorem nodup_keys (t : Term) (k : Nat) (c : Change) : (c.keys (nth t k).summary).Nodup := by
  cases c with
  | appeared => exact nodup_of_ascending (added_ascending t k)
  | disappeared => exact nodup_of_ascending (removed_ascending t k)

/-- A pass has one line for each key that it tells of. -/
theorem filter_passEffects (t : Term) (withLookups : Bool) (k : Nat) (key : String) (c : Change) :
    (passEffects t withLookups (nth t k)).filter (fun x => x.2 = .log (c.line t.cluster key)) =
      if key ∈ c.keys (nth t k).summary then [((nth t k).ended, .log (c.line t.cluster key))]
      else [] := by
  have hlookups : (if withLookups then (nth t k).lookupLines t.cluster else []).count
      (c.line t.cluster key) = 0 := by
    refine List.count_eq_zero.mpr fun h => ?_
    split at h
    · exact line_not_mem_lookupLines _ _ _ _ h
    · cases h
  have hrest : [((nth t k).ended, Effect.sync),
      ((nth t k).ended, .objects (nth t k).summary.loadBalancers)].filter
        (fun x => x.2 = .log (c.line t.cluster key)) = [] := by
    simp
  rw [passEffects, List.filter_append, hrest, List.append_nil, filter_logs, List.count_append,
    hlookups, Nat.zero_add, count_lines, (nodup_keys t k c).count]
  split
  · rfl
  · rfl

/-- The log has one line for each key that a completed pass tells of, and no other such line. -/
theorem filter_run (t : Term) (withLookups : Bool) (horizon : Moment) (key : String) (c : Change) :
    (run t withLookups horizon).filter (fun x => x.2 = .log (c.line t.cluster key)) =
      ((completed t horizon).filter fun pass => key ∈ c.keys pass.summary).map fun pass =>
        (pass.ended, .log (c.line t.cluster key)) := by
  have hfirst : (Activity.upTo [(t.start, .log (startLine t))] horizon).filter
      (fun x => x.2 = .log (c.line t.cluster key)) = [] := by
    refine List.filter_eq_nil_iff.mpr fun x hx => ?_
    rw [List.mem_singleton.mp (Activity.mem_upTo.mp hx).1]
    simp [startLine_ne_line]
  have hlast : ((t.leave (wait t) (stopLine t)).upTo horizon).filter
      (fun x => x.2 = .log (c.line t.cluster key)) = [] := by
    refine List.filter_eq_nil_iff.mpr fun x hx => ?_
    rw [Term.log_of_mem_leave (Activity.mem_upTo.mp hx).1]
    simp [stopLine_ne_line]
  rw [run_eq_completed, List.filter_append, List.filter_append, hfirst, hlast, List.nil_append,
    List.append_nil, List.filter_flatMap, completed_eq_map]
  induction List.range (completed t horizon).length with
  | nil => rfl
  | cons k ks ih =>
    rw [List.map_cons, List.flatMap_cons, ih, filter_passEffects, List.filter_cons]
    by_cases hk : key ∈ c.keys (nth t k).summary <;> simp [hk]

/-! ## The lookups of the completed passes -/

/-- The store tells its load balancers apart. -/
theorem counts_nth (hfits : ∀ s, t.informers.world.services.Tells s → Apiserver.NamespaceFits s)
    (k : Nat) : Counts t (nth t k) := by
  rw [nth_eq]
  refine counts t (nth t k).begun (knownBefore t k) ?_
  have hkeeps := t.informers.keeps_storeAt t.informers.world.services (nth t k).begun
  exact (hkeeps.nodup_keys hfits).sublist (List.filter_sublist.map _)

theorem lookupsBegun_eq (t : Term) (horizon : Moment) : lookupsBegun t horizon =
    (((passes t horizon).map (·.1)).flatMap (·.lookups)).filter fun l =>
      l.begun ≤ horizon && !t.stoppedBy l.begun := by
  rw [List.flatMap_map]
  rfl

theorem lookups_prefix (t : Term) (horizon : Moment) :
    (completed t horizon).flatMap (·.lookups) <+: lookupsBegun t horizon := by
  obtain ⟨rest, hrest⟩ := completed_prefix t horizon
  have hbegun : ((completed t horizon).flatMap (·.lookups)).filter
      (fun l => l.begun ≤ horizon && !t.stoppedBy l.begun) =
        (completed t horizon).flatMap (·.lookups) := by
    refine List.filter_eq_self.mpr fun l hl => ?_
    obtain ⟨pass, hpass, hl⟩ := List.mem_flatMap.mp hl
    obtain ⟨k, hk⟩ := List.mem_iff_getElem?.mp hpass
    obtain ⟨hk, hended⟩ := getElem?_completed.mp hk
    obtain ⟨hnth, hcompleted⟩ := of_getElem?_passes hk
    rw [show pass = nth t k from hnth] at hl hended hcompleted
    have hopen : t.stoppedBy (nth t k).ended = false := by simpa using hcompleted
    have hbegun : l.begun ≤ (nth t k).ended := by
      rw [nth_eq] at hl ⊢
      exact Nat.le_trans (awaited hl).1 (awaited hl).2
    rw [Term.stoppedBy_mono hbegun hopen, decide_eq_true (Nat.le_trans hbegun hended)]
    rfl
  rw [lookupsBegun_eq, ← hrest, List.flatMap_append, List.filter_append, hbegun]
  exact List.prefix_append _ _

/-! ## The journal -/

/-- Services of one key are the same service, so the key is known if that is a load balancer. -/
theorem known_iff_isLoadBalancer
    (hfits : ∀ s, t.informers.world.services.Tells s → Apiserver.NamespaceFits s) {k : Nat}
    {id : Apiserver.ObjectKey} {s : Kube.Service} (hs : (seen t k)[id]? = some s) :
    s.key ∈ (nth t k).known ↔ s.isLoadBalancer = true := by
  rw [mem_known]
  constructor
  · rintro ⟨id', s', hs', htype, hkey⟩
    have hkeeps := t.informers.keeps_storeAt t.informers.world.services (nth t k).begun
    obtain ⟨hid, htells⟩ := hkeeps id s hs
    obtain ⟨hid', htells'⟩ := hkeeps id' s' hs'
    have hsame := Apiserver.keyOf_eq_of_key_eq (hfits s' htells') (hfits s htells) hkey
    rw [hid, hid'] at hsame
    rw [hsame, hs] at hs'
    cases hs'
    exact htype
  · intro htype
    exact ⟨id, s, hs, htype, rfl⟩

/-- The journal of a service controller is faithful, if namespaces are without slashes. -/
theorem journal_faithful (t : Term)
    (hfits : ∀ s, t.informers.world.services.Tells s → Apiserver.NamespaceFits s) : Journal t where
  initial := completed_eq_map t
  made hperiod _ _ := lt_length_completed hperiod
  known := mem_known
  added k := ⟨added_ascending t k, mem_added k⟩
  removed k := ⟨removed_ascending t k, mem_removed k⟩
  disjoint k key hadded hremoved :=
    ((mem_removed k key).mp hremoved).2 ((mem_added k key).mp hadded).1
  replay k := replay_eq t (k + 1)
  once _ _ _ := removed_between
  present _ _ _ := known_iff_isLoadBalancer hfits
  told change key withLookups horizon := filter_run t withLookups horizon key change
  counts := counts_nth hfits
  asked := lookups_prefix t

/-- A cluster with two services that change their types and come and go. -/
def changingTerm : Term :=
  let service (name type : String) : Kube.Service := ⟨{ name, namespaceName := "shop" }, type⟩
  let endpoint (ready : Bool) : Kube.Value :=
    .object [("addresses", .list []), ("conditions", .object [("ready", .bool ready)])]
  { cluster := "alpha"
    start := 0
    period := 10
    informers := {
      start := some 0
      world := {
        lookups := [("shop/web", .slices [[endpoint true, endpoint false], [endpoint true]]),
          ("shop/api", .broken)]
        lookupTakes := 2
        services := {
          base := [service "web" "LoadBalancer", service "api" "ClusterIP"]
          events := [⟨5, false, service "api" "LoadBalancer"⟩,
            ⟨15, false, service "web" "ClusterIP"⟩,
            ⟨25, true, service "api" "LoadBalancer"⟩,
            ⟨25, false, service "web" "LoadBalancer"⟩] } } } }

/-- Its journal tells of a service once for each time that it becomes a load balancer or is one no
more, whether the service is deleted or takes another type. -/
theorem journal_faithful_changing :
    (∀ s, changingTerm.informers.world.services.Tells s → Apiserver.NamespaceFits s) ∧
    Journal changingTerm ∧
    (completed changingTerm 35).map (·.summary) =
      [ { added := ["shop/web"], removed := [], loadBalancers := 1, eligibleNodes := 0,
          readyBackends := 2, unresolved := 0 },
        { added := ["shop/api"], removed := [], loadBalancers := 2, eligibleNodes := 0,
          readyBackends := 2, unresolved := 1 },
        { added := [], removed := ["shop/web"], loadBalancers := 1, eligibleNodes := 0,
          readyBackends := 0, unresolved := 1 },
        { added := ["shop/web"], removed := ["shop/api"], loadBalancers := 1, eligibleNodes := 0,
          readyBackends := 2, unresolved := 0 } ] ∧
    ((run changingTerm true 35).filter fun x =>
      x.2 = .log (Change.appeared.line "alpha" "shop/web")).map (·.1) = [2, 32] := by
  have hbase : ∀ s ∈ changingTerm.informers.world.services.base, Apiserver.NamespaceFits s := by
    decide
  have hevents : ∀ e ∈ changingTerm.informers.world.services.events,
      Apiserver.NamespaceFits e.object := by decide
  have hfits : ∀ s, changingTerm.informers.world.services.Tells s → Apiserver.NamespaceFits s := by
    intro s hs
    rcases hs with hs | ⟨e, he, rfl⟩
    · exact hbase s hs
    · exact hevents e he
  have hjournal : Journal changingTerm := journal_faithful changingTerm hfits
  have htold := hjournal.told .appeared "shop/web" true 35
  refine ⟨hfits, hjournal, by decide +kernel, ?_⟩
  rw [show "alpha" = changingTerm.cluster from rfl, htold]
  decide +kernel

end Service

end Flotilla.Controllers
