import Flotilla.Controllers.Node
import Flotilla.Controllers.Service

/-!
# How controllers stop

When the token of a controller fires, the controller ends at once, whether it waits for a store, for
the next pass or for lookups.  All its passes were begun before, and the one that is under way comes
to nothing.  `Stops` says so of everything that a controller does.

* `passesFrom_add`: passes that would be due later are not made.
* `Service.stops`, `Node.stops`: the two controllers.
-/

namespace Flotilla.Controllers

open Apiserver (Feed Identified Informers)
open Std (ExtTreeSet)
open Time (Moment)

/-- What a controller does by a moment, when it is started at one moment and its token fires at
another.  It says that it starts, does what its passes do, and says at last that it stops. -/
structure Stops (start T : Moment) (first : LogLine) (done : Activity) (last : LogLine)
    (finish : Option Moment) (run : Moment → Activity) : Prop where
  /-- The controller ends with the last line. -/
  ends : ∃ m, m ≤ T ∧ finish = some m ∧
    ∀ t, T ≤ t → run t = (start, .log first) :: done ++ [(m, .log last)]
  /-- All passes end before the token fires. -/
  before : ∀ x ∈ done, x.1 < T
  /-- The last line comes once. -/
  once : ∀ x ∈ (start, .log first) :: done, x.2 ≠ .log last

namespace Stops

variable {start T : Moment} {first last : LogLine} {done : Activity} {finish : Option Moment}
  {run : Moment → Activity} (h : Stops start T first done last finish run)

include h

/-- Once the token has fired the controller does nothing more. -/
theorem settled {t : Moment} (ht : T ≤ t) : run t = run T := by
  obtain ⟨m, -, -, hrun⟩ := h.ends
  rw [hrun t ht, hrun T (Nat.le_refl T)]

theorem le_of_mem (hstart : start ≤ T) {x : Moment × Effect} (hx : x ∈ run T) : x.1 ≤ T := by
  obtain ⟨m, hm, -, hrun⟩ := h.ends
  rw [hrun T (Nat.le_refl T)] at hx
  simp only [List.cons_append, List.mem_cons, List.mem_append, List.not_mem_nil, or_false] at hx
  rcases hx with rfl | hx | rfl
  · exact hstart
  · exact Nat.le_of_lt (h.before x hx)
  · exact hm

end Stops

/-! ## The terms of a controller -/

namespace Term

variable {t : Term} {T : Moment}

theorem stoppedBy_iff (h : t.stop = some T) {m : Moment} : t.stoppedBy m = true ↔ T ≤ m := by
  simp [stoppedBy, Informers.endedBy, h]

/-- A token that has fired stays fired. -/
theorem stoppedBy_mono {m m' : Moment} (hle : m ≤ m') (h : t.stoppedBy m' = false) :
    t.stoppedBy m = false := by
  unfold stoppedBy Informers.endedBy at h ⊢
  split
  · rfl
  · next stop hstop =>
    simp only [hstop, decide_eq_false_iff_not, Nat.not_le] at h ⊢
    exact Nat.lt_of_le_of_lt hle h

theorem stoppedBy_max {a b : Moment} (ha : t.stoppedBy a = false) (hb : t.stoppedBy b = false) :
    t.stoppedBy (max a b) = false := by
  rcases Nat.le_total a b with h | h
  · rwa [Nat.max_eq_right h]
  · rwa [Nat.max_eq_left h]

/-! ### The waits -/

section

variable {α : Type}

theorem start_le_listedAt (t : Term) (feed : Feed α) : t.start ≤ t.listedAt feed := by
  unfold listedAt
  split
  · exact Nat.le_refl _
  · exact Nat.le_max_left _ _

/-- Where the informers are started with the controller, lists come as late as they do for them. -/
theorem listedAt_eq (hstart : t.informers.start = some t.start) (feed : Feed α) :
    t.listedAt feed = feed.listedAt t.start := by
  simp only [listedAt, hstart]
  exact Nat.max_eq_right (feed.le_listedAt t.start)

variable [Identified α]

/-- A store gets ready if its list comes before the token fires and can be stored. -/
theorem waitFor_eq_ready (hstart : t.informers.start = some t.start) (feed : Feed α) :
    t.waitFor feed = .ready ↔ t.stoppedBy (feed.listedAt t.start) = false ∧
      feed.ready (feed.listedAt t.start) = true := by
  simp only [waitFor, t.listedAt_eq hstart, hstart]
  cases t.stoppedBy (feed.listedAt t.start) <;> cases feed.ready (feed.listedAt t.start) <;>
    cases feed.silent <;> simp

theorem listed_of_waitFor {feed : Feed α} (h : t.waitFor feed = .ready) :
    t.stoppedBy (t.listedAt feed) = false := by
  unfold waitFor at h
  split at h
  · cases h
  · split at h
    · cases h
    · next hopen => exact Bool.eq_false_iff.mpr hopen

end

theorem waitBoth_eq_ready {m : Moment} {first second : Wait} :
    waitBoth m first second = .ready ↔ first = .ready ∧ second = .ready := by
  cases first <;> cases second <;> simp [waitBoth]

/-- A wait in vain ends after the start, and before the token fires. -/
def Timely (t : Term) (wait : Wait) : Prop :=
  ∀ m, wait = .lost m → t.start ≤ m ∧ t.stoppedBy m = false

theorem timely_waitFor {α : Type} [Identified α] (t : Term) (feed : Feed α) :
    t.Timely (t.waitFor feed) := by
  intro m hm
  unfold waitFor at hm
  split at hm
  · cases hm
  · split at hm
    · cases hm
    · next hopen =>
      split at hm
      · cases hm
      · split at hm
        · cases hm
        · cases hm
          exact ⟨t.start_le_listedAt feed, Bool.eq_false_iff.mpr hopen⟩

theorem timely_waitBoth {ready : Moment} {first second : Wait} (hfirst : t.Timely first)
    (hsecond : t.Timely second) (hready : first = .ready → t.stoppedBy ready = false) :
    t.Timely (waitBoth ready first second) := by
  intro m hm
  cases first with
  | ready =>
    cases second with
    | lost b =>
      obtain ⟨hstart, hopen⟩ := hsecond b rfl
      cases hm
      exact ⟨Nat.le_trans hstart (Nat.le_max_right _ _), stoppedBy_max (hready rfl) hopen⟩
    | _ => cases hm
  | lost a => exact hfirst m hm
  | forever => cases hm

/-- The line that a controller leaves at the end is the last there is. -/
theorem leave_eq (h : t.stop = some T) (hlater : t.start ≤ T) {wait : Wait} (hwait : t.Timely wait)
    (line : LogLine) :
    ∃ m, m ≤ T ∧ t.leave wait line = [(m, .log line)] ∧ t.finish wait = some m := by
  cases wait with
  | lost m =>
    have hlt : m < T := by
      rw [← Nat.not_le, ← stoppedBy_iff h, (hwait m rfl).2]
      exact Bool.false_ne_true
    exact ⟨m, Nat.le_of_lt hlt, rfl, rfl⟩
  | _ => exact ⟨max t.start T, Nat.max_le.mpr ⟨hlater, Nat.le_refl T⟩, by simp [leave, h],
      by simp [finish, h]⟩

/-- What no longer changes from the passes on that are due when the token fires is settled by
then. -/
theorem dueBy_settles {α : Type} {since : Moment} (f : Nat → α)
    (hf : ∀ n d, T ≤ t.due since n → f (n + d) = f n) (hlater : since ≤ T) {horizon : Moment}
    (h : T ≤ horizon) : f (t.dueBy since horizon) = f (t.dueBy since T) := by
  have hn : t.dueBy since T = (T - since) / t.period + 1 := if_pos hlater
  have hn' : t.dueBy since horizon = (horizon - since) / t.period + 1 :=
    if_pos (Nat.le_trans hlater h)
  rcases Nat.eq_zero_or_pos t.period with hp | hp
  · rw [hn, hn', hp, Nat.div_zero, Nat.div_zero]
  · have hle : t.dueBy since T ≤ t.dueBy since horizon := by
      rw [hn, hn']
      exact Nat.succ_le_succ (Nat.div_le_div_right (Nat.sub_le_sub_right h since))
    have hdue : T ≤ t.due since (t.dueBy since T) := by
      have hlt : T - since < t.dueBy since T * t.period := by
        rw [hn, Nat.mul_comm]
        exact Nat.lt_mul_div_succ (T - since) hp
      exact Nat.le_of_lt ((Nat.sub_lt_iff_lt_add' hlater).mp hlt)
    obtain ⟨d, hd⟩ := Nat.exists_eq_add_of_le hle
    rw [hd]
    exact hf _ d hdue

end Term

/-- Lines that begin differently are different. -/
theorem info_ne_info {a b : String} (n : Nat) (ha : n ≤ a.toList.length) (hb : n ≤ b.toList.length)
    (hab : a.toList.take n ≠ b.toList.take n) (x y : String) :
    LogLine.info (a ++ x) ≠ .info (b ++ y) := by
  intro h
  have h := congrArg (fun line : LogLine => line.text.toList.take n) h
  simp only [LogLine.info, String.toList_append, List.take_append_of_le_length ha,
    List.take_append_of_le_length hb] at h
  exact hab h

theorem upTo_eq_self {a : Activity} {t : Moment} (h : ∀ x ∈ a, x.1 ≤ t) : a.upTo t = a := by
  simp only [Activity.upTo, List.filter_eq_self, decide_eq_true_eq]
  exact fun x hx => h x hx

/-- A controller that ends with what it leaves, when what its passes do is settled, stops. -/
theorem Term.stops {t : Term} {T : Moment} (h : t.stop = some T) (hlater : t.start ≤ T)
    {wait : Wait} (hwait : t.Timely wait) {first last : LogLine} (done : Moment → Activity) {run : Moment → Activity}
    (hrun : ∀ horizon, run horizon =
      Activity.upTo ((t.start, .log first) :: done horizon ++ t.leave wait last) horizon)
    (hsettled : ∀ horizon, T ≤ horizon → done horizon = done T)
    (hdone : ∀ x ∈ done T, x.1 < T ∧ x.2 ≠ .log last) (hfirst : Effect.log first ≠ .log last) :
    Stops t.start T first (done T) last (t.finish wait) run where
  ends := by
    obtain ⟨m, hm, hleave, hfinish⟩ := t.leave_eq h hlater hwait last
    refine ⟨m, hm, hfinish, fun horizon hT => ?_⟩
    rw [hrun, hleave, hsettled horizon hT]
    refine upTo_eq_self fun x hx => ?_
    simp only [List.cons_append, List.mem_cons, List.mem_append, List.not_mem_nil, or_false] at hx
    rcases hx with rfl | hx | rfl
    · exact Nat.le_trans hlater hT
    · exact Nat.le_trans (Nat.le_of_lt (hdone x hx).1) hT
    · exact Nat.le_trans hm hT
  before x hx := (hdone x hx).1
  once x hx := by
    rcases List.mem_cons.mp hx with rfl | hx
    · exact hfirst
    · exact (hdone x hx).2

/-! ## The service controller -/

namespace Service

variable {t : Term} {T : Moment}

/-- A pass that would be due when the token has fired is not made. -/
theorem passesFrom_add (h : t.stop = some T) (d : Nat) {count k : Nat} {free : Moment}
    {known : ExtTreeSet String} (hlate : T ≤ t.due (since t) (k + count)) :
    passesFrom t (count + d) k free known = passesFrom t count k free known := by
  induction count generalizing k free known with
  | zero =>
    cases d with
    | zero => rfl
    | succ d =>
      have hstopped : t.stoppedBy (max (t.due (since t) k) free) = true :=
        (t.stoppedBy_iff h).mpr (Nat.le_trans hlate (Nat.le_max_left _ _))
      simp [passesFrom, hstopped]
  | succ count ih =>
    rw [Nat.succ_add]
    simp only [passesFrom, ih (k := k + 1) (by rwa [Nat.add_right_comm])]

/-- Every pass is begun before the token fires, and it is completed if it ends before that. -/
theorem of_mem_passesFrom (h : t.stop = some T) {count k : Nat} {free : Moment}
    {known : ExtTreeSet String} {pass : Pass} {completed : Bool}
    (hp : (pass, completed) ∈ passesFrom t count k free known) :
    pass.begun < T ∧ (completed = true ↔ pass.ended < T) := by
  induction count generalizing k free known with
  | zero => cases hp
  | succ count ih =>
    simp only [passesFrom] at hp
    split at hp
    · cases hp
    · next hbegun =>
      rw [Term.stoppedBy_iff h, Nat.not_le] at hbegun
      split at hp
      · next hended =>
        obtain ⟨rfl, rfl⟩ := Prod.mk.inj (List.mem_singleton.mp hp)
        rw [Term.stoppedBy_iff h] at hended
        exact ⟨hbegun, by simpa using hended⟩
      · next hended =>
        rw [Term.stoppedBy_iff h, Nat.not_le] at hended
        rcases List.mem_cons.mp hp with he | hp
        · obtain ⟨rfl, rfl⟩ := Prod.mk.inj he
          exact ⟨hbegun, by simpa using hended⟩
        · exact ih hp

/-- The token has not fired when both stores have their lists. -/
theorem open_since (hready : wait t = .ready) : t.stoppedBy (since t) = false := by
  obtain ⟨hservices, hnodes⟩ := Term.waitBoth_eq_ready.mp hready
  exact Term.stoppedBy_max (Term.listed_of_waitFor hservices) (Term.listed_of_waitFor hnodes)

theorem timely_wait (t : Term) : t.Timely (wait t) :=
  Term.timely_waitBoth (t.timely_waitFor _) (t.timely_waitFor _) Term.listed_of_waitFor

theorem passes_settled (h : t.stop = some T) {horizon : Moment} (hT : T ≤ horizon) :
    passes t horizon = passes t T := by
  unfold passes
  cases hwait : wait t with
  | ready =>
    have hlater : since t ≤ T := by
      refine Nat.le_of_not_le fun hle => ?_
      rw [← Term.stoppedBy_iff h, open_since hwait] at hle
      cases hle
    refine t.dueBy_settles (fun n => passesFrom t n 0 (since t) ∅) ?_ hlater hT
    intro n d hlate
    exact passesFrom_add h d (by rwa [Nat.zero_add])
  | _ => rfl

theorem of_mem_passes (h : t.stop = some T) {horizon : Moment} {pass : Pass} {completed : Bool}
    (hp : (pass, completed) ∈ passes t horizon) :
    pass.begun < T ∧ (completed = true ↔ pass.ended < T) := by
  unfold passes at hp
  split at hp
  · exact of_mem_passesFrom h hp
  · cases hp

variable (t) in
def startLine : LogLine :=
  .info (s!"Starting service controller for cluster {t.cluster} ({t.server}) " ++
    s!"with {t.workers} workers")

variable (t) in
/-- The last line: whether the controller got to see its stores. -/
def stopLine : LogLine :=
  match wait t with
  | .ready => .info s!"Stopping service controller for cluster {t.cluster}"
  | _ => .info s!"Service controller for cluster {t.cluster} stopped before caches synced"

/-- The controller says first that it starts. -/
theorem startLine_ne_stopLine : Effect.log (startLine t) ≠ .log (stopLine t) := by
  intro h
  have h := Effect.log.inj h
  unfold startLine stopLine at h
  simp only [String.append_assoc] at h
  split at h
  · exact info_ne_info 3 (by decide) (by decide) (by decide) _ _ h
  · exact info_ne_info 3 (by decide) (by decide) (by decide) _ _ h

/-- A pass does everything when it ends, and does not say that the controller stops. -/
theorem of_mem_passEffects {withLookups : Bool} {pass : Pass} {x : Moment × Effect}
    (hx : x ∈ passEffects t withLookups pass) :
    x.1 = pass.ended ∧
      x.2 ≠ .log (.info s!"Stopping service controller for cluster {t.cluster}") := by
  have lookup {line : LogLine} (hl : line ∈ pass.lookupLines t.cluster) :
      line ≠ .info s!"Stopping service controller for cluster {t.cluster}" := by
    obtain ⟨l, -, rfl⟩ := List.mem_map.mp (List.mem_mergeSort.mp hl)
    unfold Lookup.line
    cases l.ready <;> simp [LogLine.debug, LogLine.warn, LogLine.info]
  have found {line : LogLine} (hl : line ∈ pass.summary.lines t.cluster) :
      line ≠ .info s!"Stopping service controller for cluster {t.cluster}" := by
    simp only [Summary.lines, List.mem_append, List.mem_map, List.mem_singleton,
      String.append_assoc] at hl
    rcases hl with (⟨key, -, rfl⟩ | ⟨key, -, rfl⟩) | rfl
    · exact info_ne_info 1 (by decide) (by decide) (by decide) _ _
    · exact info_ne_info 1 (by decide) (by decide) (by decide) _ _
    · simp [LogLine.debug, LogLine.info]
  simp only [passEffects, List.mem_append, List.mem_map, List.mem_cons, List.not_mem_nil,
    or_false] at hx
  rcases hx with ⟨line, hl, rfl⟩ | rfl | rfl
  · refine ⟨rfl, fun he => ?_⟩
    cases withLookups with
    | false =>
      rcases hl with hl | hl
      · cases hl
      · exact found hl (Effect.log.inj he)
    | true =>
      rcases hl with hl | hl
      · exact lookup hl (Effect.log.inj he)
      · exact found hl (Effect.log.inj he)
  · exact ⟨rfl, nofun⟩
  · exact ⟨rfl, nofun⟩

variable (t) in
/-- What the completed passes do. -/
def done (withLookups : Bool) (horizon : Moment) : Activity :=
  (passes t horizon).flatMap fun (pass, completed) =>
    if completed then passEffects t withLookups pass else []

/-- The controller says that it starts, does what its passes do, and leaves. -/
theorem run_eq (t : Term) (withLookups : Bool) (horizon : Moment) : run t withLookups horizon =
    Activity.upTo ((t.start, .log (startLine t)) :: done t withLookups horizon ++
      t.leave (wait t) (stopLine t)) horizon := by
  unfold run stopLine done passes
  cases wait t <;> rfl

/-- There are passes only when both stores got ready. -/
theorem wait_of_mem_passes {horizon : Moment} {x : Pass × Bool} (hx : x ∈ passes t horizon) :
    wait t = .ready := by
  unfold passes at hx
  split at hx
  · assumption
  · cases hx

/-- Only passes that end before the token fires do anything. -/
theorem of_mem_done (h : t.stop = some T) {withLookups : Bool} {horizon : Moment}
    {x : Moment × Effect} (hx : x ∈ done t withLookups horizon) :
    x.1 < T ∧ x.2 ≠ .log (stopLine t) := by
  obtain ⟨⟨pass, completed⟩, hp, hx⟩ := List.mem_flatMap.mp hx
  obtain ⟨-, hended⟩ := of_mem_passes h hp
  cases completed with
  | false => cases hx
  | true =>
    obtain ⟨hm, hne⟩ := of_mem_passEffects hx
    refine ⟨hm ▸ hended.mp rfl, ?_⟩
    simp only [stopLine, wait_of_mem_passes hp]
    exact hne

theorem stops (h : t.stop = some T) (hlater : t.start ≤ T) (withLookups : Bool) :
    Stops t.start T (startLine t) (done t withLookups T) (stopLine t) (t.finish (wait t))
      (run t withLookups) := by
  refine t.stops h hlater (timely_wait t) (done t withLookups) (run_eq t withLookups) ?_
    (fun _ hx => of_mem_done h hx) startLine_ne_stopLine
  intro horizon hT
  simp only [done, passes_settled h hT]

end Service

/-! ## The node controller -/

namespace Node

variable {t : Term} {T : Moment}

theorem passesFrom_add (h : t.stop = some T) (d : Nat) {count k : Nat} {previous : Readiness}
    (hlate : T ≤ t.due (since t) (k + count)) :
    passesFrom t (count + d) k previous = passesFrom t count k previous := by
  induction count generalizing k previous with
  | zero =>
    cases d with
    | zero => rfl
    | succ d =>
      have hstopped : t.stoppedBy (t.due (since t) k) = true := (t.stoppedBy_iff h).mpr hlate
      simp [passesFrom, hstopped]
  | succ count ih =>
    rw [Nat.succ_add]
    simp only [passesFrom, ih (k := k + 1) (by rwa [Nat.add_right_comm])]

variable (t) in
def startLine : LogLine := .info s!"Starting node controller for cluster {t.cluster}"

variable (t) in
/-- The last line: whether the controller got to see its store. -/
def stopLine : LogLine :=
  match wait t with
  | .ready => .info s!"Stopping node controller for cluster {t.cluster}"
  | _ => .info s!"Node controller for cluster {t.cluster} stopped before cache synced"

theorem startLine_ne_stopLine : Effect.log (startLine t) ≠ .log (stopLine t) := by
  intro h
  have h := Effect.log.inj h
  unfold startLine stopLine at h
  simp only [String.append_assoc] at h
  split at h
  · exact info_ne_info 3 (by decide) (by decide) (by decide) _ _ h
  · exact info_ne_info 3 (by decide) (by decide) (by decide) _ _ h

theorem of_mem_passEffects {m : Moment} {previous current : Readiness} {x : Moment × Effect}
    (hx : x ∈ passEffects t m previous current) :
    x.1 = m ∧ x.2 ≠ .log (.info s!"Stopping node controller for cluster {t.cluster}") := by
  have change (c : Transition) :
      c.line t.cluster ≠ .info s!"Stopping node controller for cluster {t.cluster}" := by
    cases c with
    | becameNotReady node => simp [Transition.line, LogLine.warn, LogLine.info]
    | _ =>
      simp only [Transition.line, String.append_assoc]
      exact info_ne_info 1 (by decide) (by decide) (by decide) _ _
  simp only [passEffects, List.mem_append, List.mem_map, List.mem_cons, List.not_mem_nil,
    or_false] at hx
  rcases hx with ⟨c, -, rfl⟩ | rfl | rfl
  · exact ⟨rfl, fun he => change c (Effect.log.inj he)⟩
  · exact ⟨rfl, nofun⟩
  · exact ⟨rfl, nofun⟩

/-- Every pass is made before the token fires. -/
theorem of_mem_passesFrom (h : t.stop = some T) {count k : Nat} {previous : Readiness}
    {x : Moment × Effect} (hx : x ∈ passesFrom t count k previous) :
    x.1 < T ∧ x.2 ≠ .log (.info s!"Stopping node controller for cluster {t.cluster}") := by
  induction count generalizing k previous with
  | zero => cases hx
  | succ count ih =>
    simp only [passesFrom] at hx
    split at hx
    · cases hx
    · next hbegun =>
      rw [Term.stoppedBy_iff h, Nat.not_le] at hbegun
      rcases List.mem_append.mp hx with hx | hx
      · obtain ⟨hm, hne⟩ := of_mem_passEffects hx
        exact ⟨hm ▸ hbegun, hne⟩
      · exact ih hx

variable (t) in
/-- What the passes do. -/
def done (horizon : Moment) : Activity :=
  match wait t with
  | .ready => passesFrom t (t.dueBy (since t) horizon) 0 ∅
  | _ => []

theorem run_eq (t : Term) (horizon : Moment) : run t horizon =
    Activity.upTo ((t.start, .log (startLine t)) :: done t horizon ++
      t.leave (wait t) (stopLine t)) horizon := by
  unfold run stopLine done
  cases wait t <;> rfl

theorem of_mem_done (h : t.stop = some T) {horizon : Moment} {x : Moment × Effect}
    (hx : x ∈ done t horizon) : x.1 < T ∧ x.2 ≠ .log (stopLine t) := by
  unfold done at hx
  split at hx
  · next hready =>
    obtain ⟨hm, hne⟩ := of_mem_passesFrom h hx
    refine ⟨hm, ?_⟩
    simp only [stopLine, hready]
    exact hne
  · cases hx

theorem done_settled (h : t.stop = some T) {horizon : Moment} (hT : T ≤ horizon) :
    done t horizon = done t T := by
  unfold done
  cases hwait : wait t with
  | ready =>
    have hlater : since t ≤ T := by
      refine Nat.le_of_not_le fun hle => ?_
      rw [← Term.stoppedBy_iff h, show t.stoppedBy (since t) = false from
        Term.listed_of_waitFor hwait] at hle
      cases hle
    refine t.dueBy_settles (fun n => passesFrom t n 0 ∅) ?_ hlater hT
    intro n d hlate
    exact passesFrom_add h d (by rwa [Nat.zero_add])
  | _ => rfl

theorem stops (h : t.stop = some T) (hlater : t.start ≤ T) :
    Stops t.start T (startLine t) (done t T) (stopLine t) (t.finish (wait t)) (run t) := by
  exact t.stops h hlater (t.timely_waitFor _) (done t) (run_eq t)
    (fun _ hT => done_settled h hT) (fun _ hx => of_mem_done h hx) startLine_ne_stopLine

end Node

end Flotilla.Controllers
