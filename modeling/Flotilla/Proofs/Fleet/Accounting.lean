import Mathlib.Data.List.Induction
import Flotilla.Proofs.Fleet.Endings

/-!
# The accounts of a fleet

Four samples tell of the cycles themselves: how many were completed, how many listings failed, how
many clusters are managed, and how often the launch of each cluster failed.  `Course.accounts` says
what each of them counts, for every course and however its cycles end.

A count of launch failures begins anew with each completed cycle that drops the cluster.  `Since`
says which turns came after the last such cycle.

* `booked`: what one cycle does to the four samples.
* `Accounts.cycle`, `Accounts.aside`: what this means for the counts, one turn at a time.
-/

namespace Flotilla

open Std (ExtTreeSet)

namespace Fleet

/-! ## Turns -/

/-- Whether a turn is a cycle. -/
def Turn.isCycle : Turn → Bool
  | .cycle _ => true
  | .aside _ => false

namespace Course

/-- The sum, over the cycles among some turns, of what a function gives for each of them. -/
def total (f : Course → Occasion → Nat) : Course → List Turn → Nat
  | _, [] => 0
  | c, .cycle o :: rest => f c o + total f (c.cycle o) rest
  | c, .aside a :: rest => total f (c.turn (.aside a)) rest

open Classical in
/-- The number of cycles of a kind among some turns. -/
noncomputable def count (P : Course → Occasion → Prop) : Course → List Turn → Nat :=
  total fun c o => if P c o then 1 else 0

/-- Some turns from the start, and those after the last cycle of a kind.  If there was no such
cycle all turns come after the start. -/
structure Since (P : Course → Occasion → Prop) (turns before after : List Turn) : Prop where
  split : turns = before ++ after
  last : before = [] ∨ ∃ l o, before = l ++ [.cycle o] ∧ P (run l) o
  none : count P (run before) after = 0

/-- A completed cycle whose listing omits a cluster that is managed or has failed. -/
def Releases (k : String) (c : Course) (o : Occasion) : Prop :=
  c.Completes o ∧ (∃ names, o.listing = .ok names ∧ k ∉ names) ∧ c.roster.Has k

/-- How many creations for a cluster fail in a cycle, not counting what the shutdown cuts short. -/
def failures (k : String) (c : Course) (o : Occasion) : Nat :=
  (c.calls o).countP fun call => decide (Call.failed? call = some k)

/-- What the samples of the fleet say after some turns. -/
structure Accounts (turns : List Turn) : Prop where
  cycles : (run turns).stage.store.cycles = count Completes {} turns
  listingErrors : (run turns).stage.store.listingErrors = count Misses {} turns
  /-- Every cycle is completed, has a listing that failed, or is interrupted. -/
  calls : (run turns).stage.store.cycles + (run turns).stage.store.listingErrors +
    count Interrupted {} turns = turns.countP Turn.isCycle
  /-- The gauge shows the instances at the end of the last completed cycle, and none before it.  It
  holds no number above its bound. -/
  managed : ∃ before after, Since Completes turns before after ∧
    (run turns).stage.store.managed = min (run before).roster.instances.size Metrics.gaugeBound
  /-- Where no cycle is interrupted these are the instances there are now. -/
  current : count Interrupted {} turns = 0 →
    (run turns).stage.store.managed = min (run turns).roster.instances.size Metrics.gaugeBound
  /-- Of a cluster the failed launches are counted since the last completed cycle that dropped it,
  and there is no sample if there were none. -/
  failures : ∀ k, ∃ before after, Since (Releases k) turns before after ∧
    (run turns).stage.store.launchFailures[k]? =
      (let n := total (failures k) (run before) after
       if n = 0 then Option.none else some n)

/-! ## The end of a completed cycle -/

/-- Stops and forgettings drop the launch failures of their clusters, and do nothing else to the
samples of the fleet. -/
theorem record_closing {H : Type} (stale : List (String × H)) (vanished : List String)
    (m : Metrics.Store) :
    let steps : List (Step H) :=
      stale.map (fun x => .stopped x.1 x.2) ++ vanished.map .forgotten
    let m' := steps.foldl Step.record m
    m'.cycles = m.cycles ∧ m'.listingErrors = m.listingErrors ∧
      ∀ k, m'.launchFailures[k]? =
        if k ∈ stale.map (·.1) ∨ k ∈ vanished then none else m.launchFailures[k]? := by
  induction stale generalizing m with
  | nil =>
    induction vanished generalizing m with
    | nil => simp
    | cons c rest ih =>
      obtain ⟨hc, hl, hf⟩ := ih (m.forget c)
      obtain ⟨hc', hl', -⟩ := m.forget_rest c
      refine ⟨hc.trans hc', hl.trans hl', fun k => (hf k).trans ?_⟩
      rw [Metrics.Store.lookup_launchFailures_forget]
      grind
  | cons x rest ih =>
    obtain ⟨hc, hl, hf⟩ := ih (m.forget x.1)
    obtain ⟨hc', hl', -⟩ := m.forget_rest x.1
    refine ⟨hc.trans hc', hl.trans hl', fun k => (hf k).trans ?_⟩
    rw [Metrics.Store.lookup_launchFailures_forget]
    grind

/-! ## One cycle -/

open Classical in
/-- What one cycle does to the samples of the fleet. -/
structure Booked (c : Course) (o : Occasion) : Prop where
  cycles : (c.cycle o).stage.store.cycles =
    c.stage.store.cycles + if c.Completes o then 1 else 0
  listingErrors : (c.cycle o).stage.store.listingErrors =
    c.stage.store.listingErrors + if c.Misses o then 1 else 0
  managed : (c.cycle o).stage.store.managed =
    if c.Completes o then min (c.cycle o).roster.instances.size Metrics.gaugeBound
    else c.stage.store.managed
  missed : c.Misses o → (c.cycle o).roster = c.roster
  released : ∀ k, Releases k c o → (c.cycle o).stage.store.launchFailures[k]? = Option.none
  failed : ∀ k, ¬ Releases k c o → (c.cycle o).stage.store.launchFailures[k]? =
    if failures k c o = 0 then c.stage.store.launchFailures[k]?
    else some (c.stage.store.launchFailures.getD k 0 + failures k c o)

/-- In one cycle at most one creation for a cluster fails. -/
theorem failures_eq {c : Course} {o : Occasion} (hn : ((c.calls o).map (·.1)).Nodup) (k : String) :
    failures k c o = if k ∈ (c.calls o).filterMap Call.failed? then 1 else 0 := by
  have hcount : failures k c o = ((c.calls o).filterMap Call.failed?).count k := by
    rw [failures, List.count, List.countP_filterMap]
    congr 1
    funext call
    cases Call.failed? call <;> simp [beq_eq_decide]
  have hnodup : ((c.calls o).filterMap Call.failed?).Nodup := by
    refine (List.pairwise_map.mp hn).filterMap _ ?_
    intro a b hab x hx y hy
    rw [← Call.eq_of_failed hx, ← Call.eq_of_failed hy]
    exact hab
  rw [hcount]
  split
  · next hm => exact List.count_eq_one_of_mem hnodup hm
  · next hm => exact List.count_eq_zero.mpr hm

theorem booked_of_skipped {c : Course} {o : Occasion} (hs : ¬ o.Sees c.stage) (h : c.Skipped o) :
    Booked c o := by
  have hc : ¬ c.Completes o := fun ⟨_, _, hseen, _⟩ => hs hseen
  have hm : ¬ c.Misses o := fun hm => hs hm.1
  refine ⟨?_, ?_, ?_, fun h => absurd h hm, fun k hk => absurd hk.1 hc, fun k _ => ?_⟩
  · rw [h.stage, if_neg hc, Nat.add_zero]
  · rw [h.stage, if_neg hm, Nat.add_zero]
  · rw [h.stage, if_neg hc]
  · rw [h.stage, failures, h.uncalled]
    rfl

theorem booked_of_unlisted {c : Course} {o : Occasion} {fault : CommandFailure}
    (hs : o.Sees c.stage) (hl : o.listing = .error fault) (h : c.Unlisted o fault) :
    Booked c o := by
  have hm : c.Misses o := ⟨hs, fault, hl⟩
  have hc : ¬ c.Completes o := hm.not_completes
  refine ⟨?_, ?_, ?_, fun _ => h.roster, fun k hk => absurd hk.1 hc, fun k _ => ?_⟩
  · rw [if_neg hc]
    exact h.fleet.cycles
  · rw [h.fleet.listingErrors, if_pos hm]
  · rw [h.fleet.managed, if_neg hc]
  · rw [h.fleet.launchFailures, failures, h.uncalled]
    rfl

section

variable {c : Course} {o : Occasion} {names : List String} {calls : List (Call Token)}

theorem booked_of_cut (hl : o.listing = .ok names) (hcalls : c.calls o = calls)
    (h : Followed o.surroundings (.ofList names) ⟨c.stage, c.roster, []⟩ calls false (c.progress o))
    (hc : ¬ c.Completes o) : Booked c o := by
  have hm : ¬ c.Misses o := by
    rintro ⟨-, fault, he⟩
    rw [hl] at he
    cases he
  have hfleet := fleet_cut h
  obtain ⟨launchFailures, hrest⟩ := record_calls calls c.stage.store
  rw [hrest] at hfleet
  refine ⟨?_, ?_, ?_, fun h => absurd h hm, fun k hk => absurd hk.1 hc, fun k _ => ?_⟩
  · rw [hfleet.cycles, if_neg hc, Nat.add_zero]
  · rw [hfleet.listingErrors, if_neg hm, Nat.add_zero]
  · rw [hfleet.managed, if_neg hc]
  · rw [counted_cut h, failures_eq (by rw [hcalls]; exact h.nodup), hcalls]
    split <;> simp

/-- What a completed cycle does to the samples of the fleet. -/
theorem fleet_completed
    (h : Followed o.surroundings (.ofList names) ⟨c.stage, c.roster, []⟩ calls true (c.progress o)) :
    let store := (c.cycle o).stage.store
    store.cycles = c.stage.store.cycles + 1 ∧
      store.listingErrors = c.stage.store.listingErrors ∧
      store.managed = min (c.cycle o).roster.instances.size Metrics.gaugeBound ∧
      ∀ k, store.launchFailures[k]? =
        if (k ∈ c.roster.instances ∨ k ∈ c.roster.failed) ∧ k ∉ names then none
        else if k ∈ calls.filterMap Call.failed? then
          some (c.stage.store.launchFailures.getD k 0 + 1)
        else c.stage.store.launchFailures[k]? := by
  intro store
  -- first the calls, then the stops and the forgettings, then the completion
  let answered := calls.foldl Roster.answer c.roster
  let called := (calls.flatMap Call.steps).foldl Step.record c.stage.store
  let drops : List (Step Token) := (answered.stale (.ofList names)).map (fun x => .stopped x.1 x.2) ++
    (answered.vanished (.ofList names)).map .forgotten
  let last : Step Token := .completed (answered.restrict (.ofList names)).instances.size
  have hsteps : (c.progress o).steps = .discovered (ExtTreeSet.ofList names).toList ::
      (calls.flatMap Call.steps ++ (drops ++ [last])) := h.steps
  have hfleet : (last.record (drops.foldl Step.record called)).SameFleet store := by
    have hall := sameFleet_cycle c o
    rw [hsteps, List.foldl_cons, List.foldl_append, List.foldl_append] at hall
    exact hall
  have hroster : (c.cycle o).roster = answered.restrict (.ofList names) := h.roster_complete
  have hcalled : called.cycles = c.stage.store.cycles ∧
      called.listingErrors = c.stage.store.listingErrors := by
    obtain ⟨launchFailures, hcalls⟩ := record_calls calls c.stage.store
    rw [show called = _ from hcalls]
    exact ⟨rfl, rfl⟩
  obtain ⟨hc, hl, hf⟩ := record_closing (answered.stale (.ofList names))
    (answered.vanished (.ofList names)) called
  refine ⟨?_, ?_, ?_, fun k => ?_⟩
  · rw [← hcalled.1, ← hc]
    exact hfleet.cycles
  · rw [← hcalled.2, ← hl]
    exact hfleet.listingErrors
  · rw [hroster]
    exact hfleet.managed
  · have hdrops : k ∈ (answered.stale (.ofList names)).map (·.1) ∨
        k ∈ answered.vanished (.ofList names) ↔
          (k ∈ c.roster.instances ∨ k ∈ c.roster.failed) ∧ k ∉ names := by
      rw [h.mem_stale_map, h.mem_vanished, mem_listed, or_and_right]
    rw [hfleet.launchFailures, ← launchFailures_calls calls c.stage.store h.nodup k]
    exact (hf k).trans (if_congr hdrops rfl rfl)

theorem booked_of_completed (hl : o.listing = .ok names) (hcalls : c.calls o = calls)
    (h : Followed o.surroundings (.ofList names) ⟨c.stage, c.roster, []⟩ calls true (c.progress o))
    (hc : c.Completes o) : Booked c o := by
  have hm : ¬ c.Misses o := fun hm => hm.not_completes hc
  obtain ⟨hcycles, herrors, hmanaged, hfailures⟩ := fleet_completed h
  have hreleases (k : String) : Releases k c o ↔
      (k ∈ c.roster.instances ∨ k ∈ c.roster.failed) ∧ k ∉ names := by
    simp only [Releases, hc, hl, Except.ok.injEq, exists_eq_left', true_and, Roster.Has, and_comm]
  refine ⟨?_, ?_, ?_, fun h => absurd h hm, fun k hk => ?_, fun k hk => ?_⟩
  · rw [hcycles, if_pos hc]
  · rw [herrors, if_neg hm, Nat.add_zero]
  · rw [hmanaged, if_pos hc]
  · rw [hfailures, if_pos ((hreleases k).mp hk)]
  · rw [hfailures, if_neg (fun hr => hk ((hreleases k).mpr hr)),
      failures_eq (by rw [hcalls]; exact h.nodup), hcalls]
    split <;> simp

end

theorem booked (c : Course) (o : Occasion) : Booked c o := by
  rcases ending_cases c o with
    ⟨hs, h⟩ | ⟨fault, hl, hs, h⟩ | ⟨names, calls, hl, hs, hcalls, h⟩
  · exact booked_of_skipped hs h
  · exact booked_of_unlisted hs hl h
  · have hcomplete := completes_of_listing (c := c) hl
    generalize o.surroundings.completes (.ofList names) ⟨c.stage, c.roster, []⟩ = complete
      at h hcomplete
    cases complete with
    | false => exact booked_of_cut hl hcalls h (fun hc => Bool.noConfusion (hcomplete.mp hc).2)
    | true => exact booked_of_completed hl hcalls h (hcomplete.mpr ⟨hs, rfl⟩)

/-! ## One turn after another -/

theorem total_append (f : Course → Occasion → Nat) (c : Course) (turns turns' : List Turn) :
    total f c (turns ++ turns') = total f c turns + total f (c.go turns) turns' := by
  induction turns generalizing c with
  | nil => exact (Nat.zero_add _).symm
  | cons t rest ih =>
    cases t with
    | cycle o =>
      simp only [List.cons_append, total, ih, Nat.add_assoc]
      rfl
    | aside a =>
      simp only [List.cons_append, total, ih]
      rfl

open Classical in
theorem count_concat_cycle (P : Course → Occasion → Prop) (turns : List Turn) (o : Occasion) :
    count P {} (turns ++ [.cycle o]) = count P {} turns + if P (run turns) o then 1 else 0 :=
  total_append _ _ _ _

theorem count_concat_aside (P : Course → Occasion → Prop) (turns : List Turn) (a : Aside) :
    count P {} (turns ++ [.aside a]) = count P {} turns :=
  total_append _ _ _ _

section Since

variable {P : Course → Occasion → Prop} {turns before after : List Turn}

theorem Since.start : Since P [] [] [] := ⟨rfl, Or.inl rfl, rfl⟩

theorem Since.go (h : Since P turns before after) : (run before).go after = run turns := by
  rw [h.split, run, run, Course.go, Course.go, Course.go, List.foldl_append]

/-- A cycle of the kind is the last of them. -/
theorem Since.renew {o : Occasion} (h : P (run turns) o) :
    Since P (turns ++ [.cycle o]) (turns ++ [.cycle o]) [] :=
  ⟨(List.append_nil _).symm, Or.inr ⟨turns, o, rfl, h⟩, rfl⟩

/-- What goes on beside the cycles comes after the last of them. -/
theorem Since.aside (h : Since P turns before after) (a : Aside) :
    Since P (turns ++ [.aside a]) before (after ++ [.aside a]) where
  split := by rw [h.split, List.append_assoc]
  last := h.last
  none := (total_append _ _ _ _).trans h.none

/-- So does a cycle of another kind. -/
theorem Since.cycle (h : Since P turns before after) {o : Occasion} (ho : ¬ P (run turns) o) :
    Since P (turns ++ [.cycle o]) before (after ++ [.cycle o]) where
  split := by rw [h.split, List.append_assoc]
  last := h.last
  none := by
    refine (total_append _ _ _ _).trans ?_
    rw [h.go]
    simp only [total, ho, if_false, Nat.add_zero]
    exact h.none

end Since

namespace Accounts

theorem start : Accounts [] where
  cycles := rfl
  listingErrors := rfl
  calls := rfl
  managed := ⟨[], [], .start, rfl⟩
  current _ := rfl
  failures k := ⟨[], [], .start, by simp [total, run, Course.go, Stage.fresh, Stage.store]⟩

theorem aside {turns : List Turn} (h : Accounts turns) (a : Aside) :
    Accounts (turns ++ [.aside a]) := by
  have hsame : (run turns).stage.store.SameFleet (run (turns ++ [.aside a])).stage.store := by
    rw [run_concat]
    exact ((run turns).stage.aside_spec a).1
  have hroster : (run (turns ++ [.aside a])).roster = (run turns).roster := by
    rw [run_concat]
    rfl
  refine ⟨?cycles, ?listingErrors, ?calls, ?managed, ?current, ?failures⟩
  case cycles => rw [hsame.cycles, count_concat_aside, h.cycles]
  case listingErrors => rw [hsame.listingErrors, count_concat_aside, h.listingErrors]
  case calls =>
    rw [hsame.cycles, hsame.listingErrors, count_concat_aside, h.calls, List.countP_append]
    rfl
  case managed =>
    obtain ⟨before, after, hsince, hm⟩ := h.managed
    exact ⟨before, _, hsince.aside a, hsame.managed.trans hm⟩
  case current =>
    intro hnone
    rw [hsame.managed, hroster]
    exact h.current ((count_concat_aside _ _ _).symm.trans hnone)
  case failures =>
    intro k
    obtain ⟨before, after, hsince, hf⟩ := h.failures k
    refine ⟨before, _, hsince.aside a, ?_⟩
    rw [hsame.launchFailures, hf, total_append]
    rfl

theorem cycle {turns : List Turn} (h : Accounts turns) (o : Occasion) :
    Accounts (turns ++ [.cycle o]) := by
  have hb := booked (run turns) o
  have hrun : run (turns ++ [.cycle o]) = (run turns).cycle o := run_concat turns (.cycle o)
  have hend := interrupted_iff (c := run turns) (o := o)
  have hmisses : (run turns).Misses o → ¬ (run turns).Completes o := Misses.not_completes
  refine ⟨?cycles, ?listingErrors, ?calls, ?managed, ?current, ?failures⟩
  case cycles => rw [hrun, hb.cycles, count_concat_cycle, h.cycles]
  case listingErrors => rw [hrun, hb.listingErrors, count_concat_cycle, h.listingErrors]
  case calls =>
    -- the cycle ends in just one of three ways
    have hone : (turns ++ [Turn.cycle o]).countP Turn.isCycle = turns.countP Turn.isCycle + 1 := by
      rw [List.countP_append]
      rfl
    rw [hrun, hb.cycles, hb.listingErrors, count_concat_cycle, hone, ← h.calls]
    by_cases hc : (run turns).Completes o
    · have hm : ¬ (run turns).Misses o := fun hm => hmisses hm hc
      have hi : ¬ (run turns).Interrupted o := fun hi => (hend.mp hi).1 hc
      rw [if_pos hc, if_neg hm, if_neg hi]
      omega
    · by_cases hm : (run turns).Misses o
      · have hi : ¬ (run turns).Interrupted o := fun hi => (hend.mp hi).2 hm
        rw [if_neg hc, if_pos hm, if_neg hi]
        omega
      · rw [if_neg hc, if_neg hm, if_pos (hend.mpr ⟨hc, hm⟩)]
        omega
  case managed =>
    by_cases hc : (run turns).Completes o
    · refine ⟨_, [], .renew hc, ?_⟩
      rw [hrun, hb.managed, if_pos hc]
    · obtain ⟨before, after, hsince, hm⟩ := h.managed
      refine ⟨before, _, hsince.cycle hc, ?_⟩
      rw [hrun, hb.managed, if_neg hc, hm]
  case current =>
    intro hnone
    rw [count_concat_cycle] at hnone
    have hi : ¬ (run turns).Interrupted o := by
      intro hi
      rw [if_pos hi] at hnone
      omega
    rw [hrun, hb.managed]
    by_cases hc : (run turns).Completes o
    · rw [if_pos hc]
    · have hm : (run turns).Misses o := by
        by_contra hm
        exact hi (hend.mpr ⟨hc, hm⟩)
      rw [if_neg hc, hb.missed hm, h.current (by omega)]
  case failures =>
    intro k
    by_cases hr : Releases k (run turns) o
    · refine ⟨_, [], .renew hr, ?_⟩
      rw [hrun, hb.released k hr]
      rfl
    · obtain ⟨before, after, hsince, hf⟩ := h.failures k
      refine ⟨before, _, hsince.cycle hr, ?_⟩
      rw [hrun, hb.failed k hr, Std.ExtTreeMap.getD_eq_getD_getElem?, hf, total_append, hsince.go]
      simp only [total]
      grind

end Accounts

/-- What the samples of the fleet say after any turns. -/
theorem accounts (turns : List Turn) : Accounts turns := by
  induction turns using List.reverseRecOn with
  | nil => exact .start
  | append_singleton rest t ih =>
    cases t with
    | cycle o => exact ih.cycle o
    | aside a => exact ih.aside a

end Course

end Fleet

end Flotilla
