import Mathlib.Logic.Relation
import Mathlib.Data.List.Perm.Basic
import Flotilla.Proofs.Controllers.Backends

/-!
# Bounded lookups

The lookups of a pass are under way at the same time, but only so many at once.  A `Pool` tells what
goes on then, one step after another: a lookup is begun, or the one that ends first is answered.
Which of several lookups that end at the same moment is answered first is left open, and so is the
order in which the load balancers are gone through.

* `Pool.Sound`: whatever happens in a pool, its lookups have the moments of `Lookups.schedule`.
* `schedule_places`, `finish_replicate`: the schedule keeps to its bound and leaves no place free,
  and it has a simple form if all lookups take the same time.
* `summarize_perm`: what a pass finds depends on no order.
* `workers_change_only_time`: so the bound decides how long a pass takes, and nothing else.
-/

namespace Flotilla.Controllers

open Std (ExtTreeSet)
open Time (Moment)

namespace Lookups

variable {α : Type}

/-- A piece of work with the moments at which it begins and ends. -/
abbrev Timed (α : Type) := α × Moment × Moment

/-- Work that is done in order. -/
structure Pool (α : Type) where
  /-- The moment. -/
  now : Moment
  /-- The pieces that are still to be begun. -/
  waiting : List α
  /-- The pieces under way. -/
  busy : List (Timed α) := []
  /-- The pieces that are done, in the order in which they have ended. -/
  done : List (Timed α) := []

namespace Pool

/-- As long as there is a place free the next piece is begun.  After that the piece is awaited that
ends first. -/
inductive Step (width : Nat) (takes : α → Nat) : Pool α → Pool α → Prop
  | begin {now : Moment} {a : α} {rest : List α} {busy done : List (Timed α)}
      (free : busy.length < width) :
      Step width takes ⟨now, a :: rest, busy, done⟩
        ⟨now, rest, busy ++ [(a, now, now + takes a)], done⟩
  | finish {now : Moment} {waiting : List α} {before after done : List (Timed α)} {piece : Timed α}
      (full : width ≤ (before ++ piece :: after).length ∨ waiting = [])
      (first : ∀ x ∈ before ++ after, piece.2.2 ≤ x.2.2) :
      Step width takes ⟨now, waiting, before ++ piece :: after, done⟩
        ⟨piece.2.2, waiting, before ++ after, done ++ [piece]⟩

/-- Any number of steps. -/
abbrev Run (width : Nat) (takes : α → Nat) : Pool α → Pool α → Prop :=
  Relation.ReflTransGen (Step width takes)

end Pool

/-! ## Moments in order -/

theorem insertMoment_perm (m : Moment) (l : List Moment) : (insertMoment m l).Perm (m :: l) := by
  induction l with
  | nil => exact .refl _
  | cons x xs ih =>
    unfold insertMoment
    split
    · exact .refl _
    · exact (ih.cons x).trans (.swap m x xs)

theorem insertMoment_sorted {m : Moment} {l : List Moment} (h : l.Pairwise (· ≤ ·)) :
    (insertMoment m l).Pairwise (· ≤ ·) := by
  induction l with
  | nil => exact List.pairwise_singleton _ m
  | cons x xs ih =>
    obtain ⟨hx, hxs⟩ := List.pairwise_cons.mp h
    unfold insertMoment
    split
    · next hle =>
      refine List.pairwise_cons.mpr ⟨fun y hy => ?_, h⟩
      rcases List.mem_cons.mp hy with rfl | hy
      · exact hle
      · exact Nat.le_trans hle (hx y hy)
    · next hlt =>
      refine List.pairwise_cons.mpr ⟨fun y hy => ?_, ih hxs⟩
      rcases List.mem_cons.mp ((insertMoment_perm m xs).mem_iff.mp hy) with rfl | hy
      · exact Nat.le_of_not_le hlt
      · exact hx y hy

theorem length_insertMoment (m : Moment) (l : List Moment) :
    (insertMoment m l).length = l.length + 1 :=
  (insertMoment_perm m l).length_eq

/-- Of moments in ascending order the least is the first. -/
theorem eq_cons_of_perm {ends l : List Moment} {e : Moment} (h : ends.Pairwise (· ≤ ·))
    (hperm : ends.Perm (e :: l)) (hle : ∀ x ∈ l, e ≤ x) :
    ∃ rest, ends = e :: rest ∧ rest.Pairwise (· ≤ ·) ∧ rest.Perm l := by
  cases ends with
  | nil => exact absurd hperm.length_eq (by simp)
  | cons x rest =>
    obtain ⟨hx, hrest⟩ := List.pairwise_cons.mp h
    have hxe : x = e := by
      refine Nat.le_antisymm ?_ ?_
      · rcases List.mem_cons.mp (hperm.mem_iff.mpr List.mem_cons_self) with rfl | he
        · exact Nat.le_refl _
        · exact hx e he
      · rcases List.mem_cons.mp (hperm.mem_iff.mp List.mem_cons_self) with rfl | hx
        · exact Nat.le_refl _
        · exact hle x hx
    subst hxe
    exact ⟨rest, rfl, hrest, hperm.cons_inv⟩

/-- The end of a list of pieces does not depend on their order. -/
theorem finish_perm {start : Moment} {pieces pieces' : List (Moment × Moment)}
    (h : pieces.Perm pieces') : finish start pieces = finish start pieces' :=
  h.foldl_eq' (fun _ _ _ _ _ => Nat.max_right_comm _ _ _) start

theorem finish_concat (start : Moment) (pieces : List (Moment × Moment)) (p : Moment × Moment) :
    finish start (pieces ++ [p]) = max (finish start pieces) p.2 :=
  List.foldl_concat _ _ _ _

/-- A bound of zero counts as one. -/
theorem bound_pos (width : Nat) : 0 < max width 1 :=
  Nat.lt_of_lt_of_le Nat.one_pos (Nat.le_max_right width 1)

theorem finish_le {start bound : Moment} {pieces : List (Moment × Moment)} (hstart : start ≤ bound)
    (h : ∀ p ∈ pieces, p.2 ≤ bound) : finish start pieces ≤ bound := by
  induction pieces generalizing start with
  | nil => exact hstart
  | cons p pieces ih =>
    refine ih (Nat.max_le.mpr ⟨hstart, h p List.mem_cons_self⟩) ?_
    exact fun x hx => h x (List.mem_cons_of_mem p hx)

/-! ## The schedule of a pool -/

theorem assign_free {width : Nat} {now : Moment} {busy : List Moment} {d : Nat} {ds : List Nat}
    (h : busy.length < width) :
    assign width now busy (d :: ds) =
      (now, now + d) :: assign width now (insertMoment (now + d) busy) ds := by
  simp only [assign, if_pos h]

theorem assign_full {width : Nat} {now e : Moment} {rest : List Moment} {d : Nat} {ds : List Nat}
    (h : width ≤ (e :: rest).length) :
    assign width now (e :: rest) (d :: ds) =
      (e, e + d) :: assign width e (insertMoment (e + d) rest) ds := by
  simp only [assign, if_neg (Nat.not_lt.mpr h)]

/-- It makes no difference whether a pool is waiting for a place or has just got it. -/
theorem assign_pop {width : Nat} {now e : Moment} {rest : List Moment} {takes : List Nat}
    (h : (e :: rest).length = width ∨ takes = []) :
    assign width now (e :: rest) takes = assign width e rest takes := by
  cases takes with
  | nil => rfl
  | cons d ds =>
    have hlength : (e :: rest).length = width := h.resolve_right nofun
    rw [assign_full (Nat.le_of_eq hlength.symm), assign_free (by rw [← hlength]; simp)]

namespace Pool

variable {width : Nat} {takes : α → Nat} {m : Moment} {items : List α}

/-- The pieces of some work with the moments of the schedule. -/
def timed (width : Nat) (takes : α → Nat) (now : Moment) (ends : List Moment) (items : List α) :
    List (Timed α) :=
  items.zip (assign width now ends (items.map takes))

variable (width takes m items) in
/-- What holds of a pool that was given some work at a moment. -/
structure Sound (p : Pool α) : Prop where
  /-- No more pieces are under way than there are places. -/
  room : p.busy.length ≤ width
  /-- The pieces under way end now or later. -/
  later : ∀ x ∈ p.busy, p.now ≤ x.2.2
  /-- It is the moment at which the last piece has ended. -/
  clock : p.now = finish m (p.done.map (·.2))
  /-- Pieces are done in the order in which they end. -/
  ordered : p.done.Pairwise fun x y => x.2.2 ≤ y.2.2
  /-- The pieces have the moments of the schedule. -/
  pieces : ∃ ends : List Moment, ends.Pairwise (· ≤ ·) ∧ ends.Perm (p.busy.map (·.2.2)) ∧
    (p.done ++ p.busy ++ timed width takes p.now ends p.waiting).Perm (timed width takes m [] items)

/-- A piece takes its time. -/
theorem ended_of_mem_timed {now : Moment} {ends : List Moment} {x : Timed α}
    (h : x ∈ timed width takes now ends items) : x.2.2 = x.2.1 + takes x.1 := by
  induction items generalizing now ends with
  | nil => cases h
  | cons a items ih =>
    obtain ⟨begun, ends', hcons⟩ := assign_cons width now ends (takes a) (items.map takes)
    rw [timed, List.map_cons, hcons, List.zip_cons_cons] at h
    rcases List.mem_cons.mp h with rfl | h
    · rfl
    · exact ih h

theorem le_clock {start : Moment} {done : List (Timed α)} {x : Timed α} (h : x ∈ done) :
    x.2.2 ≤ finish start (done.map (·.2)) :=
  ended_le_finish (List.mem_map_of_mem h)

theorem Sound.start (width : Nat) (takes : α → Nat) (m : Moment) (items : List α) :
    Sound width takes m items ⟨m, items, [], []⟩ :=
  ⟨Nat.zero_le _, nofun, rfl, .nil, [], .nil, .refl _, .refl _⟩

theorem Sound.step {p p' : Pool α} (h : Sound width takes m items p)
    (hstep : Step width takes p p') : Sound width takes m items p' := by
  obtain ⟨hroom, hlater, hclock, hordered, ends, hsorted, hends, hpieces⟩ := h
  cases hstep with
  | @begin now a rest busy done free =>
    refine ⟨by simpa using Nat.succ_le_of_lt free, ?_, hclock, hordered,
      insertMoment (now + takes a) ends, insertMoment_sorted hsorted, ?_, ?_⟩
    · intro x hx
      rcases List.mem_append.mp hx with hx | hx
      · exact hlater x hx
      · rw [List.mem_singleton.mp hx]
        exact Nat.le_add_right now (takes a)
    · refine (insertMoment_perm _ ends).trans ((hends.cons _).trans ?_)
      rw [List.map_append]
      exact List.perm_append_singleton (now + takes a) _ |>.symm
    · refine .trans (.of_eq ?_) hpieces
      have hfree : ends.length < width := by
        rw [hends.length_eq, List.length_map]
        exact free
      simp only [timed, List.map_cons, assign_free hfree, List.zip_cons_cons, List.append_assoc,
        List.singleton_append]
  | @finish now waiting before after done piece full first =>
    have hsplit : (before ++ piece :: after).Perm (piece :: (before ++ after)) :=
      List.perm_middle
    obtain ⟨rest, rfl, hrest, hperm⟩ := eq_cons_of_perm hsorted
      (hends.trans (hsplit.map fun x => x.2.2)) (by
        intro x hx
        obtain ⟨y, hy, rfl⟩ := List.mem_map.mp hx
        exact first y hy)
    have hnow : now ≤ piece.2.2 := hlater piece (by simp)
    have hclock : now = finish m (done.map (·.2)) := hclock
    refine ⟨?_, first, ?_, ?_, rest, hrest, hperm, ?_⟩
    · rw [hsplit.length_eq] at hroom
      exact Nat.le_of_succ_le hroom
    · show piece.2.2 = finish m ((done ++ [piece]).map (·.2))
      rw [List.map_append, List.map_singleton, finish_concat, ← hclock]
      exact (Nat.max_eq_right hnow).symm
    · refine List.pairwise_append.mpr ⟨hordered, List.pairwise_singleton _ _, ?_⟩
      intro x hx y hy
      rw [List.mem_singleton.mp hy]
      rw [hclock] at hnow
      exact Nat.le_trans (le_clock hx) hnow
    · have hpop : (piece.2.2 :: rest).length = width ∨ waiting.map takes = [] := by
        rcases full with hwidth | rfl
        · refine Or.inl (Nat.le_antisymm ?_ ?_)
          · rw [hends.length_eq, List.length_map]
            exact hroom
          · rw [hends.length_eq, List.length_map]
            exact hwidth
        · exact Or.inr rfl
      refine .trans ?_ hpieces
      simp only [timed, assign_pop hpop, List.append_assoc]
      refine List.Perm.append_left done ?_
      rw [List.singleton_append, List.cons_append]
      exact List.perm_middle.symm

theorem Run.sound {p : Pool α} (h : Run width takes ⟨m, items, [], []⟩ p) :
    Sound width takes m items p := by
  induction h with
  | refl => exact .start width takes m items
  | tail _ hstep ih => exact ih.step hstep

/-- When all is done the pieces have the moments of the schedule, and it is the end of the last. -/
theorem Run.schedule {stop : Moment} {done : List (Timed α)}
    (h : Run width takes ⟨m, items, [], []⟩ ⟨stop, [], [], done⟩) :
    done.Perm (timed width takes m [] items) ∧ (done.Pairwise fun x y => x.2.2 ≤ y.2.2) ∧
      stop = finish m ((timed width takes m [] items).map (·.2)) := by
  have hsound := h.sound
  obtain ⟨ends, -, -, hpieces⟩ := hsound.pieces
  have hperm : done.Perm (timed width takes m [] items) := by
    simpa only [timed, List.map_nil, List.zip_nil_left, List.append_nil] using hpieces
  exact ⟨hperm, hsound.ordered, hsound.clock.trans (finish_perm (hperm.map _))⟩

/-- Of the pieces under way one ends first. -/
theorem exists_first {busy : List (Timed α)} (h : busy ≠ []) :
    ∃ before piece after, busy = before ++ piece :: after ∧
      ∀ x ∈ before ++ after, piece.2.2 ≤ x.2.2 := by
  induction busy with
  | nil => exact absurd rfl h
  | cons x rest ih =>
    by_cases hrest : rest = []
    · exact ⟨[], x, [], by rw [hrest]; rfl, nofun⟩
    · obtain ⟨before, piece, after, rfl, hfirst⟩ := ih hrest
      rcases Nat.le_total piece.2.2 x.2.2 with hle | hle
      · refine ⟨x :: before, piece, after, rfl, fun y hy => ?_⟩
        rcases List.mem_cons.mp hy with rfl | hy
        · exact hle
        · exact hfirst y hy
      · refine ⟨[], x, before ++ piece :: after, rfl, fun y hy => ?_⟩
        rcases List.mem_cons.mp (List.perm_middle.mem_iff.mp hy) with rfl | hy
        · exact hle
        · exact Nat.le_trans hle (hfirst y hy)

/-- A pool with a place at all gets its work done. -/
theorem exists_run (hwidth : 0 < width) (p : Pool α) :
    ∃ stop done, Run width takes p ⟨stop, [], [], done⟩ := by
  obtain ⟨now, waiting, busy, done⟩ := p
  -- a piece that waits has two steps before it and a piece under way has one
  induction hn : 2 * waiting.length + busy.length using Nat.strongRecOn
    generalizing now waiting busy done with
  | ind n ih =>
    have finish (hbusy : busy ≠ []) (hfull : width ≤ busy.length ∨ waiting = []) :
        ∃ stop done', Run width takes ⟨now, waiting, busy, done⟩ ⟨stop, [], [], done'⟩ := by
      obtain ⟨before, piece, after, rfl, hfirst⟩ := exists_first hbusy
      obtain ⟨stop, done', hrun⟩ := ih _ (by simp at hn ⊢; omega) piece.2.2 waiting
        (before ++ after) (done ++ [piece]) rfl
      exact ⟨stop, done', hrun.head (.finish hfull hfirst)⟩
    cases waiting with
    | nil =>
      by_cases hbusy : busy = []
      · subst hbusy
        exact ⟨now, done, .refl⟩
      · exact finish hbusy (Or.inr rfl)
    | cons a rest =>
      by_cases hfree : busy.length < width
      · obtain ⟨stop, done', hrun⟩ := ih _ (by simp at hn ⊢; omega) now rest
          (busy ++ [(a, now, now + takes a)]) done rfl
        exact ⟨stop, done', hrun.head (.begin hfree)⟩
      · refine finish ?_ (Or.inl (Nat.le_of_not_lt hfree))
        rintro rfl
        exact hfree hwidth

end Pool

/-! ## The pieces under way -/

/-- How many pieces are under way at a moment. -/
def underWayAt (t : Moment) (pieces : List (Moment × Moment)) : Nat :=
  (pieces.filter fun p => decide (p.1 ≤ t ∧ t < p.2)).length

theorem underWayAt_perm {t : Moment} {pieces pieces' : List (Moment × Moment)}
    (h : pieces.Perm pieces') : underWayAt t pieces = underWayAt t pieces' :=
  (h.filter _).length_eq

/-- How many of some moments are still to come. -/
def toCome (t : Moment) (ends : List Moment) : Nat := (ends.filter fun e => decide (t < e)).length

theorem toCome_insertMoment (t m : Moment) (l : List Moment) :
    toCome t (insertMoment m l) = toCome t l + if t < m then 1 else 0 := by
  rw [toCome, ((insertMoment_perm m l).filter _).length_eq, List.filter_cons, toCome]
  by_cases h : t < m <;> simp [h]

theorem underWayAt_cons {t begun d : Moment} (h : begun ≤ t) (pieces : List (Moment × Moment)) :
    underWayAt t ((begun, begun + d) :: pieces) =
      underWayAt t pieces + if t < begun + d then 1 else 0 := by
  rw [underWayAt, List.filter_cons, underWayAt]
  by_cases hd : t < begun + d <;> simp [h, hd]

/-- The moments at which the pieces under way end, when the last one was begun at another. -/
structure Standing (width : Nat) (now : Moment) (ends : List Moment) : Prop where
  sorted : ends.Pairwise (· ≤ ·)
  later : ∀ e ∈ ends, now ≤ e
  room : ends.length ≤ width

theorem Standing.empty (width : Nat) (now : Moment) : Standing width now [] :=
  ⟨.nil, nofun, Nat.zero_le width⟩

theorem Standing.insert {width : Nat} {now : Moment} {ends : List Moment}
    (h : Standing width now ends) (hfree : ends.length < width) (d : Nat) :
    Standing width now (insertMoment (now + d) ends) where
  sorted := insertMoment_sorted h.sorted
  later e he := by
    rcases List.mem_cons.mp ((insertMoment_perm _ ends).mem_iff.mp he) with rfl | he
    · exact Nat.le_add_right now d
    · exact h.later e he
  room := by
    rw [length_insertMoment]
    exact hfree

section

variable {width : Nat} {now t : Moment} {ends : List Moment}

/-- The next piece is begun at once if there is a place free, and when the first piece ends if there
is none. -/
theorem assign_step (hwidth : 0 < width) (h : Standing width now ends) (d : Nat) (ds : List Nat) :
    ∃ begun rest, now ≤ begun ∧ Standing width begun rest ∧ rest.length < width ∧
      (begun = now ∧ rest = ends ∨ ends = begun :: rest ∧ ends.length = width) ∧
      assign width now ends (d :: ds) =
        (begun, begun + d) :: assign width begun (insertMoment (begun + d) rest) ds := by
  by_cases hfree : ends.length < width
  · exact ⟨now, ends, Nat.le_refl now, h, hfree, Or.inl ⟨rfl, rfl⟩, assign_free hfree⟩
  · cases ends with
    | nil => exact absurd hwidth hfree
    | cons e rest =>
      obtain ⟨he, hrest⟩ := List.pairwise_cons.mp h.sorted
      have hfull := Nat.le_of_not_lt hfree
      exact ⟨e, rest, h.later e List.mem_cons_self, ⟨hrest, he, Nat.le_of_succ_le h.room⟩, h.room,
        Or.inr ⟨rfl, Nat.le_antisymm h.room hfull⟩, assign_full hfull⟩

theorem le_begun (hwidth : 0 < width) (h : Standing width now ends) {takes : List Nat}
    {piece : Moment × Moment} (hp : piece ∈ assign width now ends takes) : now ≤ piece.1 := by
  induction takes generalizing now ends with
  | nil => cases hp
  | cons d ds ih =>
    obtain ⟨begun, rest, hnow, hrest, hfree, -, hassign⟩ := assign_step hwidth h d ds
    rw [hassign] at hp
    rcases List.mem_cons.mp hp with rfl | hp
    · exact hnow
    · exact Nat.le_trans hnow (ih (hrest.insert hfree d) hp)

/-- The pieces under way at a moment are no more than there are places.  If there is a place free no
piece is begun any more. -/
theorem places (hwidth : 0 < width) (h : Standing width now ends) (ht : now ≤ t)
    (takes : List Nat) :
    toCome t ends + underWayAt t (assign width now ends takes) ≤ width ∧
      (toCome t ends + underWayAt t (assign width now ends takes) < width →
        ∀ piece ∈ assign width now ends takes, piece.1 ≤ t) := by
  induction takes generalizing now ends with
  | nil => exact ⟨Nat.le_trans (List.length_filter_le _ _) h.room, fun _ _ h => nomatch h⟩
  | cons d ds ih =>
    obtain ⟨begun, rest, hnow, hrest, hfree, hcase, hassign⟩ := assign_step hwidth h d ds
    rcases Nat.lt_or_ge t begun with hlt | hle
    · -- all places are taken until the next piece is begun
      obtain ⟨rfl, -⟩ | ⟨hends, hfull⟩ := hcase
      · exact absurd ht (Nat.not_le.mpr hlt)
      · have hcome : toCome t ends = width := by
          rw [← hfull, toCome, List.filter_eq_self.mpr]
          intro e he
          rw [hends] at he
          rcases List.mem_cons.mp he with rfl | he
          · exact decide_eq_true hlt
          · exact decide_eq_true (Nat.lt_of_lt_of_le hlt (hrest.later e he))
        have hnone : underWayAt t (assign width now ends (d :: ds)) = 0 := by
          rw [underWayAt, List.length_eq_zero_iff, List.filter_eq_nil_iff]
          intro piece hp hbegun
          rw [hassign] at hp
          have hlater : begun ≤ piece.1 := by
            rcases List.mem_cons.mp hp with rfl | hp
            · exact Nat.le_refl begun
            · exact le_begun hwidth (hrest.insert hfree d) hp
          exact absurd (of_decide_eq_true hbegun).1
            (Nat.not_le.mpr (Nat.lt_of_lt_of_le hlt hlater))
        rw [hcome, hnone]
        exact ⟨Nat.le_refl width, fun h => absurd h (Nat.lt_irrefl width)⟩
    · have hcome : toCome t ends = toCome t rest := by
        obtain ⟨-, rfl⟩ | ⟨rfl, -⟩ := hcase
        · rfl
        · simp [toCome, hle]
      obtain ⟨hbound, hbegun⟩ := ih (hrest.insert hfree d) hle
      rw [toCome_insertMoment] at hbound hbegun
      rw [hassign, underWayAt_cons hle, hcome]
      refine ⟨by omega, fun hplace piece hp => ?_⟩
      rcases List.mem_cons.mp hp with rfl | hp
      · exact hle
      · exact hbegun (by omega) piece hp

/-- With a single place the pieces come one after another. -/
theorem assign_one (h : Standing 1 now ends) (takes : List Nat) :
    (assign 1 now ends takes).Pairwise fun p p' => p.2 ≤ p'.1 := by
  induction takes generalizing now ends with
  | nil => exact .nil
  | cons d ds ih =>
    obtain ⟨begun, rest, -, hrest, hfree, -, hassign⟩ := assign_step Nat.one_pos h d ds
    obtain rfl := List.length_eq_zero_iff.mp (Nat.lt_one_iff.mp hfree)
    rw [hassign]
    refine List.pairwise_cons.mpr ⟨fun p hp => ?_, ih (hrest.insert hfree d)⟩
    have hpop : assign 1 begun [begun + d] ds = assign 1 (begun + d) [] ds :=
      assign_pop (Or.inl rfl)
    rw [insertMoment, hpop] at hp
    exact le_begun Nat.one_pos (.empty 1 _) hp

end

/-! ## Pieces of one length -/

/-- When the piece of a number ends, if that many fit in at once. -/
def endOf (width : Nat) (start : Moment) (d i : Nat) : Moment := start + (i / width + 1) * d

/-- The moments at which the last pieces end that were begun before the one of a number. -/
def lastEnds (width : Nat) (start : Moment) (d i : Nat) : List Moment :=
  (List.range' (i - width) (min i width)).map (endOf width start d)

theorem insertMoment_last {m : Moment} {l : List Moment} (hsorted : l.Pairwise (· ≤ ·))
    (hle : ∀ x ∈ l, x ≤ m) : insertMoment m l = l ++ [m] := by
  refine List.Perm.eq_of_pairwise (fun a b _ _ => Nat.le_antisymm) (insertMoment_sorted hsorted)
    ?_ ((insertMoment_perm m l).trans (List.perm_append_singleton m l).symm)
  refine List.pairwise_append.mpr ⟨hsorted, List.pairwise_singleton _ m, fun x hx y hy => ?_⟩
  rw [List.mem_singleton.mp hy]
  exact hle x hx

section

variable (width start d : Nat)

theorem endOf_mono {j k : Nat} (h : j ≤ k) : endOf width start d j ≤ endOf width start d k :=
  Nat.add_le_add_left (Nat.mul_le_mul_right d (Nat.succ_le_succ (Nat.div_le_div_right h))) start

/-- A new piece is the last to end. -/
theorem insertMoment_endOf (k count : Nat) :
    insertMoment (endOf width start d (k + count))
      ((List.range' k count).map (endOf width start d)) =
      (List.range' k (count + 1)).map (endOf width start d) := by
  rw [List.range'_concat, List.map_append, Nat.one_mul, List.map_singleton]
  refine insertMoment_last ?_ ?_
  · exact List.pairwise_map.mpr (List.pairwise_le_range'.imp (endOf_mono width start d))
  · intro x hx
    obtain ⟨j, hj, rfl⟩ := List.mem_map.mp hx
    exact endOf_mono width start d (Nat.le_of_lt (by simpa using (List.mem_range'_1.mp hj).2))

variable {width}

/-- The piece of a number is begun when those that fit in before it have ended. -/
theorem assign_replicate (hwidth : 0 < width) (n i : Nat) {now : Moment}
    (hnow : i < width → now = start) :
    assign width now (lastEnds width start d i) (List.replicate n d) =
      (List.range' i n).map fun j => (start + j / width * d, endOf width start d j) := by
  induction n generalizing i now with
  | zero => rfl
  | succ n ih =>
    rw [List.replicate_succ, List.range'_succ, List.map_cons]
    have hnew : start + i / width * d + d = endOf width start d i := by
      rw [endOf, Nat.succ_mul, Nat.add_assoc]
    by_cases hi : i < width
    · obtain rfl := hnow hi
      have hends : lastEnds width now d i = (List.range' 0 i).map (endOf width now d) := by
        rw [lastEnds, Nat.sub_eq_zero_of_le (Nat.le_of_lt hi), Nat.min_eq_left (Nat.le_of_lt hi)]
      have hnext : lastEnds width now d (i + 1) =
          (List.range' 0 (i + 1)).map (endOf width now d) := by
        rw [lastEnds, Nat.sub_eq_zero_of_le hi, Nat.min_eq_left hi]
      have hfirst : now + i / width * d = now := by
        rw [Nat.div_eq_of_lt hi, Nat.zero_mul, Nat.add_zero]
      rw [hfirst] at hnew ⊢
      have hinsert := insertMoment_endOf width now d 0 i
      rw [Nat.zero_add] at hinsert
      rw [hends, assign_free (by simpa using hi), hnew, hinsert, ← hnext, ih (i + 1) fun _ => rfl]
    · have hle : width ≤ i := Nat.le_of_not_lt hi
      obtain ⟨k, rfl⟩ : ∃ k, width = k + 1 := Nat.exists_eq_succ_of_ne_zero (Nat.ne_of_gt hwidth)
      obtain ⟨j, rfl⟩ : ∃ j, i = j + (k + 1) := ⟨i - (k + 1), (Nat.sub_add_cancel hle).symm⟩
      have hends : lastEnds (k + 1) start d (j + (k + 1)) =
          endOf (k + 1) start d j :: (List.range' (j + 1) k).map (endOf (k + 1) start d) := by
        rw [lastEnds, Nat.add_sub_cancel, Nat.min_eq_right hle, List.range'_succ, List.map_cons]
      have hnext : lastEnds (k + 1) start d (j + (k + 1) + 1) =
          (List.range' (j + 1) (k + 1)).map (endOf (k + 1) start d) := by
        rw [lastEnds, Nat.min_eq_right (Nat.le_succ_of_le hle), Nat.add_right_comm,
          Nat.add_sub_cancel]
      have hfirst : start + (j + (k + 1)) / (k + 1) * d = endOf (k + 1) start d j := by
        rw [Nat.add_div_right _ hwidth, endOf]
      rw [hfirst] at hnew ⊢
      have hinsert := insertMoment_endOf (k + 1) start d (j + 1) k
      rw [Nat.add_right_comm, Nat.add_assoc] at hinsert
      rw [hends, assign_full (by simp), hnew, hinsert, ← hnext,
        ih (j + (k + 1) + 1) fun h => absurd (Nat.lt_of_succ_lt h) hi]

/-- The last of some pieces of one length ends when all have had their turn. -/
theorem finish_replicate (hwidth : 0 < width) (n : Nat) :
    finish start (assign width start [] (List.replicate n d)) =
      start + (n + width - 1) / width * d := by
  have hassign := assign_replicate start d hwidth n 0 fun _ => rfl
  have hnone : lastEnds width start d 0 = [] := by
    rw [lastEnds, Nat.zero_min]
    rfl
  rw [hnone] at hassign
  rw [hassign]
  cases n with
  | zero =>
    rw [Nat.zero_add, Nat.div_eq_of_lt (Nat.sub_lt hwidth Nat.one_pos), Nat.zero_mul]
    rfl
  | succ n =>
    have hlast : (n + 1 + width - 1) / width = n / width + 1 := by
      rw [Nat.add_right_comm, Nat.add_sub_cancel, Nat.add_div_right _ hwidth]
    rw [hlast, List.range'_concat, List.map_append, List.map_singleton, finish_concat,
      Nat.zero_add, Nat.one_mul]
    refine Nat.max_eq_right (finish_le ?_ ?_)
    · exact Nat.le_add_right start _
    · intro p hp
      obtain ⟨j, hj, rfl⟩ := List.mem_map.mp hp
      exact endOf_mono width start d (Nat.le_of_lt (by simpa using (List.mem_range'_1.mp hj).2))

end

/-- The pieces under way are no more than the bound allows, and none is put off for longer than it
forces. -/
theorem schedule_places (width : Nat) (start t : Moment) (takes : List Nat) :
    underWayAt t (schedule width start takes) ≤ max width 1 ∧
      (start ≤ t → underWayAt t (schedule width start takes) < max width 1 →
        ∀ piece ∈ schedule width start takes, piece.1 ≤ t) := by
  rcases Nat.lt_or_ge t start with hlt | hle
  · have hnone : underWayAt t (schedule width start takes) = 0 := by
      rw [underWayAt, List.length_eq_zero_iff, List.filter_eq_nil_iff]
      intro piece hp hbegun
      exact absurd (of_decide_eq_true hbegun).1
        (Nat.not_le.mpr (Nat.lt_of_lt_of_le hlt (le_begun (bound_pos _) (.empty _ _) hp)))
    rw [hnone]
    exact ⟨Nat.zero_le _, fun hle => absurd hle (Nat.not_le.mpr hlt)⟩
  · obtain ⟨hbound, hbegun⟩ := places (bound_pos _) (.empty _ _) hle takes
    rw [toCome, List.filter_nil, List.length_nil, Nat.zero_add] at hbound hbegun
    exact ⟨hbound, fun _ => hbegun⟩

end Lookups

namespace Service

open Lookups (Pool underWayAt)

/-! ## What a pass finds -/

/-- What is found depends on the load balancers and on what their lookups come to, and not on the
order of either. -/
theorem summarize_perm (known : ExtTreeSet String) (eligibleNodes : Nat) {keys keys' : List String}
    {lookups lookups' : List Lookup} (hkeys : keys.Perm keys')
    (hready : (lookups.map Lookup.ready).Perm (lookups'.map Lookup.ready)) :
    summarize known (ExtTreeSet.ofList keys) eligibleNodes lookups =
      summarize known (ExtTreeSet.ofList keys') eligibleNodes lookups' := by
  have hcurrent : ExtTreeSet.ofList keys = ExtTreeSet.ofList keys' := by
    refine ExtTreeSet.ext_mem fun key => ?_
    simp only [ExtTreeSet.mem_ofList, List.contains_iff_mem, hkeys.mem_iff]
  have hsum : (lookups.filterMap (·.ready)).foldl (· + ·) 0 =
      (lookups'.filterMap (·.ready)).foldl (· + ·) 0 := by
    have hperm := hready.filterMap id
    rw [List.filterMap_map, List.filterMap_map] at hperm
    exact hperm.foldl_eq' (fun _ _ _ _ _ => Nat.add_right_comm _ _ _) 0
  have hunresolved : (lookups.filter fun l => l.ready.isNone).length =
      (lookups'.filter fun l => l.ready.isNone).length := by
    have hlength := (hready.filter Option.isNone).length_eq
    rwa [List.filter_map, List.length_map, List.filter_map, List.length_map] at hlength
  unfold summarize
  rw [hcurrent, hsum, hunresolved]

namespace Inquiry

/-- The moments of some lookups. -/
abbrev moments (lookups : List Lookup) : List (Moment × Moment) :=
  lookups.map fun l => (l.begun, l.ended)

/-- The lookups of a pass are over at a moment and have come to an end in this order.  The load
balancers may have been gone through in any order. -/
def Answers (q : Inquiry) (m : Moment) (balancers : List Kube.Service) (stop : Moment)
    (answered : List Lookup) : Prop :=
  ∃ order done, order.Perm balancers ∧
    Pool.Run (max q.workers 1) q.takes ⟨m, order, [], []⟩ ⟨stop, [], [], done⟩ ∧
    answered = done.map q.lookup

/-- What the bound on the lookups of a pass comes to. -/
structure Bounded (q : Inquiry) (m : Moment) (balancers : List Kube.Service) : Prop where
  /-- No more lookups are under way than the bound allows, and those that are under way and those
  that are still to be begun come to an end. -/
  progress : ∀ order p, order.Perm balancers →
    Pool.Run (max q.workers 1) q.takes ⟨m, order, [], []⟩ p →
    p.busy.length ≤ max q.workers 1 ∧
      ∃ stop done, Pool.Run (max q.workers 1) q.takes p ⟨stop, [], [], done⟩
  /-- Each load balancer is looked up once. -/
  services : ∀ stop answered, q.Answers m balancers stop answered →
    (answered.map Lookup.service).Perm balancers
  /-- A lookup is not begun before the pass, and takes its time, and the pass takes as long as its
  lookups. -/
  times : ∀ stop answered, q.Answers m balancers stop answered →
    (∀ l ∈ answered, m ≤ l.begun ∧ l.ended = l.begun + q.takes l.service) ∧
      stop = Lookups.finish m (moments answered)
  /-- The answers come in as the lookups end. -/
  ordered : ∀ stop answered, q.Answers m balancers stop answered →
    answered.Pairwise fun l l' => l.ended ≤ l'.ended
  /-- At no moment are more lookups under way than the bound allows. -/
  bound : ∀ stop answered, q.Answers m balancers stop answered →
    ∀ t, underWayAt t (moments answered) ≤ max q.workers 1
  /-- As long as there are fewer no lookup waits. -/
  prompt : ∀ stop answered, q.Answers m balancers stop answered →
    ∀ t, m ≤ t → underWayAt t (moments answered) < max q.workers 1 → ∀ l ∈ answered, l.begun ≤ t
  /-- If all lookups take the same time they are made in turns, each of as many as the bound
  allows. -/
  turns : ∀ stop answered, q.Answers m balancers stop answered →
    ∀ d, (∀ s ∈ balancers, q.takes s = d) →
      stop = m + (balancers.length + max q.workers 1 - 1) / max q.workers 1 * d
  /-- With one worker the lookups are made one after another. -/
  sequential : (Inquiry.lookups {q with workers := 1} m balancers).Pairwise fun l l' =>
    l.ended ≤ l'.begun
  /-- The pass itself is one of the ways in which the lookups may go. -/
  pass : ∀ known eligibleNodes, ∃ answered,
    q.Answers m balancers (q.pass m known eligibleNodes balancers).ended answered ∧
      answered.Perm (q.pass m known eligibleNodes balancers).lookups
  /-- Any number of workers finds what is found with one. -/
  summary : ∀ known eligibleNodes,
    (q.pass m known eligibleNodes balancers).summary =
        (Inquiry.pass {q with workers := 1} m known eligibleNodes balancers).summary ∧
      ∀ stop answered, q.Answers m balancers stop answered →
        summarize known (.ofList (answered.map (·.service.key))) eligibleNodes answered =
          (Inquiry.pass {q with workers := 1} m known eligibleNodes balancers).summary

variable {q : Inquiry} {m stop : Moment} {balancers : List Kube.Service} {answered : List Lookup}

theorem map_ready_lookups (q : Inquiry) (m : Moment) (services : List Kube.Service) :
    (q.lookups m services).map Lookup.ready = services.map q.ready := by
  have hready : (q.lookups m services).map Lookup.ready =
      ((q.lookups m services).map Lookup.service).map q.ready := by
    rw [List.map_map]
    exact List.map_congr_left fun l hl => (of_mem_lookups hl).2
  rw [hready, map_service_lookups]

theorem moments_lookups (q : Inquiry) (m : Moment) (services : List Kube.Service) :
    moments (q.lookups m services) = Lookups.schedule q.workers m (services.map q.takes) := by
  have hlength (takes : List Nat) : (Lookups.schedule q.workers m takes).length = takes.length :=
    Lookups.length_assign _ _ _ _
  simp only [lookups, moments, List.map_map]
  refine List.map_snd_zip (Nat.le_of_eq ?_)
  rw [hlength, List.length_map]

theorem times_of_mem_lookups {services : List Kube.Service} {l : Lookup}
    (h : l ∈ q.lookups m services) : m ≤ l.begun ∧ l.ended = l.begun + q.takes l.service := by
  obtain ⟨⟨s, begun, ended⟩, hpiece, rfl⟩ := List.mem_map.mp h
  exact ⟨Lookups.le_begun (Lookups.bound_pos _) (.empty _ _) (List.of_mem_zip hpiece).2,
    Pool.ended_of_mem_timed hpiece⟩

/-- The lookups that are answered are those of the pass that goes through the load balancers in the
same order. -/
theorem answered_perm {order : List Kube.Service} {done : List (Lookups.Timed Kube.Service)}
    (hrun : Pool.Run (max q.workers 1) q.takes ⟨m, order, [], []⟩ ⟨stop, [], [], done⟩) :
    (done.map q.lookup).Perm (q.lookups m order) ∧
      ((done.map q.lookup).Pairwise fun l l' => l.ended ≤ l'.ended) ∧
      stop = Lookups.finish m (moments (q.lookups m order)) := by
  obtain ⟨hperm, hordered, hover⟩ := hrun.schedule
  refine ⟨hperm.map q.lookup, List.pairwise_map.mpr hordered, ?_⟩
  rw [hover, moments, lookups, List.map_map]
  rfl

theorem Answers.perm (h : q.Answers m balancers stop answered) :
    ∃ order, order.Perm balancers ∧ answered.Perm (q.lookups m order) ∧
      (answered.Pairwise fun l l' => l.ended ≤ l'.ended) ∧
      stop = Lookups.finish m (moments (q.lookups m order)) := by
  obtain ⟨order, done, horder, hrun, rfl⟩ := h
  exact ⟨order, horder, answered_perm hrun⟩

theorem exists_answers (q : Inquiry) (m : Moment) (known : ExtTreeSet String) (eligibleNodes : Nat)
    (balancers : List Kube.Service) :
    ∃ answered, q.Answers m balancers (q.pass m known eligibleNodes balancers).ended answered ∧
      answered.Perm (q.pass m known eligibleNodes balancers).lookups := by
  obtain ⟨stop, done, hrun⟩ : ∃ stop done,
      Pool.Run (max q.workers 1) q.takes ⟨m, balancers, [], []⟩ ⟨stop, [], [], done⟩ :=
    Pool.exists_run (Lookups.bound_pos _) _
  obtain ⟨hperm, -, hover⟩ := answered_perm hrun
  refine ⟨done.map q.lookup, ⟨balancers, done, .refl _, ?_, rfl⟩, hperm⟩
  rw [hover] at hrun
  exact hrun

theorem moments_perm {lookups lookups' : List Lookup} (h : lookups.Perm lookups') :
    (moments lookups).Perm (moments lookups') :=
  h.map _

theorem Answers.services (h : q.Answers m balancers stop answered) :
    (answered.map Lookup.service).Perm balancers := by
  obtain ⟨order, horder, hperm, -⟩ := h.perm
  refine (hperm.map _).trans ?_
  rw [map_service_lookups]
  exact horder

theorem Answers.moments_perm (h : q.Answers m balancers stop answered) :
    ∃ order : List Kube.Service, order.Perm balancers ∧
      (moments answered).Perm (Lookups.schedule q.workers m (order.map q.takes)) ∧
      stop = Lookups.finish m (Lookups.schedule q.workers m (order.map q.takes)) := by
  obtain ⟨order, horder, hperm, -, hover⟩ := h.perm
  rw [moments_lookups] at hover
  refine ⟨order, horder, ?_, hover⟩
  rw [← moments_lookups]
  exact hperm.map _

/-- How many workers there are makes no difference to what a pass finds. -/
theorem pass_summary (q : Inquiry) (m : Moment) (known : ExtTreeSet String) (eligibleNodes : Nat)
    (balancers : List Kube.Service) (workers : Nat) :
    (q.pass m known eligibleNodes balancers).summary =
      (Inquiry.pass {q with workers} m known eligibleNodes balancers).summary := by
  refine summarize_perm known eligibleNodes (.refl _) (.of_eq ?_)
  rw [map_ready_lookups, map_ready_lookups]

/-- It makes no difference how the lookups went. -/
theorem Answers.summary (h : q.Answers m balancers stop answered) (known : ExtTreeSet String)
    (eligibleNodes : Nat) :
    summarize known (.ofList (answered.map (·.service.key))) eligibleNodes answered =
      (q.pass m known eligibleNodes balancers).summary := by
  obtain ⟨order, horder, hperm, -⟩ := h.perm
  refine summarize_perm known eligibleNodes ?_ ?_
  · have hkeys := h.services.map Kube.Service.key
    rwa [List.map_map] at hkeys
  · refine (hperm.map _).trans ?_
    rw [map_ready_lookups, map_ready_lookups]
    exact horder.map _

theorem Answers.turns (h : q.Answers m balancers stop answered) {d : Nat}
    (hd : ∀ s ∈ balancers, q.takes s = d) :
    stop = m + (balancers.length + max q.workers 1 - 1) / max q.workers 1 * d := by
  obtain ⟨order, horder, -, hover⟩ := h.moments_perm
  have htakes : order.map q.takes = List.replicate balancers.length d := by
    rw [← horder.length_eq]
    exact List.map_eq_replicate_iff.mpr fun s hs => hd s (horder.mem_iff.mp hs)
  rw [hover, htakes]
  exact Lookups.finish_replicate m d (Lookups.bound_pos _) balancers.length

end Inquiry

/-- How many lookups may be under way at once decides how long a pass takes, and nothing else. -/
theorem workers_change_only_time (q : Inquiry) (m : Moment) (balancers : List Kube.Service) :
    q.Bounded m balancers where
  progress order p horder hrun := by
    exact ⟨hrun.sound.room, Pool.exists_run (Lookups.bound_pos _) p⟩
  services stop answered h := h.services
  times stop answered h := by
    obtain ⟨order, horder, hperm, -, hover⟩ := h.perm
    refine ⟨fun l hl => ?_, ?_⟩
    · exact Inquiry.times_of_mem_lookups (hperm.mem_iff.mp hl)
    · rw [hover, Lookups.finish_perm (Inquiry.moments_perm hperm)]
  ordered stop answered h := by
    obtain ⟨order, horder, hperm, hordered, -⟩ := h.perm
    exact hordered
  bound stop answered h t := by
    obtain ⟨order, horder, hperm, -⟩ := h.moments_perm
    rw [Lookups.underWayAt_perm hperm]
    exact (Lookups.schedule_places q.workers m t _).1
  prompt stop answered h t ht hplace l hl := by
    obtain ⟨order, horder, hperm, -⟩ := h.moments_perm
    rw [Lookups.underWayAt_perm hperm] at hplace
    refine (Lookups.schedule_places q.workers m t _).2 ht hplace (l.begun, l.ended) ?_
    exact hperm.mem_iff.mp (List.mem_map_of_mem (f := fun l : Lookup => (l.begun, l.ended)) hl)
  turns stop answered h d hd := h.turns hd
  pass known eligibleNodes := q.exists_answers m known eligibleNodes balancers
  sequential := by
    have hone := Lookups.assign_one (.empty 1 m) (balancers.map q.takes)
    have hmoments := Inquiry.moments_lookups {q with workers := 1} m balancers
    rw [← show _ = Lookups.assign 1 m [] _ from hmoments] at hone
    exact List.pairwise_map.mp hone
  summary known eligibleNodes := by
    refine ⟨q.pass_summary m known eligibleNodes balancers 1, fun stop answered h => ?_⟩
    rw [h.summary, q.pass_summary m known eligibleNodes balancers 1]

end Service

end Flotilla.Controllers
