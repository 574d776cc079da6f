import Mathlib.Data.List.Basic
import Flotilla.Cancellation
import Flotilla.Instance.Handle
import Flotilla.Proofs.Apiserver.Lifecycle

/-!
# What the handle of an instance tells

An instance is cancelled through its handle, which is given up with that, or the token that it
descends from fires.  Any number of deeds may have been done by the moment at which the instance is
looked at.  What is seen then depends on nothing but which deeds were among them, and on the moment
(`Held.Told`).

The token of an instance is a child of the token that it descends from.  `isCancelled_tokens` ties
the tokens that are fired to what is seen of the instance.
-/

namespace Flotilla.Instance

open Apiserver (Informers)
open Time (Moment first first_append first_cons exists_first)

/-- The token that a deed fires. -/
def Deed.token (parent own : Token) : Deed → Token
  | .cancel => own
  | .cancelParent => parent

namespace Held

/-- An instance with these tasks when these deeds were done, one after another. -/
def after (tasks : List Task) (deeds : List (Moment × Deed)) : Held := ({ tasks } : Held).play deeds

/-- What is seen at a moment of an instance with these tasks, when these deeds were done by then. -/
structure Told (tasks : List Task) (deeds : List (Moment × Deed)) (t : Moment) : Prop where
  /-- The handle is there until the instance is cancelled through it. -/
  handle : ((after tasks deeds).handle? t).isSome = true ↔ .cancel ∉ deeds.map (·.2)
  /-- It names all controllers, in the order in which they were started. -/
  controllers : ∀ v, (after tasks deeds).handle? t = some v → v.controllers = tasks.map (·.name)
  /-- Of these it names as finished those whose own moment has passed, and, if the token of the
  instance has fired, those that are not deaf to it. -/
  finished : ∀ v, (after tasks deeds).handle? t = some v → v.finished =
    (tasks.filter fun task => task.finishAt.any (· ≤ t) ||
      (!task.deaf && (after tasks deeds).isCancelled t)).map (·.name)
  sublist : ∀ v, (after tasks deeds).handle? t = some v → v.finished.Sublist v.controllers
  /-- The token of the instance fires with the instance or with the token it descends from. -/
  cancelled : (after tasks deeds).isCancelled t = true ↔
    .cancel ∈ deeds.map (·.2) ∨ .cancelParent ∈ deeds.map (·.2)
  /-- To cancel the instance does nothing to that one. -/
  parent : (after tasks deeds).isParentCancelled t = true ↔ .cancelParent ∈ deeds.map (·.2)
  /-- The two tokens say the same, whatever other tokens there are. -/
  tokens : ∀ (c : Cancellation) (above : Token), c.Sound → c.Knows above →
    c.isCancelled above = false →
      let own := (c.child above).1
      let fired := deeds.foldl (fun k d => k.fire (d.2.token above own)) (c.child above).2
      fired.isCancelled own = (after tasks deeds).isCancelled t ∧
        fired.isCancelled above = (after tasks deeds).isParentCancelled t
  /-- Later the handle names the same controllers, and as finished all that it does now. -/
  grows : ∀ more u, t ≤ u → (∀ d ∈ more, d.1 ≤ u) → ∀ v v',
    (after tasks deeds).handle? t = some v → (after tasks (deeds ++ more)).handle? u = some v' →
      v'.controllers = v.controllers ∧ v.finished.Sublist v'.finished
  /-- Once the instance was cancelled it is not seen again, and to cancel it again does nothing. -/
  spent : .cancel ∈ deeds.map (·.2) →
    (∀ more u, t ≤ u → (∀ d ∈ more, d.1 ≤ u) → (after tasks (deeds ++ more)).handle? u = none) ∧
      ∀ m, after tasks (deeds ++ [(m, .cancel)]) = after tasks deeds

/-! ## The deeds -/

variable {tasks : List Task} {deeds : List (Moment × Deed)} {t : Moment}

theorem play_eq (h : Held) (deeds : List (Moment × Deed)) :
    h.play deeds = { h with
      cancelled := h.cancelled.or (first .cancel deeds)
      parent := h.parent.or (first .cancelParent deeds) } := by
  induction deeds generalizing h with
  | nil => simp [play]
  | cons d rest ih =>
    obtain ⟨m, deed⟩ := d
    have hstep : h.play ((m, deed) :: rest) = (h.act m deed).play rest := rfl
    rw [hstep, ih (h.act m deed)]
    cases deed with
    | cancel => simp [act, cancel, first_cons]
    | cancelParent => simp [act, cancelParent, first_cons]

theorem after_eq (tasks : List Task) (deeds : List (Moment × Deed)) : after tasks deeds =
    { tasks, cancelled := first .cancel deeds, parent := first .cancelParent deeds } := by
  rw [after, play_eq]
  rfl

/-! ## What is seen -/

theorem hasHandle_after (hdone : ∀ d ∈ deeds, d.1 ≤ t) :
    (after tasks deeds).hasHandle t = true ↔ .cancel ∉ deeds.map (·.2) := by
  rw [← Informers.endedBy_first hdone, after_eq, hasHandle, Bool.not_eq_true', Bool.not_eq_true]

theorem isCancelled_after (hdone : ∀ d ∈ deeds, d.1 ≤ t) :
    (after tasks deeds).isCancelled t = true ↔
      .cancel ∈ deeds.map (·.2) ∨ .cancelParent ∈ deeds.map (·.2) := by
  rw [← Informers.endedBy_first hdone, ← Informers.endedBy_first hdone, after_eq, isCancelled,
    Bool.or_eq_true]

theorem isParentCancelled_after (hdone : ∀ d ∈ deeds, d.1 ≤ t) :
    (after tasks deeds).isParentCancelled t = true ↔ .cancelParent ∈ deeds.map (·.2) := by
  rw [← Informers.endedBy_first hdone, after_eq, isParentCancelled]

theorem handle?_eq_some {h : Held} {v : HandleView} :
    h.handle? t = some v ↔
      h.hasHandle t = true ∧ v = { controllers := h.controllers, finished := h.finishedAt t } := by
  unfold handle?
  split
  · next hhas => simp [hhas, eq_comm]
  · next hhas => simp [hhas]

theorem handle?_eq_none {h : Held} : h.handle? t = none ↔ h.hasHandle t = false := by
  unfold handle?
  split <;> simp_all

/-- A task has ended when its own moment has passed, or when the token has fired and it heeds it. -/
theorem finishedAt_eq (h : Held) (t : Moment) : h.finishedAt t =
    (h.tasks.filter fun task => task.finishAt.any (· ≤ t) ||
      (!task.deaf && h.isCancelled t)).map (·.name) := by
  have hended (e : Option Moment) : Informers.endedBy t e = e.any (· ≤ t) := by cases e <;> rfl
  simp only [finishedAt, endedTasks, Task.endedBy, stop, Informers.endedBy_earlier, isCancelled]
  simp only [hended]

/-! ## The tokens -/

variable {c : Cancellation} {above : Token}

/-- When some deeds were done a token is cancelled just when one of them has fired it, or one that it
descends from. -/
theorem isCancelled_tokens (hsound : c.Sound) (hknows : c.Knows above)
    (hfree : c.isCancelled above = false) (deeds : List (Moment × Deed)) :
    let own := (c.child above).1
    let fired := deeds.foldl (fun k d => k.fire (d.2.token above own)) (c.child above).2
    (fired.isCancelled own = true ↔
        .cancel ∈ deeds.map (·.2) ∨ .cancelParent ∈ deeds.map (·.2)) ∧
      (fired.isCancelled above = true ↔ .cancelParent ∈ deeds.map (·.2)) := by
  intro own fired
  have hown : (c.child above).2.isCancelled own = false := by
    rw [Cancellation.isCancelled_child_eq _ (hsound.child_fresh above)]
    exact hfree
  have hself : (c.child above).2.isCancelled above = false := hfree
  have hfresh : own.number ∉ above.path := hknows.child_fresh above
  have habove : above.number ∈ above.path := List.mem_cons_self
  have hpath : own.path = own.number :: above.path := rfl
  simp only [fired, Cancellation.isCancelled_foldl_fire, hown, hself, Bool.false_eq_true, or_false, List.mem_map]
  constructor
  · constructor
    · rintro ⟨⟨m, deed⟩, hd, -⟩
      cases deed with
      | cancel => exact Or.inl ⟨_, hd, rfl⟩
      | cancelParent => exact Or.inr ⟨_, hd, rfl⟩
    · rintro (⟨⟨m, deed⟩, hd, rfl⟩ | ⟨⟨m, deed⟩, hd, rfl⟩)
      · exact ⟨_, hd, List.mem_cons_self⟩
      · exact ⟨_, hd, List.mem_cons_of_mem _ habove⟩
  · constructor
    · rintro ⟨⟨m, deed⟩, hd, hm⟩
      cases deed with
      | cancel => exact absurd hm hfresh
      | cancelParent => exact ⟨_, hd, rfl⟩
    · rintro ⟨⟨m, deed⟩, hd, rfl⟩
      exact ⟨_, hd, habove⟩

/-! ## Later -/

theorem done_append {more : List (Moment × Deed)} {u : Moment} (hdone : ∀ d ∈ deeds, d.1 ≤ t)
    (htu : t ≤ u) (hmore : ∀ d ∈ more, d.1 ≤ u) : ∀ d ∈ deeds ++ more, d.1 ≤ u := by
  intro d hd
  rcases List.mem_append.mp hd with hd | hd
  · exact Nat.le_trans (hdone d hd) htu
  · exact hmore d hd

/-- What has ended stays so. -/
theorem finishedAt_sublist {h h' : Held} {u : Moment} (htasks : h'.tasks = h.tasks) (htu : t ≤ u)
    (hcancelled : h.isCancelled t = true → h'.isCancelled u = true) :
    (h.finishedAt t).Sublist (h'.finishedAt u) := by
  rw [finishedAt_eq, finishedAt_eq, htasks]
  refine (List.monotone_filter_right h.tasks fun task hended => ?_).map _
  simp only [Bool.or_eq_true, Bool.and_eq_true, Option.any_eq_true, decide_eq_true_eq] at hended ⊢
  rcases hended with ⟨m, hm, hle⟩ | ⟨hheeds, hfired⟩
  · exact Or.inl ⟨m, hm, Nat.le_trans hle htu⟩
  · exact Or.inr ⟨hheeds, hcancelled hfired⟩

/-- What the handle tells, and whether it is there, follows from what was done by the moment. -/
theorem handle_tells (tasks : List Task) (deeds : List (Moment × Deed)) (t : Moment)
    (hdone : ∀ d ∈ deeds, d.1 ≤ t) : Told tasks deeds t where
  handle := by
    have hhas : (after tasks deeds).hasHandle t = true ↔ .cancel ∉ deeds.map (·.2) :=
      hasHandle_after hdone
    rw [← hhas, Option.isSome_iff_exists]
    simp only [handle?_eq_some, exists_and_left, exists_eq, and_true]
  controllers v hv := by
    rw [(handle?_eq_some.mp hv).2, after_eq]
    rfl
  finished v hv := by
    rw [(handle?_eq_some.mp hv).2, finishedAt_eq, after_eq]
  sublist v hv := by
    rw [(handle?_eq_some.mp hv).2]
    exact List.Sublist.map _ List.filter_sublist
  cancelled := isCancelled_after hdone
  parent := isParentCancelled_after hdone
  tokens c above hsound hknows hfree := by
    obtain ⟨hown, habove⟩ := isCancelled_tokens hsound hknows hfree deeds
    refine ⟨?_, ?_⟩
    · rw [Bool.eq_iff_iff, isCancelled_after hdone]
      exact hown
    · rw [Bool.eq_iff_iff, isParentCancelled_after hdone]
      exact habove
  grows more u htu hmore v v' hv hv' := by
    have hlater := done_append hdone htu hmore
    rw [(handle?_eq_some.mp hv).2, (handle?_eq_some.mp hv').2]
    have htasks : (after tasks (deeds ++ more)).tasks = (after tasks deeds).tasks := by
      rw [after_eq, after_eq]
    refine ⟨congrArg (List.map _) htasks, finishedAt_sublist htasks htu ?_⟩
    rw [isCancelled_after hdone, isCancelled_after hlater, List.map_append]
    exact Or.imp (List.mem_append_left _) (List.mem_append_left _)
  spent hcancel := by
    constructor
    · intro more u htu hmore
      rw [handle?_eq_none, ← Bool.not_eq_true, hasHandle_after (done_append hdone htu hmore),
        List.map_append, not_not]
      exact List.mem_append_left _ hcancel
    · intro m
      obtain ⟨m', hm'⟩ := exists_first hcancel
      rw [after_eq, after_eq, first_append, first_append, hm']
      simp [first_cons]

/-- Two controllers of one name, of which one is deaf, and one that ends by itself. -/
def crew : List Task :=
  [{ name := "probe" }, { name := "service", finishAt := some 20 },
    { name := "probe", finishAt := some 90, deaf := true }]

theorem handle_tells_crew :
    (∀ d ∈ [(30, Deed.cancelParent)], d.1 ≤ 40) ∧ Told crew [(30, .cancelParent)] 40 ∧
      (after crew []).handle? 10 =
        some { controllers := ["probe", "service", "probe"], finished := [] } ∧
      (after crew [(30, .cancelParent)]).handle? 40 =
        some { controllers := ["probe", "service", "probe"], finished := ["probe", "service"] } ∧
      (after crew [(30, .cancelParent), (50, .cancel)]).handle? 90 = none :=
  ⟨by decide, handle_tells crew [(30, .cancelParent)] 40 (by decide), by decide, by decide,
    by decide⟩

end Held

end Flotilla.Instance
