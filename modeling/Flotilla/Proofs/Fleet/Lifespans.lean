import Flotilla.Proofs.Fleet.Chronicle
import Flotilla.Proofs.Fleet.Episodes

/-!
# The life of an instance

An instance that the factory gave is managed until the first complete cycle whose
listing omits its cluster.  That cycle cancels it, once, and nothing else ever
does.  `Course.lifespans` says so of every course in which the process goes on:
no instance is lost without being cancelled, and none is cancelled for another.
-/

namespace Flotilla.Fleet

open Std (ExtTreeMap ExtTreeSet)

namespace Course

/-- An instance made in the cycle at some place is still managed: no cycle since dropped it. -/
structure Running (c : Course) (place : Nat) (x : String × Token) : Prop where
  kept : ∀ (j : Nat) (e : Episode), place < j → c.episodes[j]? = some e → ¬ e.Drops x.1
  managed : c.roster.instances[x.1]? = some x.2
  live : c.stage.cancellation.isCancelled x.2 = false
  unstopped : stops x.2 c.steps = 0

/-- An instance made in the cycle at some place was removed, and was cancelled once, by the first
cycle since that dropped it. -/
structure Ended (c : Course) (place : Nat) (x : String × Token) : Prop where
  removed : ∀ k : String, c.roster.instances[k]? ≠ some x.2
  cancelled : c.stage.cancellation.isCancelled x.2 = true
  once : stops x.2 c.steps = 1
  dropped : ∃ (j : Nat) (e : Episode), place < j ∧ c.episodes[j]? = some e ∧ e.Drops x.1 ∧
    stops x.2 e.steps = 1 ∧
      ∀ (k : Nat) (e' : Episode), place < k → k < j → c.episodes[k]? = some e' → ¬ e'.Drops x.1

/-- What a course has done with the instances of the factory. -/
structure Lifespans (c : Course) : Prop where
  /-- Every instance the factory gave is either running or ended. -/
  fate : ∀ x ∈ c.stage.instances, ∃ (i : Nat) (e : Episode), c.episodes[i]? = some e ∧
    .launched x.1 x.2 ∈ e.steps ∧ (c.Running i x ∨ c.Ended i x) ∧ ¬ (c.Running i x ∧ c.Ended i x)
  /-- Only instances of the factory are managed. -/
  known : ∀ (k : String) (t : Token), c.roster.instances[k]? = some t → (k, t) ∈ c.stage.instances
  /-- The steps bring and remove all that comes to be managed or ceases to be. -/
  replayed : c.roster.instances = replay c.steps
  /-- No instance ever comes in place of another. -/
  fresh : ∀ l k t r, c.steps = l ++ .launched k t :: r → k ∉ replay l
  /-- The creations and cancellations of each cluster take turns. -/
  life : ∀ k : String, Alternating (c.steps.filterMap (Step.event? k)) c.roster.instances[k]?
  /-- To cancel an instance cancels neither the process nor another instance. -/
  isolated : ∀ x ∈ c.stage.instances, ∀ k : Cancellation,
    (k.fire x.2).isCancelled c.stage.process = k.isCancelled c.stage.process ∧
      ∀ y ∈ c.stage.instances, y ≠ x → (k.fire x.2).isCancelled y.2 = k.isCancelled y.2

/-- What the cycles did with an instance, as far as roster and steps tell. -/
def Fate (c : Course) (x : String × Token) : Prop :=
  ∃ (i : Nat) (e : Episode), c.episodes[i]? = some e ∧ .launched x.1 x.2 ∈ e.steps ∧
    (((∀ (j : Nat) (e : Episode), i < j → c.episodes[j]? = some e → ¬ e.Drops x.1) ∧
        c.roster.instances[x.1]? = some x.2) ∨
      ∃ (j : Nat) (e : Episode), i < j ∧ c.episodes[j]? = some e ∧ e.Drops x.1 ∧
        .stopped x.1 x.2 ∈ e.steps ∧
          ∀ (k : Nat) (e' : Episode), i < k → k < j → c.episodes[k]? = some e' → ¬ e'.Drops x.1)

/-- A cycle settles the fate of the instances before it. -/
theorem Fate.cycle {c : Course} {x : String × Token} (h : c.Fate x) (o : Occasion) :
    (c.cycle o).Fate x := by
  obtain ⟨i, e, he, hl, hfate⟩ := h
  have hi : i < c.episodes.length := (List.getElem?_eq_some_iff.mp he).1
  refine ⟨i, e, episode_kept he, hl, ?_⟩
  rcases hfate with ⟨hkept, hm⟩ | ⟨j, e', hij, he', hd, hs, hfirst⟩
  · rcases kept_or_dropped o c.stage hm with ⟨hd, hm'⟩ | ⟨hd, hs⟩
    · refine Or.inl ⟨?_, hm'⟩
      intro j e' hij he'
      rcases episode_cases he' with ⟨-, he'⟩ | ⟨-, rfl⟩
      · exact hkept j e' hij he'
      · exact hd
    · refine Or.inr ⟨c.episodes.length, _, hi, List.getElem?_concat_length, hd, hs, ?_⟩
      intro k e' hik hk he'
      rcases episode_cases he' with ⟨-, he'⟩ | ⟨rfl, -⟩
      · exact hkept k e' hik he'
      · exact absurd hk (Nat.lt_irrefl _)
  · refine Or.inr ⟨j, e', hij, episode_kept he', hd, hs, ?_⟩
    intro k e'' hik hk he''
    rcases episode_cases he'' with ⟨-, he''⟩ | ⟨rfl, -⟩
    · exact hfirst k e'' hik hk he''
    · exact absurd (Nat.lt_trans hk (List.getElem?_eq_some_iff.mp he').1) (Nat.lt_irrefl _)

/-- An instance that a cycle brings is running after it. -/
theorem fate_launched {c : Course} {o : Occasion} {x : String × Token}
    (h : .launched x.1 x.2 ∈ (c.progress o).steps) : (c.cycle o).Fate x := by
  refine ⟨c.episodes.length, _, List.getElem?_concat_length, h, Or.inl ⟨?_, ?_⟩⟩
  · intro j e hj he
    rcases episode_cases he with ⟨hlt, -⟩ | ⟨rfl, -⟩
    · exact absurd (Nat.lt_trans hj hlt) (Nat.lt_irrefl _)
    · exact absurd hj (Nat.lt_irrefl _)
  · exact managed_of_launched h

theorem mem_made {steps : List (Step Token)} {x : String × Token} :
    x ∈ steps.filterMap Step.made? ↔ .launched x.1 x.2 ∈ steps := by
  rw [List.mem_filterMap]
  constructor
  · rintro ⟨step, hs, hx⟩
    cases step with
    | launched c t =>
      cases hx
      exact hs
    | _ => cases hx
  · intro hs
    exact ⟨_, hs, rfl⟩

/-- The cycles settle the fate of every instance. -/
theorem fates (turns : List Turn) : ∀ x ∈ (run turns).stage.instances, (run turns).Fate x := by
  refine (run_keeps (P := fun c => Chronicle c.stage c.roster.instances c.steps ∧
    ∀ x ∈ c.stage.instances, c.Fate x) ⟨Chronicle.start, nofun⟩ ?_ turns).2
  rintro c turn ⟨h, hfate⟩
  have hturn := h.turn turn
  refine ⟨hturn, ?_⟩
  cases turn with
  | aside a =>
    intro x hx
    rw [show (c.turn (.aside a)).stage.instances = c.stage.instances from
      (c.stage.alike_aside a).instances] at hx
    exact hfate x hx
  | cycle o =>
    intro x hx
    rw [hturn.made, show (c.turn (.cycle o)).steps = c.steps ++ (c.progress o).steps from
      c.steps_cycle o, List.filterMap_append, ← h.made, List.mem_append, mem_made] at hx
    rcases hx with hx | hx
    · exact (hfate x hx).cycle o
    · exact fate_launched hx

theorem stops_episode_le {c : Course} {j : Nat} {e : Episode} (h : c.episodes[j]? = some e)
    (t : Token) : stops t e.steps ≤ stops t c.steps := by
  have hs : e.steps.Sublist c.steps :=
    List.sublist_flatten_of_mem (List.mem_map_of_mem (List.mem_of_getElem? h))
  exact hs.countP_le

/-- While the process goes on, a managed instance runs, and nothing has stopped it. -/
theorem running_of_managed {c : Course} (h : Chronicle c.stage c.roster.instances c.steps)
    (hf : c.stage.fired = false) {x : String × Token} (hx : x ∈ c.stage.instances) {i : Nat}
    (hm : c.roster.instances[x.1]? = some x.2)
    (hkept : ∀ j e, i < j → c.episodes[j]? = some e → ¬ e.Drops x.1) : c.Running i x where
  kept := hkept
  managed := hm
  live := by
    have hn : x.2.number ∉ c.stage.cancellation.fired := fun hn => (h.fired x hx).mp hn hm
    rw [h.sound.isCancelled_eq hx, show c.stage.cancellation.isCancelled c.stage.process = false
      from hf, Bool.or_false, Bool.eq_false_iff]
    exact hn
  unstopped := by rw [h.stops x hx, if_pos hm]

/-- An instance that some cycle stopped has ended. -/
theorem ended_of_stopped {c : Course} (h : Chronicle c.stage c.roster.instances c.steps)
    {x : String × Token} (hx : x ∈ c.stage.instances) {i j : Nat} {e : Episode} (hij : i < j)
    (he : c.episodes[j]? = some e) (hd : e.Drops x.1) (hs : .stopped x.1 x.2 ∈ e.steps)
    (hfirst : ∀ k e', i < k → k < j → c.episodes[k]? = some e' → ¬ e'.Drops x.1) :
    c.Ended i x := by
  have hle := stops_episode_le he x.2
  have hpos : stops x.2 e.steps ≠ 0 := fun h0 => stops_eq_zero.mp h0 x.1 hs
  have hcount := h.stops x hx
  have hm : c.roster.instances[x.1]? ≠ some x.2 := by
    intro hm
    rw [if_pos hm] at hcount
    omega
  rw [if_neg hm] at hcount
  exact {
    removed := by
      intro k hk
      have hkx : (k, x.2) = x := h.sound.unique (h.managed k x.2 hk) hx rfl
      exact hm (by rw [← hkx]; exact hk)
    cancelled := by
      have hn : x.2.number ∈ c.stage.cancellation.fired := (h.fired x hx).mpr hm
      rw [h.sound.isCancelled_eq hx, show c.stage.cancellation.fired.contains x.2.number = true
        from hn, Bool.true_or]
    once := hcount
    dropped := ⟨j, e, hij, he, hd, by omega, hfirst⟩ }

/-- As long as the process goes on, every instance is managed and not cancelled, or was removed and
cancelled once. -/
theorem lifespans (turns : List Turn) (h : (run turns).stage.fired = false) :
    (run turns).Lifespans := by
  have hc := chronicle turns
  exact {
    fate := by
      intro x hx
      obtain ⟨i, e, he, hl, hfate⟩ := fates turns x hx
      refine ⟨i, e, he, hl, ?_, fun hb => hb.2.removed x.1 hb.1.managed⟩
      rcases hfate with ⟨hkept, hm⟩ | ⟨j, e', hij, he', hd, hs, hfirst⟩
      · exact Or.inl (running_of_managed hc h hx hm hkept)
      · exact Or.inr (ended_of_stopped hc hx hij he' hd hs hfirst)
    known := hc.managed
    replayed := hc.replayed
    fresh := by
      intro l k t r hs
      refine hc.fresh l k t ⟨r, ?_⟩
      rw [hs, List.append_assoc]
      rfl
    life := hc.life
    isolated := by
      intro x hx k
      have hprocess : (k.fire x.2).isCancelled (run turns).stage.process =
          k.isCancelled (run turns).stage.process := by
        refine Cancellation.isCancelled_fire_of_not_mem ?_
        rw [Token.path, hc.sound.root, List.mem_singleton]
        exact Nat.ne_of_gt (hc.sound.descends x hx).2.1
      refine ⟨hprocess, ?_⟩
      intro y hy hne
      have hn : y.2.number ≠ x.2.number := fun he => hne (hc.sound.unique hy hx he)
      rw [hc.sound.isCancelled_eq hy, hc.sound.isCancelled_eq hy, hprocess]
      congr 1
      rw [Bool.eq_iff_iff]
      show y.2.number ∈ k.fired.insert x.2.number ↔ y.2.number ∈ k.fired
      rw [ExtTreeSet.mem_insert, Std.LawfulEqOrd.compare_eq_iff_eq]
      constructor
      · rintro (he | hk)
        · exact absurd he.symm hn
        · exact hk
      · exact Or.inr }

/-- The creation of `b` is cut short, the clusters cannot be listed, and then `a` is gone. -/
def trial : List Turn :=
  [ .cycle { listing := .ok ["a", "b"]
             attempt := fun c => { failure := if c = "b" then some .cancelled else none } },
    .cycle { listing := .error (.unrunnable "kind" ""), attempt := fun _ => {} },
    .cycle { listing := .ok ["b"], attempt := fun _ => {} } ]

/-- There `b` runs at the end and `a` was cancelled. -/
theorem lifespans_trial :
    (run trial).stage.fired = false ∧ (run trial).Lifespans ∧
      (run trial).stage.instances = [("a", ⟨1, [0]⟩), ("b", ⟨3, [0]⟩)] ∧
      (run trial).roster.instances.toList = [("b", ⟨3, [0]⟩)] ∧
      stops ⟨1, [0]⟩ (run trial).steps = 1 := by
  have h : (run trial).stage.fired = false := by decide +kernel
  exact ⟨h, lifespans trial h, by decide +kernel, by decide +kernel, by decide +kernel⟩

end Course

end Flotilla.Fleet
