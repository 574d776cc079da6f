import Mathlib.Data.List.Nodup
import Flotilla.Proofs.Fleet.Episodes
import Flotilla.Proofs.Fleet.Moves
import Flotilla.Proofs.Fleet.Stages

/-!
# What the steps say of the tokens

The instances that a fleet has, the tokens that were fired and the instances that
were ever made can all be read off the steps taken so far.  `Chronicle` says how,
and `Course.chronicle` proves it of every course.

It is an invariant of single moves, so it also holds in the middle of a cycle.
-/

namespace Flotilla.Fleet

open Std (ExtTreeMap)

/-! ## Reading the steps -/

/-- The instances after a step. -/
def Step.replay {H : Type} (m : ExtTreeMap String H) : Step H → ExtTreeMap String H
  | .launched c h => m.insert c h
  | .stopped c _ => m.erase c
  | _ => m

/-- The instances that some steps lead to. -/
def replay {H : Type} (steps : List (Step H)) : ExtTreeMap String H := steps.foldl Step.replay ∅

/-- The instance that a step brings. -/
def Step.made? : Step Token → Option (String × Token)
  | .launched c t => some (c, t)
  | _ => none

/-- Whether a step stops the instance with a token. -/
def Step.stops (t : Token) : Step Token → Bool
  | .stopped _ u => decide (u = t)
  | _ => false

/-- How often the instance with a token was stopped. -/
def stops (t : Token) (steps : List (Step Token)) : Nat := steps.countP (Step.stops t)

/-- What happens to the instances of one cluster. -/
inductive Event where
  /-- One is created. -/
  | created (t : Token)
  /-- One is cancelled. -/
  | cancelled (t : Token)

/-- What a step does to the instances of a cluster. -/
def Step.event? (c : String) : Step Token → Option Event
  | .launched k t => if k = c then some (.created t) else none
  | .stopped k t => if k = c then some (.cancelled t) else none
  | _ => none

/-- Creations and cancellations take turns, a creation first, and what is cancelled is what was
created last.  At the end there is the given instance or none. -/
inductive Alternating : List Event → Option Token → Prop where
  | nil : Alternating [] none
  | created {l : List Event} {t : Token} :
      Alternating l none → Alternating (l ++ [.created t]) (some t)
  | cancelled {l : List Event} {t : Token} :
      Alternating l (some t) → Alternating (l ++ [.cancelled t]) none

theorem replay_concat {H : Type} (steps : List (Step H)) (step : Step H) :
    replay (steps ++ [step]) = step.replay (replay steps) := by
  simp [replay]

theorem stops_concat (t : Token) (steps : List (Step Token)) (step : Step Token) :
    stops t (steps ++ [step]) = stops t steps + if step.stops t then 1 else 0 := by
  simp [stops, List.countP_append, List.countP_cons]

theorem stops_eq_zero {t : Token} {steps : List (Step Token)} :
    stops t steps = 0 ↔ ∀ c, .stopped c t ∉ steps := by
  rw [stops, List.countP_eq_zero]
  constructor
  · intro h c hc
    exact h _ hc (by simp [Step.stops])
  · intro h step hs ht
    cases step with
    | stopped c u =>
      obtain rfl : u = t := by simpa [Step.stops] using ht
      exact h c hs
    | _ => cases ht

/-! ## Tokens -/

/-- The tokens of a stage: the process comes first, and every instance has a child of its token that
is younger than those before it. -/
structure Stage.Sound (s : Stage) : Prop where
  root : s.process.ancestors = []
  process_lt : s.process.number < s.cancellation.next
  fired_lt : ∀ n ∈ s.cancellation.fired, n < s.cancellation.next
  descends : ∀ x ∈ s.instances, x.2.ancestors = s.process.path ∧
    s.process.number < x.2.number ∧ x.2.number < s.cancellation.next
  ascending : s.instances.Pairwise fun x y => x.2.number < y.2.number

namespace Stage.Sound

variable {s s' : Stage}

/-- No two instances have one token. -/
theorem unique (h : s.Sound) {x y : String × Token} (hx : x ∈ s.instances) (hy : y ∈ s.instances)
    (hxy : x.2.number = y.2.number) : x = y := by
  have hn : (s.instances.map (·.2.number)).Nodup :=
    List.pairwise_map.mpr (h.ascending.imp fun hlt => Nat.ne_of_lt hlt)
  exact List.inj_on_of_nodup_map hn hx hy hxy

/-- An instance is cancelled when its own token has fired or the process is. -/
theorem isCancelled_eq (h : s.Sound) {x : String × Token} (hx : x ∈ s.instances)
    (k : Cancellation) :
    k.isCancelled x.2 = (k.fired.contains x.2.number || k.isCancelled s.process) := by
  rw [Cancellation.isCancelled, Token.path, (h.descends x hx).1, List.any_cons]
  rfl

theorem alike (h : s.Sound) (ha : s.Alike s') : s'.Sound where
  root := by rw [ha.process, h.root]
  process_lt := by rw [ha.process, ha.next]; exact h.process_lt
  fired_lt n hn := by
    rw [ha.next]
    rcases ha.only n hn with hn | rfl
    · exact h.fired_lt n hn
    · exact h.process_lt
  descends := by rw [ha.process, ha.next, ha.instances]; exact h.descends
  ascending := by rw [ha.instances]; exact h.ascending

theorem fire (h : s.Sound) {t : Token} (ht : t.number < s.cancellation.next) :
    (s.fire t).Sound where
  root := h.root
  process_lt := h.process_lt
  fired_lt n hn := by
    rcases (s.mem_fired_fire t n).mp hn with rfl | hn
    · exact ht
    · exact h.fired_lt n hn
  descends := h.descends
  ascending := h.ascending

theorem build (h : s.Sound) (c : String) (a : Instance.Attempt) : (s.build c a).2.Sound where
  root := h.root
  process_lt := Nat.lt_succ_of_lt h.process_lt
  fired_lt n hn := Nat.lt_succ_of_lt (h.fired_lt n hn)
  descends x hx := by
    obtain ⟨hp, hlt, hn⟩ := h.descends x hx
    exact ⟨hp, hlt, Nat.lt_succ_of_lt hn⟩
  ascending := h.ascending

theorem launch (h : s.Sound) (c : String) (a : Instance.Attempt) :
    Sound { (s.build c a).2 with instances := s.instances ++ [(c, (s.build c a).1)] } where
  root := h.root
  process_lt := Nat.lt_succ_of_lt h.process_lt
  fired_lt n hn := Nat.lt_succ_of_lt (h.fired_lt n hn)
  descends x hx := by
    rcases List.mem_append.mp hx with hx | hx
    · exact (h.build c a).descends x hx
    · obtain rfl := List.mem_singleton.mp hx
      exact ⟨rfl, h.process_lt, Nat.lt_succ_self _⟩
  ascending := by
    refine List.pairwise_append.mpr ⟨h.ascending, List.pairwise_singleton _ _, ?_⟩
    intro x hx y hy
    obtain rfl := List.mem_singleton.mp hy
    exact (h.descends x hx).2.2

end Stage.Sound

/-! ## The chronicle -/

/-- How a stage and the instances of a roster follow from the steps taken so far. -/
structure Chronicle (s : Stage) (m : ExtTreeMap String Token) (steps : List (Step Token)) :
    Prop where
  sound : s.Sound
  /-- The factory's instances are those that the steps bring. -/
  made : s.instances = steps.filterMap Step.made?
  managed : ∀ c t, m[c]? = some t → (c, t) ∈ s.instances
  stopped : ∀ c t, .stopped c t ∈ steps → (c, t) ∈ s.instances
  /-- An instance was stopped once unless it is still there. -/
  stops : ∀ x ∈ s.instances, stops x.2 steps = if m[x.1]? = some x.2 then 0 else 1
  /-- Its own token has fired unless it is still there. -/
  fired : ∀ x ∈ s.instances, x.2.number ∈ s.cancellation.fired ↔ m[x.1]? ≠ some x.2
  replayed : m = replay steps
  /-- An instance comes only where there was none. -/
  fresh : ∀ l c t, l ++ [.launched c t] <+: steps → c ∉ replay l
  life : ∀ c, Alternating (steps.filterMap (Step.event? c)) m[c]?

namespace Chronicle

variable {s s' : Stage} {m : ExtTreeMap String Token} {steps : List (Step Token)}

theorem start : Chronicle Stage.fresh ∅ [] where
  sound := by
    refine ⟨rfl, Nat.one_pos, ?_, ?_, List.Pairwise.nil⟩
    · intro n hn
      exact absurd hn Std.ExtTreeSet.not_mem_empty
    · intro x hx
      cases hx
  made := rfl
  managed c t h := by simp at h
  stopped c t h := by cases h
  stops x hx := by cases hx
  fired x hx := by cases hx
  replayed := rfl
  fresh l c t h := by simp at h
  life c := by simpa using Alternating.nil

theorem alike (h : Chronicle s m steps) (ha : s.Alike s') : Chronicle s' m steps where
  sound := h.sound.alike ha
  made := by rw [ha.instances]; exact h.made
  managed := by rw [ha.instances]; exact h.managed
  stopped := by rw [ha.instances]; exact h.stopped
  stops := by rw [ha.instances]; exact h.stops
  fired := by
    rw [ha.instances]
    intro x hx
    rw [← h.fired x hx]
    constructor
    · intro hn
      rcases ha.only _ hn with hn | hn
      · exact hn
      · exact absurd hn (Nat.ne_of_gt (h.sound.descends x hx).2.1)
    · exact ha.kept _
  replayed := h.replayed
  fresh := h.fresh
  life := h.life

/-- What was stopped by some steps and one more was an instance, if that step stops only one. -/
theorem stopped_concat (h : Chronicle s m steps) {step : Step Token}
    (hstep : ∀ c t, step = .stopped c t → (c, t) ∈ s.instances) (c : String) (t : Token)
    (hc : .stopped c t ∈ steps ++ [step]) : (c, t) ∈ s.instances := by
  rcases List.mem_append.mp hc with hc | hc
  · exact h.stopped c t hc
  · exact hstep c t (List.mem_singleton.mp hc).symm

/-- After one more step an instance still comes only where there was none, if that step does so. -/
theorem fresh_concat (h : Chronicle s m steps) {step : Step Token}
    (hstep : ∀ c t, step = .launched c t → c ∉ m) (l : List (Step Token)) (c : String) (t : Token)
    (hp : l ++ [.launched c t] <+: steps ++ [step]) : c ∉ replay l := by
  rcases List.prefix_concat_iff.mp hp with he | hp
  · obtain ⟨rfl, hlast⟩ := List.append_inj' he rfl
    rw [← h.replayed]
    exact hstep c t (List.cons.inj hlast).1.symm
  · exact h.fresh l c t hp

/-- A step that neither brings nor stops an instance. -/
theorem quiet (h : Chronicle s m steps) {step : Step Token} (hl : ∀ c t, step ≠ .launched c t)
    (hs : ∀ c t, step ≠ .stopped c t) : Chronicle s m (steps ++ [step]) := by
  have hr : step.replay m = m ∧ step.made? = none ∧ (∀ t, step.stops t = false) ∧
      ∀ c, step.event? c = none := by
    cases step with
    | launched c t => exact absurd rfl (hl c t)
    | stopped c t => exact absurd rfl (hs c t)
    | _ => exact ⟨rfl, rfl, fun _ => rfl, fun _ => rfl⟩
  obtain ⟨hreplay, hmade, hstops, hevent⟩ := hr
  exact {
    sound := h.sound
    made := by simp [hmade, h.made]
    managed := h.managed
    stopped := h.stopped_concat fun c t he => absurd he (hs c t)
    stops := by
      intro x hx
      rw [stops_concat, hstops, h.stops x hx]
      rfl
    fired := h.fired
    replayed := by rw [replay_concat, ← h.replayed, hreplay]
    fresh := h.fresh_concat fun c t he => absurd he (hl c t)
    life := by
      intro c
      simpa [List.filterMap_append, List.filterMap_cons, hevent] using h.life c }

/-- A creation that fails. -/
theorem lost (h : Chronicle s m steps) (c : String) (a : Instance.Attempt) :
    Chronicle ((s.build c a).2.fire (s.build c a).1) m steps where
  sound := (h.sound.build c a).fire (Nat.lt_succ_self _)
  made := h.made
  managed := h.managed
  stopped := h.stopped
  stops := h.stops
  fired x hx := by
    rw [← h.fired x hx, Stage.mem_fired_fire]
    constructor
    · rintro (hn | hn)
      · exact absurd hn (Nat.ne_of_lt (h.sound.descends x hx).2.2)
      · exact hn
    · exact Or.inr
  replayed := h.replayed
  fresh := h.fresh
  life := h.life

/-- An instance that comes. -/
theorem launch (h : Chronicle s m steps) {c : String} (hc : c ∉ m) (a : Instance.Attempt) :
    Chronicle { (s.build c a).2 with instances := s.instances ++ [(c, (s.build c a).1)] }
      (m.insert c (s.build c a).1) (steps ++ [.launched c (s.build c a).1]) := by
  set t := (s.build c a).1 with ht
  have hnum : t.number = s.cancellation.next := rfl
  have hm : m[c]? = none := ExtTreeMap.getElem?_eq_none hc
  have hold (x : String × Token) (hx : x ∈ s.instances) : x.2 ≠ t := by
    intro he
    have hlt := (h.sound.descends x hx).2.2
    rw [he, hnum] at hlt
    exact Nat.lt_irrefl _ hlt
  have hmem (x : String × Token) : x ∈ s.instances ++ [(c, t)] ↔ x ∈ s.instances ∨ x = (c, t) := by
    rw [List.mem_append, List.mem_singleton]
  -- what the roster said of an older instance it says still
  have hsame (x : String × Token) (hx : x ∈ s.instances) :
      (m.insert c t)[x.1]? = some x.2 ↔ m[x.1]? = some x.2 := by
    rw [lookup_insert]
    split
    · next he =>
      rw [← he, hm, Option.some.injEq]
      exact ⟨fun e => absurd e.symm (hold x hx), nofun⟩
    · exact Iff.rfl
  have hnew : (m.insert c t)[c]? = some t := ExtTreeMap.getElem?_insert_self
  have hnever : Fleet.stops t steps = 0 :=
    stops_eq_zero.mpr fun k hk => hold _ (h.stopped k t hk) rfl
  exact {
    sound := h.sound.launch c a
    made := by simp [Step.made?, ← h.made]
    managed := by
      intro k u hk
      rw [hmem]
      rw [lookup_insert] at hk
      split at hk
      · next he =>
        cases hk
        exact Or.inr (by rw [he])
      · exact Or.inl (h.managed k u hk)
    stopped := by
      intro k u hk
      refine (hmem _).mpr (Or.inl (h.stopped_concat ?_ k u hk))
      rintro _ _ he
      cases he
    stops := by
      intro x hx
      rw [stops_concat]
      rcases (hmem x).mp hx with hx | rfl
      · simp only [hsame x hx]
        exact h.stops x hx
      · rw [hnever, if_pos hnew]
        rfl
    fired := by
      intro x hx
      rcases (hmem x).mp hx with hx | rfl
      · rw [ne_eq, hsame x hx]
        exact h.fired x hx
      · rw [ne_eq, hnew]
        constructor
        · intro hf
          exact absurd (h.sound.fired_lt _ hf) (Nat.lt_irrefl _)
        · intro hf
          exact absurd rfl hf
    replayed := by
      rw [replay_concat, ← h.replayed]
      rfl
    fresh := by
      refine h.fresh_concat ?_
      rintro k u he
      cases he
      exact hc
    life := by
      intro k
      have hl := h.life k
      rw [List.filterMap_append]
      by_cases hk : c = k
      · subst hk
        rw [hm] at hl
        rw [hnew]
        simpa [List.filterMap_cons, Step.event?] using hl.created
      · rw [lookup_insert, if_neg hk]
        simpa [List.filterMap_cons, Step.event?, hk] using hl }

/-- An instance that is stopped. -/
theorem stop (h : Chronicle s m steps) {c : String} {t : Token} (hc : m[c]? = some t) :
    Chronicle (s.fire t) (m.erase c) (steps ++ [.stopped c t]) := by
  have ht : (c, t) ∈ s.instances := h.managed c t hc
  have hother {x : String × Token} (hx : x ∈ s.instances) (hne : x ≠ (c, t)) :
      t.number ≠ x.2.number := fun he => hne (h.sound.unique hx ht he.symm)
  have hself : (m.erase c)[c]? = none := ExtTreeMap.getElem?_erase_self
  -- what the roster said of another instance it says still
  have hsame {x : String × Token} (hx : x ∈ s.instances) (hne : x ≠ (c, t)) :
      (m.erase c)[x.1]? = some x.2 ↔ m[x.1]? = some x.2 := by
    rw [lookup_erase]
    split
    · next he =>
      rw [← he, hc, Option.some.injEq]
      exact ⟨nofun, fun e => absurd (congrArg Token.number e) (hother hx hne)⟩
    · exact Iff.rfl
  exact {
    sound := h.sound.fire (h.sound.descends _ ht).2.2
    made := by simp [Step.made?, ← h.made, Stage.fire]
    managed := by
      intro k u hk
      rw [lookup_erase] at hk
      split at hk
      · cases hk
      · exact h.managed k u hk
    stopped := by
      refine h.stopped_concat ?_
      rintro k u he
      cases he
      exact ht
    stops := by
      intro x hx
      rw [stops_concat, h.stops x hx]
      by_cases hxt : x = (c, t)
      · subst hxt
        simp [Step.stops, hc]
      · have hne : t ≠ x.2 := fun he => hother hx hxt (congrArg Token.number he)
        simp only [hsame hx hxt, Step.stops, hne, decide_false, Bool.false_eq_true, if_false,
          Nat.add_zero]
    fired := by
      intro x hx
      rw [s.mem_fired_fire]
      by_cases hxt : x = (c, t)
      · subst hxt
        simp
      · rw [ne_eq, hsame hx hxt, ← ne_eq, ← h.fired x hx]
        constructor
        · rintro (hn | hn)
          · exact absurd hn.symm (hother hx hxt)
          · exact hn
        · exact Or.inr
    replayed := by
      rw [replay_concat, ← h.replayed]
      rfl
    fresh := h.fresh_concat nofun
    life := by
      intro k
      have hl := h.life k
      rw [List.filterMap_append]
      by_cases hk : c = k
      · subst hk
        rw [hc] at hl
        rw [hself]
        simpa [List.filterMap_cons, Step.event?] using hl.cancelled
      · rw [lookup_erase, if_neg hk]
        simpa [List.filterMap_cons, Step.event?, hk] using hl }

/-- Every move of a cycle keeps the chronicle. -/
theorem move {o : Occasion} {listed : Std.ExtTreeSet String} {p q : Progress Stage Token}
    (hm : Move o.surroundings listed p q) {past : List (Step Token)}
    (h : Chronicle p.scene p.roster.instances (past ++ p.steps)) :
    Chronicle q.scene q.roster.instances (past ++ q.steps) := by
  -- noting a step that neither brings nor stops an instance changes nothing
  have note {s : Stage} {m : ExtTreeMap String Token} {steps : List (Step Token)}
      (h : Chronicle s m (past ++ steps)) {step : Step Token} (hl : ∀ c t, step ≠ .launched c t)
      (hs : ∀ c t, step ≠ .stopped c t) :
      Chronicle (o.surroundings.note step s) m (past ++ (steps ++ [step])) := by
    rw [← List.append_assoc]
    exact (h.quiet hl hs).alike (s.alike_note o hs)
  have asked (c : String) : Chronicle (o.surroundings.note (.asked c) p.scene) p.roster.instances
      (past ++ (p.steps ++ [.asked c])) := note h nofun nofun
  cases hm with
  | listingFailed fault => exact note h nofun nofun
  | discovered => exact note h nofun nofun
  | completed => exact note h nofun nofun
  | forgotten isFailed isGone => exact note h nofun nofun
  | launched isListed isMissing answer =>
    rename_i c t s
    obtain ⟨rfl, rfl⟩ := Stage.create_ok answer
    have hlaunched := (asked c).launch isMissing (o.attempt c)
    rw [List.append_assoc] at hlaunched
    exact hlaunched.alike (Stage.alike_note o _ nofun)
  | launchFailed isListed isMissing isReal answer =>
    rename_i c f s
    obtain ⟨-, rfl⟩ := Stage.create_error answer
    exact note ((asked c).lost c (o.attempt c)) nofun nofun
  | abandoned isListed isMissing isCut answer =>
    rename_i c f s
    obtain ⟨-, rfl⟩ := Stage.create_error answer
    exact note ((asked c).lost c (o.attempt c)) nofun nofun
  | stopped isManaged isGone =>
    have hstopped := h.stop isManaged
    rw [List.append_assoc] at hstopped
    exact hstopped.alike (Stage.alike_note_stopped o _ _ _)

end Chronicle

/-- Every turn keeps the chronicle. -/
theorem Chronicle.turn {c : Course} (h : Chronicle c.stage c.roster.instances c.steps) (t : Turn) :
    Chronicle (c.turn t).stage (c.turn t).roster.instances (c.turn t).steps := by
  cases t with
  | aside a => exact h.alike (c.stage.alike_aside a)
  | cycle o =>
    show Chronicle (c.cycle o).stage (c.cycle o).roster.instances (c.cycle o).steps
    rw [Course.steps_cycle]
    refine cycle_keeps (P := fun p => Chronicle p.scene p.roster.instances (c.steps ++ p.steps))
      (fun _ _ _ hm hp => hp.move hm) o.first o.listing c.stage c.roster ?_
    rwa [List.append_nil]

/-- Every course keeps to its chronicle. -/
theorem Course.chronicle (turns : List Turn) :
    Chronicle (run turns).stage (run turns).roster.instances (run turns).steps :=
  run_keeps (P := fun c => Chronicle c.stage c.roster.instances c.steps) Chronicle.start
    (fun _ t h => h.turn t) turns

end Flotilla.Fleet
