import Mathlib.Data.List.Chain
import Flotilla.Fleet.Controller
import Flotilla.Proofs.Fleet.Clock
import Flotilla.Proofs.Fleet.Tree

/-!
# The loop on its clock

A `Stretch` is a cycle with the scenes at its beginning and at its end, and `Scene.stretches` are
the cycles of a loop.  `Scene.Played` tells how they follow one another.  It is kept when one more
cycle is put in front (`Scene.Played.cons`), so it holds of every loop (`Scene.played`).

* `Scene.run_fired`: a loop whose token is known to fire is made to its end.
* `loop_in_order`: when the cycles of a run are made, and that the containers are removed when the
  loop is over, once and after everything else.
* `conduct_sceneFor`: the controller whose token fires after so many cycles is run to its end.
-/

namespace Flotilla

open Time (Moment)

namespace Fleet

/-! ## The cycles of the loop -/

/-- A cycle of the loop: the scene at its beginning and at its end. -/
structure Stretch where
  before : Scene
  after : Scene

namespace Stretch

/-- When the cycle begins. -/
def begun (x : Stretch) : Moment := x.before.now

/-- When it ends. -/
def ended (x : Stretch) : Moment := x.after.now

/-- What it asks of the outside. -/
def asked (x : Stretch) : List (Moment × Request) :=
  x.after.requests.drop x.before.requests.length

end Stretch

namespace Scene

/-- The cycles of the loop, at most `fuel` of them. -/
def stretches (interval : Nat) : (fuel : Nat) → Scene → Roster Handle → List Stretch
  | 0, _, _ => []
  | fuel + 1, s, roster =>
    if s.fired || s.hung then []
    else
      let p := s.round roster
      ⟨s, p.scene⟩ :: stretches interval fuel (p.scene.rest interval) p.roster

/-- How the cycles of a loop that goes from one scene to another follow one another. -/
structure Played (interval fuel : Nat) (s s' : Scene) (l : List Stretch) : Prop where
  forward : s.Forward s'
  /-- The first cycle is made at once. -/
  first : ∀ x, l.head? = some x → x.before = s
  none : l = [] → s' = s
  each : ∀ x ∈ l, (x.before.fired = false ∧ x.before.hung = false) ∧
    x.before.Rounded x.after ∧ x.after.Forward s'
  spaced : l.IsChain fun x y =>
    y.before = x.after.rest interval ∧ y.before.fired = false ∧ y.before.hung = false
  last : ∀ x, l.getLast? = some x → s' = x.after.rest interval
  count : l.length ≤ fuel
  /-- Only the token ends the loop, if it does not hang. -/
  ending : s'.fired = true ∨ s'.hung = true ∨ l.length = fuel
  /-- As long as it goes on each cycle takes an interval at least. -/
  elapsed : s'.fired = false → s'.hung = false → s.now + l.length * interval ≤ s'.now
  requests : s'.requests = s.requests ++ l.flatMap Stretch.asked
  counted : ∀ x, l.getLast? = some x → x.after.listed = s.listed + l.length

variable {s s' s'' : Scene}

theorem Rounded.requests_append_drop (h : s.Rounded s') :
    s'.requests = s.requests ++ s'.requests.drop s.requests.length := by
  obtain ⟨l, hl, -⟩ := h.asked
  rw [hl, List.drop_left]

/-- A loop without a cycle leaves everything as it is. -/
theorem Played.idle {interval fuel : Nat} (hover : s.fired = true ∨ s.hung = true ∨ 0 = fuel) :
    Played interval fuel s s [] where
  forward := .refl s
  first _ hx := by cases hx
  none _ := rfl
  each _ hx := by cases hx
  spaced := .nil
  last _ hx := by cases hx
  count := Nat.zero_le fuel
  ending := hover
  elapsed _ _ := by
    rw [List.length_nil, Nat.zero_mul, Nat.add_zero]
  requests := (List.append_nil _).symm
  counted _ hx := by cases hx

/-- A loop goes on after a cycle, whatever that has come to. -/
theorem Played.cons {interval fuel : Nat} {l : List Stretch} (hf : s.fired = false)
    (hs : s.hung = false) (hr : s.Rounded s') (h : Played interval fuel (s'.rest interval) s'' l) :
    Played interval (fuel + 1) s s'' (⟨s, s'⟩ :: l) where
  forward := (hr.toForward.trans (forward_rest interval s')).trans h.forward
  first x hx := by
    cases hx
    rfl
  none hl := nomatch hl
  each x hx := by
    rcases List.mem_cons.mp hx with rfl | hx
    · exact ⟨⟨hf, hs⟩, hr, (forward_rest interval s').trans h.forward⟩
    · exact h.each x hx
  spaced := List.isChain_cons.mpr
    ⟨fun y hy => ⟨h.first y hy, (h.each y (List.mem_of_mem_head? hy)).1⟩, h.spaced⟩
  last x hx := by
    cases l with
    | nil =>
      cases hx
      exact h.none rfl
    | cons y l =>
      rw [List.getLast?_cons_cons] at hx
      exact h.last x hx
  count := Nat.succ_le_succ h.count
  ending := h.ending.imp_right (Or.imp_right (congrArg (· + 1)))
  elapsed hunfired hunhung := by
    have hrest : (s'.rest interval).fired = false := h.forward.unfired_before hunfired
    have hs' : s'.hung = false :=
      (rest_same interval s').1.symm.trans (h.forward.unhung_before hunhung)
    have hle := h.elapsed hunfired hunhung
    rw [now_rest_unfired hs' hrest] at hle
    rw [List.length_cons, Nat.succ_mul, Nat.add_comm (l.length * interval), ← Nat.add_assoc]
    exact Nat.le_trans (Nat.add_le_add_right (Nat.add_le_add_right hr.le _) _) hle
  requests := by
    rw [h.requests, (rest_same interval s').2.2.1, hr.requests_append_drop, List.append_assoc]
    rfl
  counted x hx := by
    cases l with
    | nil =>
      cases hx
      exact hr.listed
    | cons y l =>
      rw [List.getLast?_cons_cons] at hx
      rw [h.counted x hx, (rest_same interval s').2.2.2, hr.listed, Nat.add_assoc, Nat.add_comm 1]
      rfl

namespace Played

variable {interval fuel : Nat} {l : List Stretch} (h : Played interval fuel s s' l)

include h

/-- There is no cycle only if the loop is over before the first. -/
theorem nil_iff : l = [] ↔ s.fired = true ∨ s.hung = true ∨ fuel = 0 := by
  constructor
  · intro hnil
    rcases h.ending with hover | hover | hcount
    · exact Or.inl (h.none hnil ▸ hover)
    · exact Or.inr (Or.inl (h.none hnil ▸ hover))
    · rw [hnil] at hcount
      exact Or.inr (Or.inr hcount.symm)
  · intro hover
    cases l with
    | nil => rfl
    | cons x l =>
      obtain ⟨hunfired, hunhung⟩ := (h.each x List.mem_cons_self).1
      rw [h.first x rfl] at hunfired hunhung
      rcases hover with hs | hs | rfl
      · exact Bool.noConfusion (hunfired.symm.trans hs)
      · exact Bool.noConfusion (hunhung.symm.trans hs)
      · cases h.count

/-- The loop is over when the token fires in the wait after the last cycle, or at the end of that
cycle if it has fired by then. -/
theorem over_at (hfired : s'.fired = true) (hunhung : s'.hung = false) :
    ∃ t, s'.firesAt = some t ∧
      match l.getLast? with
      | .none => s'.now = s.now
      | some x => t ≤ x.ended + interval ∧ s'.now = max x.ended t := by
  obtain ⟨t, ht, hle⟩ := fired_iff.mp hfired
  refine ⟨t, ht, ?_⟩
  split
  · next hlast => rw [h.none (List.getLast?_eq_none_iff.mp hlast)]
  · next x hlast =>
    obtain ⟨hhung, hfires, -⟩ := rest_same interval x.after
    rw [h.last x hlast] at ht hfired hunhung ⊢
    rw [hhung] at hunhung
    obtain ⟨u, hu, hrest⟩ := (fired_rest hunhung interval).mp hfired
    cases hu.symm.trans (hfires.symm.trans ht)
    exact ⟨hrest, now_rest_fired hunhung hu hrest⟩

/-- As long as the token has not fired the loop waits for a whole interval after a cycle. -/
theorem due_at (hunfired : s'.fired = false) (hunhung : s'.hung = false) {x : Stretch}
    (hlast : l.getLast? = some x) : s'.now = x.ended + interval := by
  rw [h.last x hlast] at hunfired hunhung ⊢
  rw [(rest_same interval x.after).1] at hunhung
  exact now_rest_unfired hunhung hunfired

end Played

theorem played (interval fuel : Nat) (s : Scene) (roster : Roster Handle) :
    Played interval fuel s (s.cycles interval fuel roster).1
      (s.stretches interval fuel roster) := by
  induction fuel generalizing s roster with
  | zero => exact .idle (Or.inr (Or.inr rfl))
  | succ fuel ih =>
    cases hf : s.fired || s.hung with
    | true =>
      simp only [cycles, stretches, hf, if_true]
      exact .idle ((Bool.or_eq_true_iff.mp hf).imp_right Or.inl)
    | false =>
      simp only [cycles, stretches, hf, Bool.false_eq_true, if_false]
      obtain ⟨hunfired, hunhung⟩ := Bool.or_eq_false_iff.mp hf
      exact (ih _ _).cons hunfired hunhung (s.rounded roster)

/-- A loop whose token has fired stays as it is with any number of cycles more. -/
theorem cycles_add {interval fuel : Nat} {roster : Roster Handle}
    (h : (s.cycles interval fuel roster).1.fired = true) (more : Nat) :
    s.cycles interval (fuel + more) roster = s.cycles interval fuel roster := by
  induction fuel generalizing s roster with
  | zero =>
    cases more with
    | zero => rfl
    | succ more =>
      rw [Nat.zero_add]
      exact if_pos (Bool.or_eq_true_iff.mpr (Or.inl h))
  | succ fuel ih =>
    rw [Nat.add_right_comm]
    cases hf : s.fired || s.hung with
    | true => simp only [cycles, hf, if_true]
    | false =>
      simp only [cycles, hf, Bool.false_eq_true, if_false] at h ⊢
      exact ih h

/-- Two scenes in which the clock, the token and the requests are the same. -/
structure SameClock (s s' : Scene) : Prop where
  now : s'.now = s.now
  firesAt : s'.firesAt = s.firesAt
  hung : s'.hung = s.hung
  requests : s'.requests = s.requests
  listed : s'.listed = s.listed
  firesAfter : s'.firesAfter = s.firesAfter
  making : s'.making = s.making

theorem SameClock.fired (h : s.SameClock s') : s'.fired = s.fired := by
  rw [Scene.fired, h.now, h.firesAt, Scene.fired]

theorem sameClock_say (s : Scene) (lines : List LogLine) : s.SameClock (s.say lines) := by
  unfold say
  split <;> exact ⟨rfl, rfl, rfl, rfl, rfl, rfl, rfl⟩

theorem runFor_add {interval fuel : Nat} (h : (s.runFor interval fuel).1.fired = true)
    (more : Nat) : s.runFor interval (fuel + more) = s.runFor interval fuel := by
  have hcycles : ((s.say [startLine interval]).cycles interval fuel {}).1.fired = true := by
    rw [← h]
    exact (sameClock_say _ _).fired.symm
  rw [runFor, cycles_add hcycles]
  rfl

/-- The cycles of the loop from its first line on. -/
def madeCycles (s : Scene) (interval fuel : Nat) : List Stretch :=
  (s.say [startLine interval]).stretches interval fuel {}

/-- The loop from its first line to its last. -/
theorem played_runFor (s : Scene) (interval fuel : Nat) : ∃ start stop : Scene,
    Played interval fuel start stop (s.madeCycles interval fuel) ∧ s.SameClock start ∧
      stop.SameClock (s.runFor interval fuel).1 :=
  ⟨_, _, played interval fuel (s.say [startLine interval]) {}, sameClock_say _ _,
    sameClock_say _ _⟩

/-- With a pause between the cycles the loop is over in so many of them, or it hangs. -/
theorem runFor_fired {interval fuel : Nat} {t : Moment} (hpause : 0 < interval)
    (ht : s.firesAt = some t) (henough : (t - s.now) / interval < fuel)
    (hunhung : (s.runFor interval fuel).1.hung = false) :
    (s.runFor interval fuel).1.fired = true := by
  obtain ⟨start, stop, h, hstart, hstop⟩ := s.played_runFor interval fuel
  by_contra hunfired
  rw [hstop.fired, Bool.not_eq_true] at hunfired
  rw [hstop.hung] at hunhung
  obtain ⟨t', ht', hle⟩ := h.forward.fires_le (hstart.firesAt.trans ht)
  have hlate : stop.now < t' := by
    refine Nat.lt_of_not_le fun hle' => ?_
    exact Bool.noConfusion (hunfired.symm.trans (fired_iff.mpr ⟨t', ht', hle'⟩))
  -- so many cycles and pauses take more time than there is
  have hcount : (s.madeCycles interval fuel).length = fuel :=
    (h.ending.resolve_left (Bool.eq_false_iff.mp hunfired)).resolve_left
      (Bool.eq_false_iff.mp hunhung)
  have helapsed := h.elapsed hunfired hunhung
  rw [hcount, hstart.now] at helapsed
  have hsum : s.now + fuel * interval ≤ t :=
    Nat.le_trans helapsed (Nat.le_trans (Nat.le_of_lt hlate) hle)
  exact Nat.not_le_of_lt henough
    ((Nat.le_div_iff_mul_le hpause).mpr (Nat.le_sub_of_add_le' hsum))

/-- Where every creation comes to an end no loop hangs. -/
theorem runFor_unhung {interval fuel : Nat} (hends : s.making.Ends) (hs : s.hung = false) :
    (s.runFor interval fuel).1.hung = false := by
  obtain ⟨start, stop, h, hstart, hstop⟩ := s.played_runFor interval fuel
  rw [hstop.hung]
  exact h.forward.unhung (hstart.making ▸ hends) (hstart.hung.trans hs)

/-- The loop whose token is known to fire is made to its end, where every creation comes to one. -/
theorem run_fired {interval : Nat} {t : Moment} (hpause : 0 < interval)
    (ht : s.firesAt = some t) (hends : s.making.Ends) (hs : s.hung = false) :
    (s.run interval).1.fired = true := by
  refine runFor_fired hpause ht ?_ (runFor_unhung hends hs)
  rw [ht, Nat.max_eq_left hpause]
  exact Nat.lt_add_of_pos_right (by decide)

/-- A token that fires after so many cycles ends a loop of so many. -/
theorem runFor_fired_of_firesAfter {interval : Nat} {n : Nat} (hpos : 0 < n)
    (hafter : s.firesAfter = some (s.listed + n))
    (hunhung : (s.runFor interval n).1.hung = false) : (s.runFor interval n).1.fired = true := by
  obtain ⟨start, stop, h, hstart, hstop⟩ := s.played_runFor interval n
  rw [hstop.fired]
  rw [hstop.hung] at hunhung
  refine h.ending.elim id fun hrest => ?_
  have hcount := hrest.resolve_left (Bool.eq_false_iff.mp hunhung)
  have hsome : (s.madeCycles interval n).getLast?.isSome :=
    List.getLast?_isSome.mpr (List.ne_nil_of_length_pos (hcount.symm ▸ hpos))
  obtain ⟨x, hx⟩ := Option.isSome_iff_exists.mp hsome
  obtain ⟨-, hround, hlater⟩ := h.each x (List.mem_of_getLast? hx)
  refine hlater.fired (hround.enough (hlater.unhung_before hunhung) ?_)
  rw [h.counted x hx, hcount, hstart.listed, ← hafter, ← hstart.firesAfter, ← hlater.firesAfter,
    h.forward.firesAfter]

end Scene

end Fleet

/-! ## The removal of the containers -/

namespace Tools

/-- The containers with a label that an engine finds. -/
def Engine.found {S : Type} (e : Engine S) (label : String) (state : S) : List String :=
  match (e.list label state).1 with
  | .ok ids => ids
  | .error _ => []

namespace Sweep

variable {S : Type} (engine : Engine S)

theorem removeAll_recorded (ids : List String) (sweep : Sweep) (state : S)
    (calls : List EngineCall) :
    removeAll engine.recorded ids sweep (state, calls) =
      ((removeAll engine ids sweep state).1, (removeAll engine ids sweep state).2,
        calls ++ ids.map .remove) := by
  induction ids generalizing sweep state calls with
  | nil => simp [removeAll]
  | cons id rest ih =>
    have hremove : engine.recorded.remove id (state, calls) =
        ((engine.remove id state).1, (engine.remove id state).2, calls ++ [.remove id]) := rfl
    simp only [removeAll, hremove, ih, List.map_cons, List.append_assoc, List.singleton_append]

/-- A sweep lists the containers once, and removes each that is listed. -/
theorem run_recorded (label : String) (state : S) :
    run engine.recorded label (state, []) =
      ((run engine label state).1, (run engine label state).2,
        .list label :: (engine.found label state).map .remove) := by
  have hlist : engine.recorded.list label (state, []) =
      ((engine.list label state).1, (engine.list label state).2, [.list label]) := rfl
  unfold run Engine.found
  rw [hlist]
  obtain ⟨answer, rest⟩ := engine.list label state
  cases answer with
  | error e => rfl
  | ok ids =>
    cases ids with
    | nil => rfl
    | cons id ids =>
      simp only [List.isEmpty_cons, Bool.false_eq_true, if_false, removeAll_recorded,
        List.singleton_append]

end Sweep

end Tools

namespace Fleet

open Tools (Engine Sweep)

/-- What a run of the controller is when its loop is over. -/
structure ControllerRun.Swept {S : Type} (docker : Engine S) (state : S)
    (loop : Scene × Roster Handle) (run : ControllerRun) : Prop where
  scene : run.scene = loop.1
  roster : run.roster = loop.2
  /-- The instances that are still there are cancelled, and so are their tokens. -/
  cancelled : ∀ (k : String) (h : Handle), loop.2.instances[k]? = some h →
    Apiserver.Informers.endedBy loop.1.now (loop.1.tokenFired h.number) = true ∧
      (loop.1.tokensAt loop.1.now).isCancelled (Scene.tokenOf h.number) = true
  /-- The containers are removed once. -/
  sweep : run.sweep = (Sweep.run docker Tools.fleetLabel state).1
  /-- The container tool is called after everything else. -/
  requests : run.requests = loop.1.requests ++
    (loop.1.now, .containers (.list Tools.fleetLabel)) ::
      (docker.found Tools.fleetLabel state).map fun id => (loop.1.now, .containers (.remove id))

/-- How a run of the controller goes, with at most `fuel` cycles. -/
structure InOrder {S : Type} (docker : Engine S) (state : S) (interval fuel : Nat) (s : Scene) :
    Prop where
  /-- The first cycle is made at once, unless the token has fired. -/
  first : ∀ x, (s.madeCycles interval fuel).head? = some x → x.begun = s.now
  none : s.madeCycles interval fuel = [] ↔ s.fired = true ∨ s.hung = true ∨ fuel = 0
  /-- Each later one begins an interval after the end of the one before. -/
  spaced : (s.madeCycles interval fuel).IsChain fun x y => y.begun = x.ended + interval
  forward : ∀ x ∈ s.madeCycles interval fuel,
    x.begun ≤ x.ended ∧ x.ended ≤ (s.runFor interval fuel).1.now
  /-- No cycle begins when the token has fired. -/
  awake : ∀ x ∈ s.madeCycles interval fuel, x.before.fired = false ∧
    ∀ t, (s.runFor interval fuel).1.firesAt = some t → x.begun ≤ t
  /-- Nothing but the token ends the loop, whatever the cycles come to.  It hangs if a cycle does not
  come to anything. -/
  ending : (s.runFor interval fuel).1.fired = true ∨ (s.runFor interval fuel).1.hung = true ∨
    (s.madeCycles interval fuel).length = fuel
  /-- That is so only if a creation never ends. -/
  hangs : s.hung = false → (s.runFor interval fuel).1.hung = true → ¬ s.making.Ends
  /-- It is over when the token fires in a wait, or at the end of the cycle in which it fires. -/
  returns : (s.runFor interval fuel).1.isOver = true →
    ∃ t, (s.runFor interval fuel).1.firesAt = some t ∧
      match (s.madeCycles interval fuel).getLast? with
      | .none => (s.runFor interval fuel).1.now = s.now
      | some x => t ≤ x.ended + interval ∧ (s.runFor interval fuel).1.now = max x.ended t
  /-- As long as it has not fired the next cycle is due after an interval. -/
  due : (s.runFor interval fuel).1.fired = false → (s.runFor interval fuel).1.hung = false →
    ∀ x, (s.madeCycles interval fuel).getLast? = some x →
      (s.runFor interval fuel).1.now = x.ended + interval
  /-- With a pause between the cycles a token that fires ends the loop. -/
  ends : 0 < interval → ∀ t, s.firesAt = some t → (t - s.now) / interval < fuel →
    (s.runFor interval fuel).1.hung = false → (s.runFor interval fuel).1.isOver = true
  /-- A cycle lists the clusters when it begins, and then makes its creations. -/
  asks : ∀ x ∈ s.madeCycles interval fuel, ∃ l, x.asked = (x.begun, .list) :: l ∧
    ∀ r ∈ l, r.2.IsCreation ∧ x.begun ≤ r.1 ∧ r.1 ≤ x.ended
  requests : (s.runFor interval fuel).1.requests =
    s.requests ++ (s.madeCycles interval fuel).flatMap Stretch.asked
  /-- The token of an instance is a child of the one that ends the loop. -/
  tokens : (s.runFor interval fuel).1.Rooted
  /-- As long as the loop is not over no container is removed. -/
  waits : (s.runFor interval fuel).1.isOver = false →
    conduct docker state interval fuel s = Option.none
  /-- When it is over they are. -/
  sweeps : (s.runFor interval fuel).1.isOver = true →
    ∃ run : ControllerRun, run.Swept docker state (s.runFor interval fuel) ∧
      ∀ more, conduct docker state interval (fuel + more) s = some run

theorem swept {S : Type} (docker : Engine S) (state : S) {loop : Scene × Roster Handle}
    (h : loop.1.fired = true) :
    (ControllerRun.ofLoop docker state loop).Swept docker state loop where
  scene := rfl
  roster := rfl
  cancelled k handle _ := by
    refine ⟨?_, Scene.isCancelled_of_fired h handle.number⟩
    rw [Scene.tokenFired, Apiserver.Informers.endedBy_earlier, show Apiserver.Informers.endedBy _ _ =
      true from h, Bool.or_true]
  sweep := by
    rw [ControllerRun.ofLoop, Sweep.run_recorded]
  requests := by
    rw [ControllerRun.ofLoop, Sweep.run_recorded]
    simp only [List.map_cons, List.map_map]
    rfl

/-- The cycles of a run are made on the clock until the token fires, and the containers are removed
after that. -/
theorem loop_in_order {S : Type} (docker : Engine S) (state : S) (interval fuel : Nat)
    (s : Scene) : InOrder docker state interval fuel s := by
  obtain ⟨start, stop, h, hstart, hstop⟩ := s.played_runFor interval fuel
  exact {
    first := fun x hx => by
      rw [Stretch.begun, h.first x hx, hstart.now]
    none := by
      rw [h.nil_iff, hstart.fired, hstart.hung]
    spaced := h.spaced.imp fun x y ⟨hrest, hunfired, hunhung⟩ => by
      rw [hrest] at hunfired
      rw [hrest, (Scene.rest_same interval x.after).1] at hunhung
      rw [Stretch.begun, hrest, Scene.now_rest_unfired hunhung hunfired]
      rfl
    forward := fun x hx => by
      obtain ⟨-, hround, hlater⟩ := h.each x hx
      rw [hstop.now]
      exact ⟨hround.le, hlater.le⟩
    awake := fun x hx => by
      obtain ⟨⟨hunfired, -⟩, hround, hlater⟩ := h.each x hx
      refine ⟨hunfired, fun t ht => ?_⟩
      rw [hstop.firesAt] at ht
      exact (hround.toForward.trans hlater).le_fires hunfired ht
    ending := by
      rw [hstop.fired, hstop.hung]
      exact h.ending
    hangs := fun hs hhung hends => by
      rw [Scene.runFor_unhung hends hs] at hhung
      cases hhung
    returns := fun hover => by
      obtain ⟨hfired, hunhung⟩ := Scene.isOver_iff.mp hover
      rw [hstop.fired] at hfired
      rw [hstop.hung] at hunhung
      rw [hstop.firesAt, hstop.now, ← hstart.now]
      exact h.over_at hfired hunhung
    due := fun hunfired hunhung x hlast => by
      rw [hstop.fired] at hunfired
      rw [hstop.hung] at hunhung
      rw [hstop.now]
      exact h.due_at hunfired hunhung hlast
    ends := fun hpause t ht henough hunhung =>
      Scene.isOver_iff.mpr ⟨Scene.runFor_fired hpause ht henough hunhung, hunhung⟩
    asks := fun x hx => by
      obtain ⟨-, hround, -⟩ := h.each x hx
      obtain ⟨l, hl, hbounds⟩ := hround.asked
      exact ⟨l, by rw [Stretch.asked, hl, List.drop_left, Stretch.begun], hbounds⟩
    requests := by
      rw [hstop.requests, h.requests, hstart.requests]
    tokens := Scene.rooted _
    waits := fun hwaits => by
      rw [conduct, hwaits]
      rfl
    sweeps := fun hover => by
      have hfired := (Scene.isOver_iff.mp hover).1
      refine ⟨_, swept docker state hfired, fun more => ?_⟩
      rw [conduct, Scene.runFor_add hfired, if_pos hover] }

/-- Neither tools nor probes let a creation of the controller go on for ever. -/
theorem ends_sceneFor (config : Config) (around : Surrounding) (cycles : Nat) :
    (sceneFor config around cycles).making.Ends := by
  intro _ cluster start shutdown
  refine Instance.Factory.exists_create rfl ?_
  have hprobe : (around.factory config).policy.maxAttempts = some 5 := rfl
  exact Bootstrap.exists_searchFrom hprobe (by decide) (fun _ => Option.some_ne_none _)
    (fun _ _ _ => Option.some_ne_none _) _ _ _

/-- The controller whose token fires after so many cycles is run to its end. -/
theorem conduct_sceneFor (config : Config) (around : Surrounding) (cycles : Nat) :
    conduct (({ binary := config.dockerBinary } : Tools.Docker).engine around.machine) ()
        (config.reconcileInterval * Time.nanosPerSecond) cycles (sceneFor config around cycles) =
      some (runController config around cycles) := by
  refine if_pos ?_
  cases cycles with
  | zero => rfl
  | succ n =>
    have hends := ends_sceneFor config around (n + 1)
    have hunhung : ((sceneFor config around (n + 1)).runFor
        (config.reconcileInterval * Time.nanosPerSecond) (n + 1)).1.hung = false :=
      Scene.runFor_unhung hends rfl
    refine Scene.isOver_iff.mpr ⟨?_, hunhung⟩
    exact Scene.runFor_fired_of_firesAfter (Nat.succ_pos n)
      (congrArg some (Nat.zero_add (n + 1)).symm) hunhung

end Fleet

end Flotilla
