import Mathlib.Data.List.Induction
import Mathlib.Data.List.TakeWhile
import Flotilla.Proofs.Apiserver.Stores
import Flotilla.Proofs.Time.Order
import Flotilla.Time.Spacing

/-!
# The life of the informers

The informers of a cluster are started, their token fires, and either may happen any number of times
and in any order.  What the store of an informer holds then depends only on when the first of each
came, and on what the apiserver told of objects of its kind (`Informers.Kept`).

An apiserver tells of the objects it has at the start and then of the events on them (`Feed.told`).
Under a key there is what was told last with that key, unless that it is deleted (`Feed.current?`).
An informer that lists the objects first and then follows the events gets to see the same once its
list has come (`Feed.storeAt_running`).
-/

namespace Flotilla.Apiserver

open Time (Moment first first_append first_cons exists_first)

variable {α : Type} [Identified α]

/-! ## What is told of objects -/

/-- What an event leaves of its object. -/
def Event.left? (e : Event α) : Option α := if e.deleted then none else some e.object

/-- The last of some events with a key. -/
def lastWith (key : ObjectKey) (events : List (Event α)) : Option (Event α) :=
  (events.filter fun e => keyOf e.object = key).getLast?

theorem lastWith_concat (key : ObjectKey) (events : List (Event α)) (e : Event α) :
    lastWith key (events ++ [e]) =
      if keyOf e.object = key then some e else lastWith key events := by
  unfold lastWith
  rw [List.filter_append, List.filter_cons, List.filter_nil]
  split
  · next h => rw [if_pos (of_decide_eq_true h), List.getLast?_concat]
  · next h => rw [if_neg (of_decide_eq_false (Bool.eq_false_iff.mpr h)), List.append_nil]

theorem Objects.getElem?_apply (objects : Objects α) (e : Event α) (key : ObjectKey) :
    (objects.apply e)[key]? = if keyOf e.object = key then e.left? else objects[key]? := by
  unfold apply Event.left?
  split
  · exact lookup_erase objects _ key
  · exact lookup_insert objects _ key _

/-- The last event with a key decides what there is under it. -/
theorem Objects.getElem?_applyAll (objects : Objects α) (events : List (Event α))
    (key : ObjectKey) : (objects.applyAll events)[key]? =
      ((lastWith key events).map Event.left?).getD objects[key]? := by
  induction events using List.reverseRecOn with
  | nil => rfl
  | append_singleton events e ih =>
    rw [applyAll, List.foldl_append, List.foldl_cons, List.foldl_nil, getElem?_apply,
      lastWith_concat]
    split
    · rfl
    · exact ih

namespace Feed

variable (f : Feed α)

/-- Its events are in order of time. -/
def InOrder : Prop := f.events.Pairwise fun a b => a.moment ≤ b.moment

/-- What the apiserver has told by a moment: the objects it has at the start, as if each were added
then, and the events since. -/
def told (t : Moment) : List (Event α) :=
  f.base.map (fun a => { moment := 0, deleted := false, object := a }) ++
    f.events.filter fun e => e.moment ≤ t

/-- What was told last with a key, if it was not that it is deleted. -/
def current? (t : Moment) (key : ObjectKey) : Option α := (lastWith key (f.told t)).bind Event.left?

theorem objectsAt_eq (t : Moment) : f.objectsAt t = (∅ : Objects α).applyAll (f.told t) := by
  rw [objectsAt, told, Objects.applyAll, Objects.applyAll, List.foldl_append, List.foldl_map]
  rfl

theorem getElem?_objectsAt (t : Moment) (key : ObjectKey) :
    (f.objectsAt t)[key]? = f.current? t key := by
  rw [objectsAt_eq, Objects.getElem?_applyAll, current?]
  cases lastWith key (f.told t) with
  | none => exact Std.ExtTreeMap.getElem?_empty
  | some e => rfl

variable {f} in
/-- What there is under a key was told. -/
theorem named_of_current {t : Moment} (hnamed : ∀ e ∈ f.told t, isNamed e.object = true)
    {key : ObjectKey} {a : α} (h : f.current? t key = some a) : isNamed a = true := by
  obtain ⟨e, hlast, hleft⟩ := Option.bind_eq_some_iff.mp h
  have he : e ∈ f.told t := (List.mem_filter.mp (List.mem_of_getLast? hlast)).1
  unfold Event.left? at hleft
  split at hleft
  · cases hleft
  · cases hleft
    exact hnamed e he

omit [Identified α] in
theorem told_mono {t u : Moment} (htu : t ≤ u) : f.told t ⊆ f.told u := by
  intro e he
  rcases List.mem_append.mp he with he | he
  · exact List.mem_append_left _ he
  · obtain ⟨he, hle⟩ := List.mem_filter.mp he
    have hle : e.moment ≤ u := Nat.le_trans (of_decide_eq_true hle) htu
    exact List.mem_append_right _ (List.mem_filter.mpr ⟨he, decide_eq_true hle⟩)

/-! ## What an informer follows -/

variable {f} {listed t : Moment}

omit [Identified α] in
/-- The events after the list are the ones that are not in it. -/
theorem filter_listed (horder : f.InOrder) (hlisted : listed ≤ t) :
    f.events.filter (fun e => e.moment ≤ listed) ++
        (f.events.filter fun e => listed < e.moment).filter (fun e => e.moment ≤ t) =
      f.events.filter fun e => e.moment ≤ t := by
  conv => rhs; rw [Time.split_of_sorted_le Event.moment horder listed, List.filter_append]
  congr 1
  refine (List.filter_eq_self.mpr fun e he => ?_).symm
  exact decide_eq_true (Nat.le_trans (of_decide_eq_true (List.mem_filter.mp he).2) hlisted)

/-- An informer whose list can be stored follows all events up to the one that ends it. -/
theorem followed_of_fault {m : Moment} (hready : f.ready listed = true)
    (hfault : f.fault listed = some m) : ∃ e rest, e.moment = m ∧
      (f.events.filter fun e => listed < e.moment) = f.followed listed ++ e :: rest := by
  obtain ⟨hheard, hlistable⟩ := Bool.and_eq_true_iff.mp hready
  rw [fault, if_neg (by simpa using hheard), if_pos hlistable] at hfault
  obtain ⟨e, hfind, hm⟩ := Option.map_eq_some_iff.mp hfault
  obtain ⟨hunnamed, before, rest, hsplit, hbefore⟩ := List.find?_eq_some_iff_append.mp hfind
  refine ⟨e, rest, hm, ?_⟩
  rw [followed, hsplit, List.takeWhile_append_of_pos (by simpa using hbefore),
    List.takeWhile_cons_of_neg (by simpa using hunnamed), List.append_nil]

omit [Identified α] in
/-- What is found among the events after the list is later than the list. -/
theorem lt_of_find? {p : Event α → Bool} {m : Moment}
    (h : ((f.events.filter fun e => listed < e.moment).find? p).map (·.moment) = some m) :
    listed < m := by
  obtain ⟨e, hfind, rfl⟩ := Option.map_eq_some_iff.mp h
  exact of_decide_eq_true (List.mem_filter.mp (List.mem_of_find?_eq_some hfind)).2

/-- No informer ends by itself before its list comes. -/
theorem listed_le_of_fault {m : Moment} (hfault : f.fault listed = some m) : listed ≤ m := by
  unfold fault at hfault
  split at hfault
  · cases hfault
  · split at hfault
    · exact Nat.le_of_lt (lt_of_find? hfault)
    · exact Nat.le_of_eq (Option.some.inj hfault)

/-- One that does not end by itself follows all events. -/
theorem followed_of_no_fault (hready : f.ready listed = true) (hfault : f.fault listed = none) :
    f.followed listed = f.events.filter fun e => listed < e.moment := by
  obtain ⟨hheard, hlistable⟩ := Bool.and_eq_true_iff.mp hready
  rw [fault, if_neg (by simpa using hheard), if_pos hlistable, Option.map_eq_none_iff] at hfault
  exact List.takeWhile_eq_self_iff.mpr (by simpa using hfault)

/-- An informer that ends by itself has followed nothing later. -/
theorem le_of_mem_followed (horder : f.InOrder) {m : Moment} (hready : f.ready listed = true)
    (hfault : f.fault listed = some m) : ∀ e ∈ f.followed listed, e.moment ≤ m := by
  obtain ⟨last, rest, rfl, hsplit⟩ := followed_of_fault hready hfault
  have horder : (f.followed listed ++ last :: rest).Pairwise fun a b => a.moment ≤ b.moment :=
    hsplit ▸ horder.filter _
  exact fun e he => (List.pairwise_append.mp horder).2.2 e he last List.mem_cons_self

/-- As long as it has not ended it follows all events. -/
theorem filter_followed (horder : f.InOrder) (hready : f.ready listed = true)
    (hruns : ∀ m, f.fault listed = some m → t < m) :
    (f.followed listed).filter (fun e => e.moment ≤ t) =
      (f.events.filter fun e => listed < e.moment).filter fun e => e.moment ≤ t := by
  cases hfault : f.fault listed with
  | none => rw [followed_of_no_fault hready hfault]
  | some m =>
    obtain ⟨last, rest, rfl, hsplit⟩ := followed_of_fault hready hfault
    have hlast : t < last.moment := hruns _ hfault
    have horder : (f.followed listed ++ last :: rest).Pairwise fun a b => a.moment ≤ b.moment :=
      hsplit ▸ horder.filter _
    have hrest := (List.pairwise_cons.mp (List.pairwise_append.mp horder).2.1).1
    have hnone : (last :: rest).filter (fun e => e.moment ≤ t) = [] := by
      refine List.filter_eq_nil_iff.mpr fun e he => ?_
      rw [decide_eq_true_eq, Nat.not_le]
      rcases List.mem_cons.mp he with rfl | he
      · exact hlast
      · exact Nat.lt_of_lt_of_le hlast (hrest e he)
    rw [hsplit, List.filter_append, hnone, List.append_nil]

/-- What is stored is what was listed and what was followed, until the token fires. -/
theorem storeAt_begun (hready : f.ready listed = true) (hlisted : listed ≤ t) {stop : Option Moment}
    (hstop : ∀ s, stop = some s → listed < s) : f.storeAt listed stop t =
      (f.objectsAt listed).applyAll ((f.followed listed).filter fun e =>
        e.moment ≤ t && stop.all (e.moment ≤ ·)) := by
  cases stop with
  | none => simp [storeAt, hready, hlisted]
  | some s =>
    have hmin (m : Moment) : decide (m ≤ min s t) = (decide (m ≤ t) && decide (m ≤ s)) := by
      rw [Bool.and_comm, ← Bool.decide_and, decide_eq_decide]
      exact Nat.le_min
    simp only [storeAt, hready, decide_eq_true hlisted, decide_eq_true (hstop s rfl),
      Option.map_some, Option.getD_some, Bool.and_self, if_true, hmin, Option.all_some]

theorem storeAt_of_not_ready (hready : f.ready listed = false) (stop : Option Moment) (t : Moment) :
    f.storeAt listed stop t = ∅ := by
  simp only [storeAt, hready, Bool.false_and, Bool.false_eq_true, if_false]

/-- The store of an informer that runs has under each key what was told last. -/
theorem storeAt_running (horder : f.InOrder) (hready : f.ready listed = true) (hlisted : listed ≤ t)
    (hruns : ∀ m, f.fault listed = some m → t < m) (key : ObjectKey) :
    (f.storeAt listed none t)[key]? = f.current? t key := by
  rw [storeAt_begun hready hlisted (by simp)]
  simp only [Option.all_none, Bool.and_true]
  rw [filter_followed horder hready hruns, ← getElem?_objectsAt, objectsAt, objectsAt,
    ← filter_listed horder hlisted]
  simp only [Objects.applyAll, List.foldl_append]

/-- An informer that has ended by itself keeps what it has, whether or not its token fires later. -/
theorem storeAt_ended (horder : f.InOrder) {m u : Moment} (hfault : f.fault listed = some m)
    (hm : m ≤ t) (htu : t ≤ u) {stop : Option Moment} (hstop : ∀ s, stop = some s → t ≤ s) :
    f.storeAt listed stop u = f.storeAt listed none t := by
  have hlisted : listed ≤ t := Nat.le_trans (listed_le_of_fault hfault) hm
  cases hready : f.ready listed with
  | false => rw [storeAt_of_not_ready hready, storeAt_of_not_ready hready]
  | true =>
    have hfollowed := le_of_mem_followed horder hready hfault
    have hlate : listed < m := by
      obtain ⟨e, rest, rfl, hsplit⟩ := followed_of_fault hready hfault
      have he : e ∈ f.events.filter fun e => listed < e.moment := by simp [hsplit]
      exact of_decide_eq_true (List.mem_filter.mp he).2
    rw [storeAt_begun hready (Nat.le_trans hlisted htu) fun s hs =>
        Nat.lt_of_lt_of_le hlate (Nat.le_trans hm (hstop s hs)),
      storeAt_begun hready hlisted (by simp)]
    congr 1
    refine List.filter_congr fun e he => ?_
    have hle : e.moment ≤ t := Nat.le_trans (hfollowed e he) hm
    have hall : stop.all (e.moment ≤ ·) = true := by
      rw [Option.all_eq_true]
      exact fun s hs => decide_eq_true (Nat.le_trans hle (hstop s hs))
    rw [hall, decide_eq_true hle, decide_eq_true (Nat.le_trans hle htu)]
    rfl

/-- An informer whose token fires before its list comes stores nothing. -/
theorem storeAt_late (f : Feed α) {listed s : Moment} (hs : s ≤ listed) (t : Moment) :
    f.storeAt listed (some s) t = ∅ := by
  have hlate : decide (listed < s) = false := decide_eq_false (Nat.not_lt.mpr hs)
  simp [storeAt, hlate]

/-- The store of an informer whose token has fired stays as it is. -/
theorem storeAt_stopped (f : Feed α) {listed s t u : Moment} (hs : s ≤ t) (htu : t ≤ u) :
    f.storeAt listed (some s) u = f.storeAt listed (some s) t := by
  rcases Nat.lt_or_ge listed s with hlt | hlate
  · have hlisted : listed ≤ t := Nat.le_trans (Nat.le_of_lt hlt) hs
    have hle : decide (listed ≤ u) = decide (listed ≤ t) := by
      rw [decide_eq_true hlisted, decide_eq_true (Nat.le_trans hlisted htu)]
    simp only [storeAt, hle, Nat.min_eq_left hs, Nat.min_eq_left (Nat.le_trans hs htu)]
  · rw [f.storeAt_late hlate, f.storeAt_late hlate]

/-- Before its list comes an informer stores nothing. -/
theorem storeAt_early (f : Feed α) {listed : Moment} (ht : t < listed) (stop : Option Moment) :
    f.storeAt listed stop t = ∅ := by
  have hearly : decide (listed ≤ t) = false := decide_eq_false (Nat.not_le.mpr ht)
  simp [storeAt, hearly]

end Feed

/-! ## The deeds -/

namespace Informers

/-- The informers of a cluster when these deeds were done, one after another. -/
def after (world : World) (deeds : List (Moment × Deed)) : Informers :=
  ({ world } : Informers).play deeds

variable {world : World} {deeds : List (Moment × Deed)} {t : Moment}

theorem play_eq (i : Informers) (deeds : List (Moment × Deed)) :
    i.play deeds = { i with
      start := i.start.or (first .start deeds)
      stop := i.stop.or (first .cancel deeds) } := by
  induction deeds generalizing i with
  | nil => simp [play]
  | cons d rest ih =>
    obtain ⟨m, deed⟩ := d
    have hstep : i.play ((m, deed) :: rest) = (i.act m deed).2.play rest := rfl
    rw [hstep, ih]
    cases deed with
    | start =>
      cases hstart : i.start <;> simp [act, begin, hstart, first_cons]
    | cancel => simp [act, cancel, first_cons]

theorem after_eq (world : World) (deeds : List (Moment × Deed)) : after world deeds =
    { world, start := first .start deeds, stop := first .cancel deeds } := by
  rw [after, play_eq]
  rfl

/-- What the informer of one kind keeps at a moment, when these deeds were done by then. -/
structure Kept (world : World) (feed : Feed α) (deeds : List (Moment × Deed)) (t : Moment) :
    Prop where
  /-- Before the start nothing is stored, and there is no task that could end. -/
  idle : .start ∉ deeds.map (·.2) → (after world deeds).storeAt feed t = ∅ ∧
    endedBy t ((after world deeds).taskEnd feed) = false
  /-- Nor is anything stored until the list has come. -/
  waits : ∀ start, (after world deeds).start = some start → t < feed.listedAt start →
    (after world deeds).storeAt feed t = ∅
  /-- From then on, while the informer runs, its store has under each key what was told last. -/
  current : ∀ start, (after world deeds).start = some start → feed.listedAt start ≤ t →
    feed.silent = false → endedBy t ((after world deeds).taskEnd feed) = false →
      ∀ key, ((after world deeds).storeAt feed t)[key]? = feed.current? t key
  /-- It runs until the token fires, unless it is told of an object that has no name. -/
  runs : .start ∈ deeds.map (·.2) → .cancel ∉ deeds.map (·.2) →
    feed.silent = true ∨ (∀ e ∈ feed.told t, isNamed e.object = true) →
      endedBy t ((after world deeds).taskEnd feed) = false
  /-- Nothing comes from a feed that is silent. -/
  silent : feed.silent = true → (after world deeds).storeAt feed t = ∅
  /-- The informer ends when the token fires, even if it was started after that. -/
  ends : .start ∈ deeds.map (·.2) → .cancel ∈ deeds.map (·.2) →
    endedBy t ((after world deeds).taskEnd feed) = true
  /-- Once it has ended its store stays as it is, whatever happens later. -/
  ended : endedBy t ((after world deeds).taskEnd feed) = true →
    ∀ more u, t ≤ u → (∀ d ∈ more, t ≤ d.1 ∧ d.1 ≤ u) →
      (after world (deeds ++ more)).storeAt feed u = (after world deeds).storeAt feed t
  /-- So it does once the token has fired, whether or not the informer was started. -/
  stopped : .cancel ∈ deeds.map (·.2) →
    ∀ more u, t ≤ u → (∀ d ∈ more, t ≤ d.1 ∧ d.1 ≤ u) →
      (after world (deeds ++ more)).storeAt feed u = (after world deeds).storeAt feed t
  /-- What else the apiserver has makes no difference. -/
  apart : ∀ other : World,
    (after other deeds).storeAt feed t = (after world deeds).storeAt feed t ∧
      (after other deeds).taskEnd feed = (after world deeds).taskEnd feed

/-! ## What ends -/

theorem endedBy_eq_true {e : Option Moment} : endedBy t e = true ↔ ∃ m, e = some m ∧ m ≤ t := by
  cases e <;> simp [endedBy]

/-- The first deed of a kind has come when there is one. -/
theorem endedBy_first {D : Type} [DecidableEq D] {deed : D} {deeds : List (Moment × D)}
    (hdone : ∀ d ∈ deeds, d.1 ≤ t) :
    endedBy t (first deed deeds) = true ↔ deed ∈ deeds.map (·.2) := by
  by_cases hmem : deed ∈ deeds.map (·.2)
  · obtain ⟨m, hm⟩ := exists_first hmem
    exact iff_of_true (endedBy_eq_true.mpr ⟨m, hm, hdone _ (Time.mem_of_first hm)⟩) hmem
  · rw [Time.first_eq_none.mpr hmem]
    exact iff_of_false Bool.false_ne_true hmem

theorem endedBy_earlier (a b : Option Moment) :
    endedBy t (Time.earlier a b) = (endedBy t a || endedBy t b) := by
  cases a with
  | none => rfl
  | some a =>
    cases b with
    | none => exact (Bool.or_false _).symm
    | some b =>
      rw [Bool.eq_iff_iff, Bool.or_eq_true]
      simp only [Time.earlier, endedBy, decide_eq_true_eq]
      rcases Nat.le_total a b with h | h
      · rw [Nat.min_eq_left h]
        exact ⟨Or.inl, fun ho => ho.elim id (Nat.le_trans h)⟩
      · rw [Nat.min_eq_right h]
        exact ⟨Or.inr, fun ho => ho.elim (Nat.le_trans h) id⟩

/-! ## One informer -/

variable {feed : Feed α} {i : Informers} {start : Moment}

theorem storeAt_idle (hi : i.start = none) (feed : Feed α) (t : Moment) : i.storeAt feed t = ∅ := by
  simp only [storeAt, hi]

theorem storeAt_started (hi : i.start = some start) (feed : Feed α) (t : Moment) :
    i.storeAt feed t = feed.storeAt (feed.listedAt start) i.stop t := by
  simp only [storeAt, hi]

theorem taskEnd_eq (hi : i.start = some start) (feed : Feed α) :
    i.taskEnd feed =
      Time.earlier (feed.fault (feed.listedAt start)) (i.stop.map (max start)) := by
  simp only [taskEnd, hi]
  cases feed.fault (feed.listedAt start) <;> cases i.stop <;> rfl

/-- An informer ends by itself, or with the token. -/
theorem endedBy_taskEnd (hi : i.start = some start) (hstart : start ≤ t) (feed : Feed α) :
    endedBy t (i.taskEnd feed) =
      (endedBy t (feed.fault (feed.listedAt start)) || endedBy t i.stop) := by
  rw [taskEnd_eq hi, endedBy_earlier]
  congr 1
  cases i.stop with
  | none => rfl
  | some s =>
    simp only [Option.map_some, endedBy, decide_eq_decide]
    exact ⟨fun h => (Nat.max_le.mp h).2, fun h => Nat.max_le.mpr ⟨hstart, h⟩⟩

/-- An informer that has not ended by itself when its list is to come has stored it, unless that
never comes. -/
theorem ready_of_runs {listed : Moment} (hheard : feed.silent = false) (hle : listed ≤ t)
    (hruns : endedBy t (feed.fault listed) = false) : feed.ready listed = true := by
  unfold Feed.fault at hruns
  rw [if_neg (by simp [hheard])] at hruns
  split at hruns
  · next hlistable => rw [Feed.ready, hheard, hlistable]; rfl
  · rw [endedBy, decide_eq_true hle] at hruns
    cases hruns

/-- An informer that is told only of objects with names does not end by itself. -/
theorem endedBy_fault_of_named {listed : Moment}
    (hnamed : feed.silent = true ∨ ∀ e ∈ feed.told t, isNamed e.object = true) :
    endedBy t (feed.fault listed) = false := by
  rw [← Bool.not_eq_true, endedBy_eq_true]
  rintro ⟨m, hm, hmt⟩
  have hle : listed ≤ t := Nat.le_trans (Feed.listed_le_of_fault hm) hmt
  unfold Feed.fault at hm
  split at hm
  · cases hm
  · next hheard =>
    have hnamed := hnamed.resolve_left hheard
    have hlistable : feed.listable listed = true := by
      refine List.all_eq_true.mpr fun a ha => ?_
      obtain ⟨key, hkey⟩ := mem_values.mp ha
      rw [Feed.getElem?_objectsAt] at hkey
      exact Feed.named_of_current (fun e he => hnamed e (feed.told_mono hle he)) hkey
    rw [if_pos hlistable] at hm
    obtain ⟨e, hfind, rfl⟩ := Option.map_eq_some_iff.mp hm
    have he : e ∈ feed.events := (List.mem_filter.mp (List.mem_of_find?_eq_some hfind)).1
    have hunnamed : isNamed e.object = false := by simpa using List.find?_some hfind
    have htold : e ∈ feed.told t :=
      List.mem_append_right _ (List.mem_filter.mpr ⟨he, decide_eq_true hmt⟩)
    rw [hnamed e htold] at hunnamed
    cases hunnamed

/-- The store of an informer that has ended stays as it is. -/
theorem storeAt_ended (hi : i.start = some start) (hle : start ≤ t) (horder : feed.InOrder)
    (hpast : ∀ s, i.stop = some s → s ≤ t) (hended : endedBy t (i.taskEnd feed) = true)
    {u : Moment} (htu : t ≤ u) {later : Option Moment} (hlater : ∀ s, later = some s → t ≤ s) :
    feed.storeAt (feed.listedAt start) (i.stop.or later) u =
      feed.storeAt (feed.listedAt start) i.stop t := by
  cases hstop : i.stop with
  | some s => exact feed.storeAt_stopped (hpast s hstop) htu
  | none =>
    rw [endedBy_taskEnd hi hle, hstop, endedBy, Bool.or_false, endedBy_eq_true] at hended
    obtain ⟨m, hfault, hm⟩ := hended
    exact Feed.storeAt_ended horder hfault hm htu hlater

/-! ## The two of them -/

theorem start_append (world : World) (deeds more : List (Moment × Deed)) :
    (after world (deeds ++ more)).start = (after world deeds).start.or (first .start more) := by
  simp only [after_eq, first_append]

theorem stop_append (world : World) (deeds more : List (Moment × Deed)) :
    (after world (deeds ++ more)).stop = (after world deeds).stop.or (first .cancel more) := by
  simp only [after_eq, first_append]

theorem isStarted_after (world : World) (deeds : List (Moment × Deed)) :
    (after world deeds).isStarted = true ↔ .start ∈ deeds.map (·.2) := by
  rw [← not_iff_not, ← Time.first_eq_none, isStarted, after_eq, Option.not_isSome_iff_eq_none]

theorem exists_start (world : World) (hstarted : .start ∈ deeds.map (·.2)) :
    ∃ start, (after world deeds).start = some start := by
  rw [after_eq]
  exact exists_first hstarted

theorem start_eq_none (world : World) (hidle : .start ∉ deeds.map (·.2)) :
    (after world deeds).start = none := by
  rw [after_eq]
  exact Time.first_eq_none.mpr hidle

section

variable (world) (hdone : ∀ d ∈ deeds, d.1 ≤ t)

include hdone

theorem le_of_start_after (hi : (after world deeds).start = some start) : start ≤ t := by
  rw [after_eq] at hi
  exact hdone _ (Time.mem_of_first hi)

theorem le_of_stop_after {s : Moment} (hi : (after world deeds).stop = some s) : s ≤ t := by
  rw [after_eq] at hi
  exact hdone _ (Time.mem_of_first hi)

/-- The informers that were started have ended when the token has fired, and only then unless they
end by themselves. -/
theorem endedBy_taskEnd_after (hi : (after world deeds).start = some start) (feed : Feed α) :
    endedBy t ((after world deeds).taskEnd feed) = true ↔
      endedBy t (feed.fault (feed.listedAt start)) = true ∨ .cancel ∈ deeds.map (·.2) := by
  rw [endedBy_taskEnd hi (le_of_start_after world hdone hi), Bool.or_eq_true, after_eq,
    endedBy_first hdone]

theorem current_after (hi : (after world deeds).start = some start)
    (hle : feed.listedAt start ≤ t) (horder : feed.InOrder) (hheard : feed.silent = false) (hruns : endedBy t ((after world deeds).taskEnd feed) = false)
    (key : ObjectKey) : ((after world deeds).storeAt feed t)[key]? = feed.current? t key := by
  rw [← Bool.not_eq_true, endedBy_taskEnd_after world hdone hi, not_or, Bool.not_eq_true] at hruns
  obtain ⟨hfault, hfree⟩ := hruns
  have hstop : (after world deeds).stop = none := by
    rw [after_eq]
    exact Time.first_eq_none.mpr hfree
  rw [storeAt_started hi, hstop]
  refine Feed.storeAt_running horder (ready_of_runs hheard hle hfault) hle (fun m hm => ?_) key
  rw [hm, endedBy, decide_eq_false_iff_not, Nat.not_le] at hfault
  exact hfault

theorem storeAt_after_ended (horder : feed.InOrder)
    (hended : endedBy t ((after world deeds).taskEnd feed) = true) (more : List (Moment × Deed))
    {u : Moment} (htu : t ≤ u) (hmore : ∀ d ∈ more, t ≤ d.1 ∧ d.1 ≤ u) :
    (after world (deeds ++ more)).storeAt feed u = (after world deeds).storeAt feed t := by
  cases hi : (after world deeds).start with
  | none =>
    simp only [taskEnd, hi, endedBy] at hended
    cases hended
  | some start =>
    have hi' : (after world (deeds ++ more)).start = some start := by
      rw [start_append, hi, Option.some_or]
    rw [storeAt_started hi', storeAt_started hi, stop_append]
    exact storeAt_ended hi (le_of_start_after world hdone hi) horder
      (fun s hs => le_of_stop_after world hdone hs) hended htu
      fun s hs => (hmore _ (Time.mem_of_first hs)).1

theorem storeAt_after_stopped (horder : feed.InOrder) (hfired : .cancel ∈ deeds.map (·.2))
    (more : List (Moment × Deed)) {u : Moment} (htu : t ≤ u)
    (hmore : ∀ d ∈ more, t ≤ d.1 ∧ d.1 ≤ u) :
    (after world (deeds ++ more)).storeAt feed u = (after world deeds).storeAt feed t := by
  cases hi : (after world deeds).start with
  | some start =>
    exact storeAt_after_ended world hdone horder
      ((endedBy_taskEnd_after world hdone hi feed).mpr (Or.inr hfired)) more htu hmore
  | none =>
    rw [storeAt_idle hi]
    have hi' : (after world (deeds ++ more)).start = first .start more := by
      rw [start_append, hi, Option.none_or]
    cases hlate : first .start more with
    | none => exact storeAt_idle (hi'.trans hlate) feed u
    | some start =>
      -- the token has fired before they are started
      obtain ⟨s, hs⟩ := exists_first hfired
      have hstop : (after world (deeds ++ more)).stop = some s := by
        rw [stop_append, after_eq, hs, Option.some_or]
      have hle : s ≤ start :=
        Nat.le_trans (hdone _ (Time.mem_of_first hs)) (hmore _ (Time.mem_of_first hlate)).1
      rw [storeAt_started (hi'.trans hlate), hstop,
        feed.storeAt_late (Nat.le_trans hle (feed.le_listedAt start))]

/-- The store of one kind follows from the deeds that were done and from what was told. -/
theorem kept (feed : Feed α) (horder : feed.InOrder) : Kept world feed deeds t where
  idle hidle := by
    have hi := start_eq_none world hidle
    exact ⟨storeAt_idle hi feed t, by simp only [taskEnd, hi, endedBy]⟩
  waits start hi hearly := by rw [storeAt_started hi, feed.storeAt_early hearly]
  current start hi hle hheard hruns := current_after world hdone hi hle horder hheard hruns
  runs hstarted hfree hnamed := by
    obtain ⟨start, hi⟩ := exists_start world hstarted
    rw [← Bool.not_eq_true, endedBy_taskEnd_after world hdone hi,
      endedBy_fault_of_named hnamed]
    exact fun h => h.elim Bool.false_ne_true hfree
  silent hsilent := by
    cases hi : (after world deeds).start with
    | none => exact storeAt_idle hi feed t
    | some start =>
      rw [storeAt_started hi, Feed.storeAt_of_not_ready (by simp [Feed.ready, hsilent])]
  ends hstarted hfired := by
    obtain ⟨start, hi⟩ := exists_start world hstarted
    exact (endedBy_taskEnd_after world hdone hi feed).mpr (Or.inr hfired)
  ended hended more _ := storeAt_after_ended world hdone horder hended more
  stopped hfired more _ := storeAt_after_stopped world hdone horder hfired more
  apart other := by
    rw [after_eq, after_eq]
    exact ⟨rfl, rfl⟩

end

/-- What can be seen of the informers of a cluster at a moment, when these deeds were done by
then. -/
structure Lifecycle (world : World) (deeds : List (Moment × Deed)) (t : Moment) : Prop where
  /-- The first start is answered with two tasks, and any other with none. -/
  answers : ∀ m, ((after world deeds).act m .start).1 =
    some (if .start ∈ deeds.map (·.2) then 0 else 2)
  /-- Any other makes no difference to what comes of the informers. -/
  again : .start ∈ deeds.map (·.2) →
    ∀ m more, after world (deeds ++ (m, .start) :: more) = after world (deeds ++ more)
  /-- They are started from the first start on, whether or not the token fires. -/
  isStarted : (after world deeds).isStarted = true ↔ .start ∈ deeds.map (·.2)
  /-- The apiserver is the one they were made for. -/
  apiserver : (after world deeds).world = world
  /-- What becomes of the services. -/
  services : Kept world world.services deeds t
  /-- What becomes of the nodes. -/
  nodes : Kept world world.nodes deeds t
  /-- No task has ended before the start. -/
  idle : .start ∉ deeds.map (·.2) → (after world deeds).finishedAt t = 0
  /-- Both have when the token has fired. -/
  finished : .start ∈ deeds.map (·.2) → .cancel ∈ deeds.map (·.2) →
    (after world deeds).finishedAt t = 2

/-- What the informers of a cluster are at a moment follows from what was done by then. -/
theorem lifecycle (world : World) (deeds : List (Moment × Deed)) (t : Moment)
    (hdone : ∀ d ∈ deeds, d.1 ≤ t) (hservices : world.services.InOrder)
    (hnodes : world.nodes.InOrder) : Lifecycle world deeds t :=
  have services := kept world hdone world.services hservices
  have nodes := kept world hdone world.nodes hnodes
  have hworld : (after world deeds).world = world := by rw [after_eq]
  { answers := by
      intro m
      split
      · next hstarted =>
        obtain ⟨start, hi⟩ := exists_start world hstarted
        simp only [act, begin, hi]
      · next hidle => simp only [act, begin, start_eq_none world hidle]
    again := by
      intro hstarted m more
      obtain ⟨start, hstart⟩ := exists_first hstarted
      simp [after_eq, first_append, first_cons, hstart]
    isStarted := isStarted_after world deeds
    apiserver := hworld
    services
    nodes
    idle := by
      intro hidle
      rw [finishedAt, hworld, (services.idle hidle).2, (nodes.idle hidle).2]
      rfl
    finished := by
      intro hstarted hfired
      rw [finishedAt, hworld, services.ends hstarted hfired, nodes.ends hstarted hfired]
      rfl }

/-- A cluster whose nodes cannot be listed, and whose services come and go. -/
def trialWorld : World where
  services :=
    { base := [⟨{ name := some "web" }, some "LoadBalancer"⟩, ⟨{ name := some "db" }, none⟩]
      events := [⟨3, false, ⟨{ name := some "db" }, some "LoadBalancer"⟩⟩,
        ⟨8, true, ⟨{ name := some "web" }, some "LoadBalancer"⟩⟩,
        ⟨30, false, ⟨{ name := some "web" }, none⟩⟩] }
  nodes := { base := [{ identity := { name := some "n1" } }], silent := true }

/-- They are started twice before the token fires, and once after that. -/
theorem lifecycle_trial :
    let deeds := [(1, Deed.start), (5, .start), (20, .cancel), (25, .start)]
    ((∀ d ∈ deeds, d.1 ≤ 40) ∧ trialWorld.services.InOrder ∧ trialWorld.nodes.InOrder) ∧
      Lifecycle trialWorld deeds 40 ∧
      ((after trialWorld deeds).servicesAt 1).values.map (·.identity.name) =
        [some "db", some "web"] ∧
      ((after trialWorld deeds).servicesAt 40).values.map (·.identity.name) = [some "db"] ∧
      ((after trialWorld deeds).nodesAt 40).values.map (·.identity.name) = [] := by
  have hdone : ∀ d ∈ [(1, Deed.start), (5, .start), (20, .cancel), (25, .start)], d.1 ≤ 40 := by
    decide
  have hservices : trialWorld.services.InOrder := by
    unfold Feed.InOrder
    decide
  have hnodes : trialWorld.nodes.InOrder := by
    unfold Feed.InOrder
    decide
  exact ⟨⟨hdone, hservices, hnodes⟩, lifecycle trialWorld _ 40 hdone hservices hnodes,
    by decide +kernel, by decide +kernel, by decide +kernel⟩

end Informers

end Flotilla.Apiserver
