import Flotilla.Tools.Inventory
import Flotilla.Tools.Sweep

/-!
# What a sweep removes

A sweep asks its engine once for each entry of the list, in order, and goes on whatever the answer
is.  What is asked and answered is put down in a transcript (`Engine.transcribed`), and the counts of
the sweep are compared with the answers that stand there (`Sweep.Thorough`).

An inventory loses all entries of a name at once, so the containers change while the list is gone
through, and a name that is listed twice is removed twice.  `Sweep.removeAll_inventory` says what is
left after some of the list, and `Inventory.Swept` what is left after all of it.
-/

namespace Flotilla.Tools

variable {S : Type}

/-! ## Transcripts -/

/-- What is asked of an engine, with the answer. -/
inductive Exchange where
  /-- The containers with a label. -/
  | listed (label : String) (answer : Except CommandFailure (List String))
  /-- To remove a container. -/
  | removed (id : String) (answer : Except CommandFailure Unit)

/-- The engine that puts down what it is asked and what it answers. -/
def Engine.transcribed (e : Engine S) : Engine (S × List Exchange) where
  list label := fun (state, transcript) =>
    let (answer, state) := e.list label state
    (answer, state, transcript ++ [.listed label answer])
  remove id := fun (state, transcript) =>
    let (answer, state) := e.remove id state
    (answer, state, transcript ++ [.removed id answer])

namespace Sweep

/-- What is asked and answered in a sweep. -/
def transcript (engine : Engine S) (label : String) (state : S) : List Exchange :=
  (run engine.transcribed label (state, [])).2.2

/-- What a sweep asks for and what it counts. -/
structure Thorough (engine : Engine S) (label : String) (state : S) : Prop where
  /-- It goes as it does without a transcript. -/
  undisturbed : run engine.transcribed label (state, []) =
    ((run engine label state).1, (run engine label state).2, transcript engine label state)
  /-- If the containers cannot be listed none is removed. -/
  unlisted : ∀ e, (engine.list label state).1 = .error e →
    transcript engine label state = [.listed label (.error e)] ∧
      (run engine label state).1.deleted = 0 ∧ (run engine label state).1.failed = 0
  /-- Otherwise the removal of each entry is asked for once, in the order of the list, and each
  answer is counted. -/
  listed : ∀ ids, (engine.list label state).1 = .ok ids →
    ∃ answers : List (Except CommandFailure Unit), answers.length = ids.length ∧
      transcript engine label state =
        .listed label (.ok ids) :: List.zipWith .removed ids answers ∧
      (run engine label state).1.deleted = answers.countP Except.isOk ∧
      (run engine label state).1.failed = answers.countP (fun answer => !answer.isOk) ∧
      (run engine label state).1.deleted + (run engine label state).1.failed = ids.length

end Sweep

/-- What a sweep leaves of an inventory. -/
structure Inventory.Swept (i : Inventory) (label : String) : Prop where
  /-- The containers that cannot be removed are left, in their order. -/
  left : (Sweep.run engine label i).2.containers = i.containers.filter fun c => i.staying.contains c
  /-- The others go on record, in the order of the list. -/
  recorded : (Sweep.run engine label i).2.deleted =
    i.deleted ++ i.containers.filter fun c => !i.staying.contains c
  /-- Both are counted. -/
  deleted : (Sweep.run engine label i).1.deleted =
    (i.containers.filter fun c => !i.staying.contains c).length
  failed : (Sweep.run engine label i).1.failed =
    (i.containers.filter fun c => i.staying.contains c).length
  /-- A second sweep removes nothing and fails as often. -/
  again : (Sweep.run engine label (Sweep.run engine label i).2).1.deleted = 0 ∧
    (Sweep.run engine label (Sweep.run engine label i).2).1.failed =
      (Sweep.run engine label i).1.failed
  /-- It changes nothing but that it asks for the list. -/
  settled : (Sweep.run engine label (Sweep.run engine label i).2).2 =
    { (Sweep.run engine label i).2 with
      labelQueries := (Sweep.run engine label i).2.labelQueries ++ [label] }

namespace Sweep

/-! ## The counts -/

@[simp] theorem deleted_say (s : Sweep) (line : LogLine) : (s.say line).deleted = s.deleted := rfl

@[simp] theorem failed_say (s : Sweep) (line : LogLine) : (s.say line).failed = s.failed := rfl

/-- The last line of a sweep of some containers. -/
def closing (label : String) (ids : List String) (s : Sweep) : LogLine :=
  if ids.isEmpty then .info s!"No containers labelled {label} to remove"
  else .info s!"Swept {s.deleted} container(s), {s.failed} failure(s)"

/-- A sweep removes what is listed and then says so. -/
theorem run_eq {engine : Engine S} {label : String} {state rest : S} {ids : List String}
    (h : engine.list label state = (.ok ids, rest)) :
    run engine label state =
      ((removeAll engine ids {} rest).1.say (closing label ids (removeAll engine ids {} rest).1),
        (removeAll engine ids {} rest).2) := by
  cases ids <;> simp [run, h, closing, removeAll]

theorem deleted_count (s : Sweep) (id : String) (answer : Except CommandFailure Unit) :
    (s.count id answer).deleted = s.deleted + [answer].countP Except.isOk := by
  cases answer <;> simp [count, Except.isOk, Except.toBool]

theorem failed_count (s : Sweep) (id : String) (answer : Except CommandFailure Unit) :
    (s.count id answer).failed = s.failed + [answer].countP (fun answer => !answer.isOk) := by
  cases answer <;> simp [count, Except.isOk, Except.toBool]

/-- What is asked and answered while some containers are removed. -/
theorem removeAll_transcribed (engine : Engine S) (ids : List String) (sweep : Sweep) (state : S)
    (earlier : List Exchange) :
    ∃ answers : List (Except CommandFailure Unit), answers.length = ids.length ∧
      removeAll engine.transcribed ids sweep (state, earlier) =
        ((removeAll engine ids sweep state).1, (removeAll engine ids sweep state).2,
          earlier ++ List.zipWith .removed ids answers) ∧
      (removeAll engine ids sweep state).1.deleted =
        sweep.deleted + answers.countP Except.isOk ∧
      (removeAll engine ids sweep state).1.failed =
        sweep.failed + answers.countP (fun answer => !answer.isOk) := by
  induction ids generalizing sweep state earlier with
  | nil => exact ⟨[], rfl, by simp [removeAll], rfl, rfl⟩
  | cons id rest ih =>
    obtain ⟨answer, state', hremove⟩ : ∃ answer state', engine.remove id state = (answer, state') :=
      ⟨_, _, rfl⟩
    have htranscribed : engine.transcribed.remove id (state, earlier) =
        (answer, state', earlier ++ [.removed id answer]) := by
      simp only [Engine.transcribed, hremove]
    obtain ⟨answers, hlength, hrest, hdeleted, hfailed⟩ :=
      ih (sweep.count id answer) state' (earlier ++ [.removed id answer])
    refine ⟨answer :: answers, by simp [hlength], ?_, ?_, ?_⟩
    · simp only [removeAll, htranscribed, hremove, hrest, List.zipWith_cons_cons, List.append_assoc,
        List.singleton_append]
    · simp only [removeAll, hremove, hdeleted, deleted_count, Nat.add_assoc, ← List.countP_append,
        List.singleton_append]
    · simp only [removeAll, hremove, hfailed, failed_count, Nat.add_assoc, ← List.countP_append,
        List.singleton_append]

theorem thorough (engine : Engine S) (label : String) (state : S) :
    Thorough engine label state := by
  obtain ⟨answer, rest, hlist⟩ : ∃ answer rest, engine.list label state = (answer, rest) :=
    ⟨_, _, rfl⟩
  have hasked : engine.transcribed.list label (state, []) =
      (answer, rest, [.listed label answer]) := by
    simp only [Engine.transcribed, hlist, List.nil_append]
  cases answer with
  | error e =>
    have hrun : run engine.transcribed label (state, []) =
        ((run engine label state).1, (run engine label state).2, [.listed label (.error e)]) := by
      simp only [run, hasked, hlist]
    have hwritten := congrArg (·.2.2) hrun
    refine ⟨hrun.trans (by rw [transcript, hwritten]), fun e' he => ?_, fun ids hids => ?_⟩
    · rw [hlist] at he
      cases he
      exact ⟨hwritten, by simp [run, hlist], by simp [run, hlist]⟩
    · rw [hlist] at hids
      cases hids
  | ok ids =>
    obtain ⟨answers, hlength, hremoved, hdeleted, hfailed⟩ :=
      removeAll_transcribed engine ids {} rest [.listed label (.ok ids)]
    have hrun : run engine.transcribed label (state, []) =
        ((run engine label state).1, (run engine label state).2,
          .listed label (.ok ids) :: List.zipWith .removed ids answers) := by
      simp only [run_eq hasked, run_eq hlist, hremoved, List.singleton_append]
    have hwritten := congrArg (·.2.2) hrun
    have hyes : (run engine label state).1.deleted = answers.countP Except.isOk := by
      rw [run_eq hlist]
      exact hdeleted.trans (Nat.zero_add _)
    have hno : (run engine label state).1.failed = answers.countP (fun answer => !answer.isOk) := by
      rw [run_eq hlist]
      exact hfailed.trans (Nat.zero_add _)
    refine ⟨hrun.trans (by rw [transcript, hwritten]), fun e he => ?_, fun ids' hids => ?_⟩
    · rw [hlist] at he
      cases he
    · rw [hlist] at hids
      cases hids
      refine ⟨answers, hlength, hwritten, hyes, hno, ?_⟩
      rw [hyes, hno, ← hlength, List.length_eq_countP_add_countP Except.isOk]
      simp

end Sweep

/-! ## The inventory -/

namespace Inventory

/-- An inventory when some containers were removed, each name with all its entries: what may not go
is left, and so is what was not asked for. -/
def without (i : Inventory) (ids : List String) : Inventory :=
  { i with
    containers := i.containers.filter fun c => i.staying.contains c || !ids.contains c
    deleted := i.deleted ++ ids.filter fun c => !i.staying.contains c }

variable (i : Inventory)

@[simp] theorem staying_without (ids : List String) : (i.without ids).staying = i.staying := rfl

/-- What may not go is left. -/
theorem without_eq_self {ids : List String} (h : ∀ id ∈ ids, i.staying.contains id = true) :
    i.without ids = i := by
  have hleft : (i.containers.filter fun c => i.staying.contains c || !ids.contains c) =
      i.containers := by
    refine List.filter_eq_self.mpr fun c _ => ?_
    by_cases hc : c ∈ ids
    · rw [h c hc, Bool.true_or]
    · rw [List.contains_eq_mem, decide_eq_false hc, Bool.not_false, Bool.or_true]
  have hgone : (ids.filter fun c => !i.staying.contains c) = [] := by
    refine List.filter_eq_nil_iff.mpr fun c hc => ?_
    rw [h c hc]
    exact Bool.false_ne_true
  simp only [without, hleft, hgone, List.append_nil]

/-- Containers may be removed in several goes. -/
theorem without_without (first second : List String) :
    (i.without first).without second = i.without (first ++ second) := by
  have hleft (c : String) : ((i.staying.contains c || !second.contains c) &&
      (i.staying.contains c || !first.contains c)) =
        (i.staying.contains c || !(first ++ second).contains c) := by
    rw [List.contains_append]
    cases i.staying.contains c <;> cases first.contains c <;> cases second.contains c <;> rfl
  simp only [without, List.filter_filter, List.filter_append, List.append_assoc, hleft]

theorem remove_eq (id : String) : i.remove id =
    (if i.staying.contains id then
      .error (refusal (commandLine "docker" (Docker.removeArgs id))
        s!"Error response from daemon: could not kill container {id}") else .ok (),
      i.without [id]) := by
  by_cases h : i.staying.contains id = true
  · rw [without_eq_self i (by simpa using h)]
    simp only [remove, h, if_true]
  · have hothers : (fun c => i.staying.contains c || !([id].contains c)) = fun c => c != id := by
      funext c
      by_cases hc : c = id <;> simp [hc, h]
    simp only [remove, without, hothers]
    simp [h]

theorem isOk_remove (id : String) : (i.remove id).1.isOk = !i.staying.contains id := by
  rw [remove_eq]
  cases i.staying.contains id <;> rfl

end Inventory

namespace Sweep

/-- What is left of an inventory when some containers were removed, and what was counted. -/
theorem removeAll_inventory (ids : List String) (sweep : Sweep) (i : Inventory) :
    (removeAll Inventory.engine ids sweep i).2 = i.without ids ∧
      (removeAll Inventory.engine ids sweep i).1.deleted =
        sweep.deleted + (ids.filter fun c => !i.staying.contains c).length ∧
      (removeAll Inventory.engine ids sweep i).1.failed =
        sweep.failed + (ids.filter fun c => i.staying.contains c).length := by
  induction ids generalizing sweep i with
  | nil => exact ⟨(i.without_eq_self (by simp)).symm, rfl, rfl⟩
  | cons id rest ih =>
    have hstep : removeAll Inventory.engine (id :: rest) sweep i =
        removeAll Inventory.engine rest (sweep.count id (i.remove id).1) (i.without [id]) := by
      simp only [removeAll, Inventory.engine, Inventory.remove_eq]
    obtain ⟨hleft, hdeleted, hfailed⟩ := ih (sweep.count id (i.remove id).1) (i.without [id])
    rw [hstep, hleft, hdeleted, hfailed, deleted_count, failed_count, i.without_without,
      i.staying_without, List.countP_singleton, List.countP_singleton, i.isOk_remove]
    refine ⟨rfl, ?_⟩
    cases h : i.staying.contains id <;> simp [h] <;> omega

end Sweep

namespace Inventory

variable {i : Inventory}

theorem run_of_listable (h : i.containerListError = none) (label : String) :
    (Sweep.run engine label i).2 =
        { i with labelQueries := i.labelQueries ++ [label] }.without i.containers ∧
      (Sweep.run engine label i).1.deleted =
        (i.containers.filter fun c => !i.staying.contains c).length ∧
      (Sweep.run engine label i).1.failed =
        (i.containers.filter fun c => i.staying.contains c).length := by
  have hlist : engine.list label i =
      (.ok i.containers, { i with labelQueries := i.labelQueries ++ [label] }) := by
    simp only [engine, list, h]
  obtain ⟨hleft, hdeleted, hfailed⟩ := Sweep.removeAll_inventory i.containers {}
    { i with labelQueries := i.labelQueries ++ [label] }
  rw [Sweep.run_eq hlist]
  exact ⟨hleft, hdeleted.trans (Nat.zero_add _), hfailed.trans (Nat.zero_add _)⟩

/-- All that is listed is gone but what has to stay. -/
theorem containers_without : (i.without i.containers).containers =
    i.containers.filter fun c => i.staying.contains c := by
  refine List.filter_congr fun c hc => ?_
  rw [List.contains_eq_mem, decide_eq_true hc, Bool.not_true, Bool.or_false]

theorem swept (h : i.containerListError = none) (label : String) : i.Swept label := by
  obtain ⟨hleft, hdeleted, hfailed⟩ := i.run_of_listable h label
  have hcontainers : (Sweep.run engine label i).2.containers =
      i.containers.filter fun c => i.staying.contains c := by
    rw [hleft]
    exact containers_without
  have hstaying : (Sweep.run engine label i).2.staying = i.staying := by
    rw [hleft]
    rfl
  -- so what a second sweep lists has to stay, all of it
  have hstay (c : String) (hc : c ∈ (Sweep.run engine label i).2.containers) :
      i.staying.contains c = true := by
    rw [hcontainers] at hc
    exact (List.mem_filter.mp hc).2
  have hlistable : (Sweep.run engine label i).2.containerListError = none := by
    rw [hleft]
    exact h
  obtain ⟨hleft', hdeleted', hfailed'⟩ := run_of_listable hlistable label
  rw [hstaying] at hdeleted' hfailed'
  refine ⟨hcontainers, by rw [hleft]; rfl, hdeleted, hfailed, ⟨?_, ?_⟩, ?_⟩
  · rw [hdeleted', List.length_eq_zero_iff, List.filter_eq_nil_iff]
    intro c hc
    rw [hstay c hc]
    exact Bool.false_ne_true
  · rw [hfailed', hfailed, List.filter_eq_self.mpr hstay, hcontainers]
  · rw [hleft']
    exact without_eq_self _ fun c hc => by rw [← hstay c hc, ← hstaying]

end Inventory

/-- Every listed container is asked for and counted once, whatever came of the ones before it.  Of an
inventory that can be listed just those are left that cannot be removed. -/
theorem sweep_thorough (engine : Engine S) (label : String) (state : S) (i : Inventory)
    (h : i.containerListError = none) : Sweep.Thorough engine label state ∧ i.Swept label :=
  ⟨Sweep.thorough engine label state, i.swept h label⟩

/-- Containers of which two are listed twice, and one of these has to stay. -/
def stubborn : Inventory :=
  { containers := ["a", "b", "a", "c", "b"], staying := .ofList ["b"], deleted := ["z"] }

theorem sweep_thorough_stubborn :
    stubborn.containerListError = none ∧
      (Sweep.Thorough Inventory.engine fleetLabel stubborn ∧ stubborn.Swept fleetLabel) ∧
      (Sweep.run Inventory.engine fleetLabel stubborn).1.deleted = 3 ∧
      (Sweep.run Inventory.engine fleetLabel stubborn).1.failed = 2 ∧
      (Sweep.run Inventory.engine fleetLabel stubborn).2.containers = ["b", "b"] ∧
      (Sweep.run Inventory.engine fleetLabel stubborn).2.deleted = ["z", "a", "a", "c"] := by
  have hswept := sweep_thorough Inventory.engine fleetLabel stubborn stubborn rfl
  refine ⟨rfl, hswept, ?_, ?_, ?_, ?_⟩
  · rw [hswept.2.deleted]
    decide
  · rw [hswept.2.failed]
    decide
  · rw [hswept.2.left]
    decide
  · rw [hswept.2.recorded]
    decide

end Flotilla.Tools
