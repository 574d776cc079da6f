import Flotilla.Fleet.Stage

/-!
# Launching is all or nothing

Either every builder gives its controller, and the instance is there with all of them and with its
informers.  Or one fails, and then no builder after it is asked, the informers are not started and
the token of the instance is fired.  In both cases no other token is touched.

* `buildAll_cases`: the builders, by induction on them.
* `Launched`, `GivenUp`: the two ends.
* `start_all_or_nothing`: there is no third.
* `startAll_cases`: what this means for the builders of a launch.
* `create_start`: what the fleet sees of it.
-/

namespace Flotilla.Instance

open Metrics (Sink)

variable {C : Type}

/-! ## The builders -/

/-- The ground after some builders were asked and gave these controllers. -/
def Ground.built (g : Ground C) (token : Token) (sink : Sink) (bs : List (Build C)) (cs : List C) :
    Ground C :=
  { g with
    store := (bs.flatMap (·.writes)).foldl (sink.write g.cancellation) g.store
    asked := g.asked ++ bs.map (·.name)
    tasks := g.tasks ++ cs.map (·, token) }

theorem Ground.built_nil (g : Ground C) (token : Token) (sink : Sink) :
    g.built token sink [] [] = g := by
  simp [built]

/-- To ask some builders is to ask the first and then the others. -/
theorem Ground.built_cons (g : Ground C) (token : Token) (sink : Sink) (b : Build C) (c : C)
    (bs : List (Build C)) (cs : List C) :
    ((g.ask sink b).spawn c token).built token sink bs cs =
      g.built token sink (b :: bs) (c :: cs) := by
  simp [built, ask, spawn]

theorem Ground.built_singleton (g : Ground C) (token : Token) (sink : Sink) (b : Build C) :
    g.built token sink [b] [] = g.ask sink b := by
  simp [built, ask]

/-- The builders are asked until one fails. -/
theorem buildAll_cases (token : Token) (sink : Sink) (cluster : String) (builds : List (Build C))
    (g : Ground C) :
    (∃ cs, builds.map (·.result) = cs.map .ok ∧
      buildAll token sink cluster builds g = (.ok cs, g.built token sink builds cs)) ∨
    ∃ before b after cs failure, builds = before ++ b :: after ∧
      before.map (·.result) = cs.map .ok ∧ b.result = .error failure ∧
        buildAll token sink cluster builds g = (.error (failure.asInit b.name cluster),
          (g.built token sink (before ++ [b]) cs).fire token) := by
  -- each builder is asked on the ground that those before it left
  induction builds generalizing g with
  | nil => exact Or.inl ⟨[], rfl, by rw [Ground.built_nil, buildAll]⟩
  | cons b bs ih =>
    cases hb : b.result with
    | error failure =>
      refine Or.inr ⟨[], b, bs, [], failure, rfl, rfl, hb, ?_⟩
      simp only [buildAll, hb, List.nil_append, Ground.built_singleton]
    | ok c =>
      rcases ih ((g.ask sink b).spawn c token) with
        ⟨cs, hcs, heq⟩ | ⟨before, b', after, cs, failure, rfl, hcs, hb', heq⟩
      · refine Or.inl ⟨c :: cs, by rw [List.map_cons, List.map_cons, hb, hcs], ?_⟩
        simp only [buildAll, hb, heq, Ground.built_cons]
        rfl
      · refine Or.inr ⟨b :: before, b', after, c :: cs, failure, rfl, ?_, hb', ?_⟩
        · rw [List.map_cons, List.map_cons, hb, hcs]
        · simp only [buildAll, hb, heq, Ground.built_cons]
          rfl

/-! ## The instance -/

section

variable (parent : Token) (cluster : String) (builds : List (Build C)) (g : Ground C)

def tokenOf : Token := (g.child parent).1

def sinkOf : Sink := ⟨cluster, some (tokenOf parent g)⟩

/-- What was done with the tokens and the record, whether the instance was started or not. -/
structure Touched (bs : List (Build C)) (cs : List C) (g' : Ground C) : Prop where
  asked : g'.asked = g.asked ++ bs.map (·.name)
  tasks : g'.tasks = g.tasks ++ cs.map (·, tokenOf parent g)
  store : g'.store =
    (bs.flatMap (·.writes)).foldl ((sinkOf parent cluster g).write g.cancellation) g.store
  /-- The token is a new one. -/
  child : (tokenOf parent g).ancestors = parent.path
  fresh : ∀ t, g.cancellation.Knows t → (tokenOf parent g).number ∉ t.path
  /-- The parent is not touched, nor any other token that there was before. -/
  parent : g'.cancellation.isCancelled parent = g.cancellation.isCancelled parent
  others : ∀ t, g.cancellation.Knows t →
    g'.cancellation.isCancelled t = g.cancellation.isCancelled t

/-- The instance was started with all controllers. -/
structure Launched (cs : List C) (out : Except ControllerFailure (Started C) × Ground C) :
    Prop where
  all : builds.map (·.result) = cs.map .ok
  touched : Touched parent cluster g builds cs out.2
  handle : out.1 = .ok ⟨cluster, tokenOf parent g, cs⟩
  watches : out.2.watches = g.watches ++ resources.map (·, tokenOf parent g)
  /-- Its token is not fired, and until it is it is cancelled only with the parent. -/
  unfired : (tokenOf parent g).number ∉ out.2.cancellation.fired
  withParent : ∀ k : Cancellation, (tokenOf parent g).number ∉ k.fired →
    k.isCancelled (tokenOf parent g) = k.isCancelled parent

/-- The instance was given up at a builder that failed. -/
structure GivenUp (before : List (Build C)) (b : Build C) (cs : List C)
    (failure : ControllerFailure) (out : Except ControllerFailure (Started C) × Ground C) :
    Prop where
  built : before.map (·.result) = cs.map .ok
  fails : b.result = .error failure
  touched : Touched parent cluster g (before ++ [b]) cs out.2
  /-- A failure of the right kind is handed on, and any other is told in one. -/
  kept : ∀ c k r, failure = .controllerInit c k r → out.1 = .error failure
  told : (∀ c k r, failure ≠ .controllerInit c k r) →
    out.1 = .error (.controllerInit b.name cluster failure.message)
  watches : out.2.watches = g.watches
  cancelled : out.2.cancellation.isCancelled (tokenOf parent g) = true
  /-- From then on nothing is written through the sink. -/
  silent : ∀ k : Cancellation, (∀ n ∈ out.2.cancellation.fired, n ∈ k.fired) →
    ∀ m w, (sinkOf parent cluster g).write k m w = m

end

/-- A sink whose token is cancelled writes nothing. -/
theorem write_of_isCancelled {k : Cancellation} {cluster : String} {token : Token}
    (h : k.isCancelled token = true) (m : Metrics.Store) (w : Metrics.Write) :
    (⟨cluster, some token⟩ : Sink).write k m w = m := by
  cases w <;> simp [Sink.write, Sink.recordSync, Sink.setObjects, Sink.isLive, h]

section

variable {parent : Token} {cluster : String} {g : Ground C}

/-- What is asked and started on the way is all that is touched. -/
theorem touched_built (bs : List (Build C)) (cs : List C) :
    Touched parent cluster g bs cs
      ((g.child parent).2.built (tokenOf parent g) (sinkOf parent cluster g) bs cs) where
  asked := rfl
  tasks := rfl
  store := rfl
  child := rfl
  fresh _ ht := ht.child_fresh parent
  parent := rfl
  others _ _ := rfl

theorem Touched.watch {bs : List (Build C)} {cs : List C} {g' : Ground C}
    (h : Touched parent cluster g bs cs g') (token : Token) :
    Touched parent cluster g bs cs (g'.watch token) := { h with }

theorem Touched.fire {bs : List (Build C)} {cs : List C} {g' : Ground C}
    (h : Touched parent cluster g bs cs g') (hparent : g.cancellation.Knows parent) :
    Touched parent cluster g bs cs (g'.fire (tokenOf parent g)) := by
  have hothers (t : Token) (ht : g.cancellation.Knows t) :
      (g'.fire (tokenOf parent g)).cancellation.isCancelled t = g.cancellation.isCancelled t := by
    rw [Ground.fire, Cancellation.isCancelled_fire_of_not_mem (h.fresh t ht), h.others t ht]
  exact { h with parent := hothers parent hparent, others := hothers }

theorem start_of_ok {builds : List (Build C)} {cs : List C} {g' : Ground C}
    (h : buildAll (tokenOf parent g) (sinkOf parent cluster g) cluster builds (g.child parent).2 =
      (.ok cs, g')) :
    start parent cluster builds g =
      (.ok ⟨cluster, tokenOf parent g, cs⟩, g'.watch (tokenOf parent g)) := by
  simp only [tokenOf, sinkOf] at h
  simp only [start, tokenOf, h]

theorem start_of_error {builds : List (Build C)} {failure : ControllerFailure} {g' : Ground C}
    (h : buildAll (tokenOf parent g) (sinkOf parent cluster g) cluster builds (g.child parent).2 =
      (.error failure, g')) :
    start parent cluster builds g = (.error failure, g') := by
  simp only [tokenOf, sinkOf] at h
  simp only [start, h]

theorem launched (hsound : g.cancellation.Sound) {builds : List (Build C)} {cs : List C}
    (hcs : builds.map (·.result) = cs.map .ok)
    (h : buildAll (tokenOf parent g) (sinkOf parent cluster g) cluster builds (g.child parent).2 =
      (.ok cs, (g.child parent).2.built (tokenOf parent g) (sinkOf parent cluster g) builds cs)) :
    Launched parent cluster builds g cs (start parent cluster builds g) := by
  rw [start_of_ok h]
  exact {
    all := hcs
    touched := (touched_built builds cs).watch _
    handle := rfl
    watches := rfl
    unfired := hsound.child_fresh parent
    withParent := fun k hk => Cancellation.isCancelled_child_eq k hk }

theorem givenUp (hparent : g.cancellation.Knows parent) {builds before : List (Build C)}
    {b : Build C} {cs : List C} {failure : ControllerFailure}
    (hcs : before.map (·.result) = cs.map .ok) (hb : b.result = .error failure)
    (h : buildAll (tokenOf parent g) (sinkOf parent cluster g) cluster builds (g.child parent).2 =
      (.error (failure.asInit b.name cluster), ((g.child parent).2.built (tokenOf parent g)
        (sinkOf parent cluster g) (before ++ [b]) cs).fire (tokenOf parent g))) :
    GivenUp parent cluster g before b cs failure (start parent cluster builds g) := by
  rw [start_of_error h]
  have hcancelled (c : Cancellation) :
      (c.fire (tokenOf parent g)).isCancelled (tokenOf parent g) = true :=
    Cancellation.isCancelled_fire.mpr (Or.inl List.mem_cons_self)
  refine ⟨hcs, hb, (touched_built (before ++ [b]) cs).fire hparent, ?kept, ?told, rfl,
    hcancelled _, ?silent⟩
  case kept =>
    rintro c k r rfl
    rfl
  case told =>
    intro hother
    cases failure with
    | controllerInit c k r => exact absurd rfl (hother c k r)
    | _ => rfl
  case silent =>
    intro k hk m w
    exact write_of_isCancelled (Cancellation.isCancelled_mono hk (hcancelled _)) m w

end

/-- An instance is started with all its controllers, or it is given up at the first builder that
fails. -/
theorem start_all_or_nothing (parent : Token) (cluster : String) (builds : List (Build C))
    (g : Ground C) (hsound : g.cancellation.Sound) (hparent : g.cancellation.Knows parent) :
    (∃ cs, Launched parent cluster builds g cs (start parent cluster builds g)) ∨
    ∃ before b after cs failure, builds = before ++ b :: after ∧
      GivenUp parent cluster g before b cs failure (start parent cluster builds g) := by
  rcases buildAll_cases (tokenOf parent g) (sinkOf parent cluster g) cluster builds
    (g.child parent).2 with ⟨cs, hcs, heq⟩ | ⟨before, b, after, cs, failure, hbuilds, hcs, hb, heq⟩
  · exact Or.inl ⟨cs, launched hsound hcs heq⟩
  · exact Or.inr ⟨before, b, after, cs, failure, hbuilds, givenUp hparent hcs hb heq⟩

/-- A token, with a child. -/
def trialGround : Ground String :=
  { cancellation := ((Cancellation.root {}).2.child (Cancellation.root {}).1).2 }

/-- The second of three builders fails. -/
def trialBuilds : List (Build String) :=
  [{ name := "service", writes := [.objects "service" 0], result := .ok "service" },
    { name := "failing", result := .error (.invalidConfig "no") },
    { name := "node", result := .ok "node" }]

theorem start_all_or_nothing_trial :
    trialGround.cancellation.Sound ∧ trialGround.cancellation.Knows ⟨0, []⟩ ∧
      ((∃ cs, Launched ⟨0, []⟩ "alpha" trialBuilds trialGround cs
          (start ⟨0, []⟩ "alpha" trialBuilds trialGround)) ∨
        ∃ before b after cs failure, trialBuilds = before ++ b :: after ∧
          GivenUp ⟨0, []⟩ "alpha" trialGround before b cs failure
            (start ⟨0, []⟩ "alpha" trialBuilds trialGround)) ∧
      (start ⟨0, []⟩ "alpha" trialBuilds trialGround).1 =
        .error (.controllerInit "failing" "alpha" "Invalid configuration: no") ∧
      (start ⟨0, []⟩ "alpha" trialBuilds trialGround).2.tasks = [("service", ⟨2, [0]⟩)] := by
  have hsound : trialGround.cancellation.Sound := by
    intro n hn
    simp [trialGround, Cancellation.root, Cancellation.child] at hn
  have hparent : trialGround.cancellation.Knows ⟨0, []⟩ := by
    intro n hn
    obtain rfl := List.mem_singleton.mp hn
    decide
  exact ⟨hsound, hparent, start_all_or_nothing _ _ _ _ hsound hparent, rfl, rfl⟩

/-! ## Launches -/

theorem Builder.build_eq_ok {cluster : String} {b c : Builder} :
    (b.build cluster).result = .ok c ↔ c = b ∧ b.fault cluster = none := by
  unfold build
  cases b.fault cluster <;> simp [eq_comm]

theorem Builder.build_eq_error {cluster : String} {b : Builder} {failure : ControllerFailure} :
    (b.build cluster).result = .error failure ↔ b.fault cluster = some failure := by
  unfold build
  cases b.fault cluster <;> simp

@[simp] theorem Builder.name_build (cluster : String) (b : Builder) :
    (b.build cluster).name = b.name := by
  unfold build
  cases b.fault cluster <;> rfl

/-- The controllers that builders give are their own. -/
theorem built_eq {cluster : String} {bs cs : List Builder}
    (h : (bs.map (·.build cluster)).map (·.result) = cs.map .ok) :
    cs = bs ∧ ∀ b ∈ bs, b.fault cluster = none := by
  induction bs generalizing cs with
  | nil =>
    cases cs with
    | nil => exact ⟨rfl, nofun⟩
    | cons c cs => cases h
  | cons b bs ih =>
    cases cs with
    | nil => cases h
    | cons c cs =>
      simp only [List.map_cons, List.cons.injEq] at h
      obtain ⟨rfl, hb⟩ := Builder.build_eq_ok.mp h.1
      obtain ⟨rfl, hbs⟩ := ih h.2
      exact ⟨rfl, by simpa using ⟨hb, hbs⟩⟩

/-- A launch starts all controllers, or those before the first that cannot be built. -/
theorem startAll_cases (cluster : String) (builders : List Builder) :
    (startAll cluster builders = (builders, none) ∧ ∀ b ∈ builders, b.fault cluster = none) ∨
    ∃ before b after failure, builders = before ++ b :: after ∧
      (∀ x ∈ before, x.fault cluster = none) ∧ b.fault cluster = some failure ∧
        startAll cluster builders = (before, some (failure.asInit b.name cluster)) := by
  let parent := (Cancellation.root {}).1
  let g : Ground Builder := { cancellation := (Cancellation.root {}).2 }
  rcases buildAll_cases (tokenOf parent g) (sinkOf parent cluster g) cluster
    (builders.map (·.build cluster)) (g.child parent).2 with
    ⟨cs, hcs, heq⟩ | ⟨before, b, after, cs, failure, hbuilds, hcs, hb, heq⟩
  · obtain ⟨rfl, hall⟩ := built_eq hcs
    refine Or.inl ⟨?_, hall⟩
    simp only [startAll]
    rw [start_of_ok heq]
    simp [g, Ground.watch, Ground.built, Ground.child, Function.comp_def]
  · obtain ⟨before, rest, rfl, rfl, hrest⟩ := List.map_eq_append_iff.mp hbuilds
    obtain ⟨b, after, rfl, rfl, rfl⟩ := List.map_eq_cons_iff.mp hrest
    obtain ⟨rfl, hall⟩ := built_eq hcs
    refine Or.inr ⟨cs, b, after, failure, rfl, hall, Builder.build_eq_error.mp hb, ?_⟩
    simp only [startAll]
    rw [start_of_error heq]
    simp [g, Ground.fire, Ground.built, Ground.child, Function.comp_def]

/-! ## The fleet -/

/-- What starting an instance does to the metrics and the tokens of a fleet is what the fleet sees
of it: it sees the writes of the builders that were asked, and whether there is an instance. -/
theorem create_eq_start (s : Fleet.Stage) (cluster : String) (builds : List (Build C))
    {a : Attempt} {g : Ground C} {out : Except ControllerFailure (Started C)}
    (h : start s.process cluster builds { store := s.store, cancellation := s.cancellation } =
      (out, g))
    (hwrites : a.writes = (builds.take g.asked.length).flatMap (·.writes))
    (hfailure : ∀ failure, a.failure = some failure ↔ out = .error failure) :
    (s.create cluster a).2.store = g.store ∧
      (s.create cluster a).2.cancellation = g.cancellation ∧
        (s.create cluster a).1 = out.map (·.token) := by
  let ground : Ground C := { store := s.store, cancellation := s.cancellation }
  rcases buildAll_cases (tokenOf s.process ground) (sinkOf s.process cluster ground) cluster builds
    (ground.child s.process).2 with
    ⟨cs, hcs, heq⟩ | ⟨before, b, after, cs, failure, rfl, hcs, hb, heq⟩
  · have hstart := (start_of_ok heq).symm.trans h
    cases hstart
    have hnone : a.failure = none :=
      Option.eq_none_iff_forall_ne_some.mpr fun f hf => nomatch (hfailure f).mp hf
    -- all builders were asked, so the fleet sees the writes of all
    have hall : a.writes = builds.flatMap (·.writes) := by
      simpa [Ground.watch, Ground.built, Ground.child, ground] using hwrites
    simp only [Fleet.Stage.create, hnone]
    refine ⟨?_, rfl, rfl⟩
    simp only [Fleet.Stage.build, hall]
    rfl
  · have hstart := (start_of_error heq).symm.trans h
    cases hstart
    have hsome := (hfailure _).mpr rfl
    -- those after the one that failed were not
    have hall : a.writes = (before ++ [b]).flatMap (·.writes) := by
      simpa [Ground.fire, Ground.built, Ground.child, ground, List.take_length_add_append]
        using hwrites
    simp only [Fleet.Stage.create, hsome]
    refine ⟨?_, rfl, rfl⟩
    simp only [Fleet.Stage.build, hall]
    rfl

end Flotilla.Instance
