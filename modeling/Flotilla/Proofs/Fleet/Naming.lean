import Flotilla.Fleet.Controller
import Flotilla.Proofs.Fleet.Moves
import Flotilla.Proofs.Instance.Launching
import Flotilla.Proofs.Instance.Reasons
import Flotilla.Proofs.Text.Decoding
import Flotilla.Proofs.Text.Entries

/-!
# The names of the clusters

A controller takes the names of the clusters from the lines of a tool's output, so none of them is
empty.  The service controller can be built for every cluster that has a name, and the node
controller for every cluster.  So no instance is given up because a controller cannot be built.

* `Scene.Controlled`: what a controller meets.
* `Named`: what its run shows of the names.
* `Orderly`: the invariant, kept by every move (`Orderly.move`) and so by every cycle
  (`Orderly.round`).
* `clusters_named`: `Named` holds of every run.
-/

namespace Flotilla

open Std (ExtTreeSet)
open Text (Entry)
open Time (Moment)

/-- The failure of a controller that cannot be built. -/
def ControllerFailure.IsInit : ControllerFailure → Prop
  | .controllerInit _ _ _ => True
  | _ => False

/-! ## Searches, launches and creations -/

/-- A search for a client fails in two ways only. -/
theorem Bootstrap.searchFrom_error {site : Site} {policy : Retry.Policy} {shutdown : Option Moment}
    {cluster : String} {endpoints : List Endpoint} {earlier : List String} {start : Moment}
    {s : Search} {failure : ControllerFailure}
    (h : searchFrom site policy shutdown cluster endpoints earlier start = some s)
    (hf : s.outcome = .error failure) :
    failure = .cancelled ∨ failure = .noWorkingClient cluster := by
  induction endpoints generalizing earlier start s with
  | nil =>
    cases h
    cases hf
    exact Or.inr rfl
  | cons endpoint rest ih =>
    simp only [searchFrom] at h
    split at h
    · cases h
      cases hf
      exact Or.inl rfl
    · split at h
      · cases h
      · split at h
        · -- the endpoint works
          cases h
          cases hf
        · -- its try was cut short
          cases h
          cases hf
          exact Or.inl rfl
        · obtain ⟨s', hs', rfl⟩ := Option.map_eq_some_iff.mp h
          exact ih hs' hf

namespace Instance

/-- The service controller is refused to a cluster without a name, and to no other. -/
theorem Builder.service_fault {cluster : String} {failure : ControllerFailure} :
    Builder.service.fault cluster = some failure ↔
      cluster = "" ∧ failure = .controllerInit "service" "" "cluster name is required" := by
  dsimp only [fault]
  split
  · next hempty =>
    rw [String.isEmpty_iff] at hempty
    simp only [hempty, Option.some.injEq, true_and]
    exact eq_comm
  · next hname =>
    rw [String.isEmpty_iff] at hname
    simp only [hname, false_and, reduceCtorEq]

theorem Builder.service_fault_of_name {cluster : String} (hname : Entry cluster) :
    Builder.service.fault cluster = none :=
  Option.eq_none_iff_forall_ne_some.mpr fun _ hf => hname.nonempty (service_fault.mp hf).1

theorem startAll_of_buildable {cluster : String} {builders : List Builder}
    (h : ∀ b ∈ builders, b.fault cluster = none) :
    startAll cluster builders = (builders, none) := by
  rcases startAll_cases cluster builders with
    ⟨heq, -⟩ | ⟨before, b, after, failure, rfl, -, hfails, -⟩
  · exact heq
  · rw [h b (List.mem_append_right before List.mem_cons_self)] at hfails
    cases hfails

section

variable {plan : Plan} {client : AdminClient} {world : Apiserver.World} {start : Moment}
  {shutdown : Option Moment} {l : Launch}

theorem Launch.client_of_run (h : Launch.run plan client world start shutdown = some l) :
    l.client = client := by
  obtain ⟨r, -, rfl⟩ := Option.map_eq_some_iff.mp h
  dsimp only
  split <;> rfl

/-- A launch is not given up for a controller if all of them can be built. -/
theorem Launch.not_isInit (h : Launch.run plan client world start shutdown = some l)
    (hbuildable : ∀ b ∈ plan.builders, b.fault client.cluster = none)
    {failure : ControllerFailure} (hf : l.failure = some failure) : ¬ failure.IsInit := by
  obtain ⟨r, -, rfl⟩ := Option.map_eq_some_iff.mp h
  cases ho : r.outcome with
  | error why =>
    cases why <;>
    · simp only [ho, Option.some.injEq] at hf
      subst hf
      exact id
  | ok n =>
    simp only [ho, startAll_of_buildable hbuildable] at hf
    cases hf

/-- A launch for a cluster that has a name. -/
structure Launch.Named (l : Launch) : Prop where
  name : Entry l.client.cluster
  /-- The service controller is not refused for want of a name. -/
  fault : Builder.service.fault l.client.cluster = none
  /-- The launch may fail, but all controllers can be built. -/
  failure : ∀ failure, l.failure = some failure → ¬ failure.IsInit

theorem Launch.named (hbuilders : plan.builders = [.service, .node])
    (hname : Entry client.cluster) (h : Launch.run plan client world start shutdown = some l) :
    l.Named := by
  have hclient := Launch.client_of_run h
  have hfault := Builder.service_fault_of_name hname
  have hbuildable : ∀ b ∈ plan.builders, b.fault client.cluster = none := by
    rw [hbuilders]
    exact List.forall_mem_cons.mpr ⟨hfault, List.forall_mem_singleton.mpr rfl⟩
  exact {
    name := hclient ▸ hname
    fault := hclient ▸ hfault
    failure := fun _ => Launch.not_isInit h hbuildable }

end

/-- A creation may fail in its search for a client and in its launch, and in neither for a
controller. -/
theorem Factory.create_named {f : Factory} (hbuilders : f.plan.builders = [.service, .node])
    {cluster : String} (hname : Entry cluster) {start : Moment} {shutdown : Option Moment}
    {c : Creation} (h : f.create cluster start shutdown = some c) :
    (∀ l, c.launch = some l → l.Named) ∧
      ∀ failure, c.outcome = .error failure → ¬ failure.IsInit := by
  unfold create at h
  split at h
  · cases h
  · next search hsearch =>
    split at h
    · next e he =>
      cases h
      refine ⟨fun l hl => (by cases hl), fun failure hf => ?_⟩
      simp only [Creation.outcome, he, Except.error.injEq] at hf
      subst hf
      rcases Bootstrap.searchFrom_error hsearch he with rfl | rfl <;> exact id
    · next client hok =>
      obtain ⟨l, hl, rfl⟩ := Option.map_eq_some_iff.mp h
      obtain rfl := (Bootstrap.searchFrom_outcome hsearch).2 client hok
      have hnamed := Launch.named hbuilders hname hl
      refine ⟨fun l' heq => (by cases heq; exact hnamed), fun failure hf => ?_⟩
      cases hlf : l.failure with
      | none => simp [Creation.outcome, hok, hlf] at hf
      | some e =>
        simp only [Creation.outcome, hok, hlf, Except.error.injEq] at hf
        subst hf
        exact hnamed.failure e hlf

end Instance

namespace Fleet

/-- The clusters that a step names. -/
def Step.clusters {H : Type} : Step H → List String
  | .listingFailed _ | .completed _ => []
  | .discovered names => names
  | .asked c | .launched c _ | .launchFailed c _ | .abandoned c | .stopped c _ | .forgotten c => [c]

/-- What a controller meets: every listing is one of a tool, and instances have the controllers of a
fleet. -/
structure Scene.Controlled (s : Scene) : Prop where
  /-- The tool may answer otherwise at another time. -/
  listing : ∀ now listed, ∃ (kind : Tools.Kind) (machine : Tools.Machine),
    ({ s with now, listed } : Scene).listing.answer = kind.clusters machine
  making : ∃ factory, s.making = .created factory ∧
    ∀ n, (factory n).plan.builders = [.service, .node]

/-- What a run shows of the names of the clusters. -/
structure Named (s : Scene) (r : Roster Handle) : Prop where
  steps : ∀ t step, (t, step) ∈ s.steps → ∀ c ∈ step.clusters, Entry c
  /-- The loop is never told that a controller cannot be built. -/
  failures : ∀ t c failure, (t, .launchFailed c failure) ∈ s.steps → ¬ failure.IsInit
  launches : ∀ n l, (n, l) ∈ s.launches → l.Named
  roster : ∀ c, c ∈ r.instances ∨ c ∈ r.failed → Entry c

/-- The names that a tool gives are entries. -/
theorem entry_of_clusters {kind : Tools.Kind} {machine : Tools.Machine} {names : List String}
    (h : kind.clusters machine = .ok names) {c : String} (hc : c ∈ names) : Entry c := by
  unfold Tools.Kind.clusters at h
  cases ha : machine.ask kind.binary Tools.Kind.listArgs with
  | error failure =>
    rw [ha] at h
    cases h
  | ok text =>
    rw [ha] at h
    cases h
    exact Text.entry_of_mem hc

/-! ## What a move keeps -/

/-- The invariant of a run: what is known of the names, in what a controller meets. -/
structure Orderly (s : Scene) (r : Roster Handle) : Prop extends Named s r where
  controlled : s.Controlled

/-- The same is laid down, and the same was done. -/
structure Scene.Alike (s s' : Scene) : Prop where
  making : s'.making = s.making
  script : s'.script = s.script
  changes : s'.changes = s.changes
  listings : s'.listings = s.listings
  steps : s'.steps = s.steps
  launches : s'.launches = s.launches

variable {s s' : Scene} {r : Roster Handle}

namespace Scene

theorem Controlled.same (h : s.Controlled) (hmaking : s'.making = s.making)
    (hscript : s'.script = s.script) (hchanges : s'.changes = s.changes)
    (hlistings : s'.listings = s.listings) : s'.Controlled where
  making := by
    rw [hmaking]
    exact h.making
  listing now listed := by
    have hsame : ({ s' with now, listed } : Scene).listing =
        ({ s with now, listed } : Scene).listing := by
      simp only [Scene.listing, scriptAt, hscript, hchanges, hlistings]
    rw [hsame]
    exact h.listing now listed

theorem alike_say (s : Scene) (lines : List LogLine) : s.Alike (s.say lines) := by
  unfold say
  split <;> exact ⟨rfl, rfl, rfl, rfl, rfl, rfl⟩

theorem alike_rest (interval : Nat) (s : Scene) : s.Alike (s.rest interval) := by
  unfold rest
  split <;> exact ⟨rfl, rfl, rfl, rfl, rfl, rfl⟩

theorem alike_close (s : Scene) : s.Alike s.close := by
  unfold close
  split <;> exact ⟨rfl, rfl, rfl, rfl, rfl, rfl⟩

/-- A listing answers what is laid down for it. -/
theorem list_spec (s : Scene) : s.list.2.1 = s.listing.answer ∧ s.Alike s.list.2.2 := by
  unfold list
  dsimp only
  split <;> exact ⟨rfl, rfl, rfl, rfl, rfl, rfl, rfl⟩

end Scene

namespace Orderly

theorem alike (h : Orderly s r) (ha : s.Alike s') : Orderly s' r where
  steps := ha.steps ▸ h.steps
  failures := ha.steps ▸ h.failures
  launches := ha.launches ▸ h.launches
  roster := h.roster
  controlled := h.controlled.same ha.making ha.script ha.changes ha.listings

theorem note (h : Orderly s r) {step : Step Handle} (hclusters : ∀ c ∈ step.clusters, Entry c)
    (hfailure : ∀ c failure, step = .launchFailed c failure → ¬ failure.IsInit) :
    Orderly (Scene.surroundings.note step s) r := by
  have hnoted : Orderly { s with steps := s.steps ++ [(s.now, step)] } r := {
    steps := fun t step' hmem => by
      rcases List.mem_append.mp hmem with hmem | hmem
      · exact h.steps t step' hmem
      · cases List.mem_singleton.mp hmem
        exact hclusters
    failures := fun t c failure hmem => by
      rcases List.mem_append.mp hmem with hmem | hmem
      · exact h.failures t c failure hmem
      · exact hfailure c failure (congrArg Prod.snd (List.mem_singleton.mp hmem)).symm
    launches := h.launches
    roster := h.roster
    controlled := h.controlled.same rfl rfl rfl rfl }
  show Orderly (s.note step) r
  unfold Scene.note
  split
  · exact h
  · exact hnoted.alike (Scene.alike_say _ _)

theorem launch (h : Orderly s r) {c : String} (hname : Entry c) (x : Handle) :
    Orderly s (r.launch c x) := by
  refine { h with roster := fun k hk => ?_ }
  rw [Roster.mem_instances_launch, Roster.mem_failed_launch] at hk
  rcases hk with (rfl | hk) | ⟨-, hk⟩
  · exact hname
  · exact h.roster k (Or.inl hk)
  · exact h.roster k (Or.inr hk)

theorem fail (h : Orderly s r) {c : String} (hname : Entry c) : Orderly s (r.fail c) := by
  refine { h with roster := fun k hk => ?_ }
  rw [Roster.mem_failed_fail] at hk
  rcases hk with hk | rfl | hk
  · exact h.roster k (Or.inl hk)
  · exact hname
  · exact h.roster k (Or.inr hk)

theorem stop (h : Orderly s r) (c : String) : Orderly s (r.stop c) := by
  refine { h with roster := fun k hk => ?_ }
  rw [Roster.mem_instances_stop] at hk
  exact h.roster k (hk.imp_left And.right)

theorem forget (h : Orderly s r) (c : String) : Orderly s (r.forget c) := by
  refine { h with roster := fun k hk => ?_ }
  rw [Roster.mem_failed_forget] at hk
  exact h.roster k (hk.imp_right And.right)

/-- A creation for a cluster that has a name may fail, but not for a controller. -/
theorem create (h : Orderly s r) {c : String} (hname : Entry c) :
    Orderly (s.create c).2 r ∧ ∀ failure, (s.create c).1 = .error failure → ¬ failure.IsInit := by
  obtain ⟨factory, hmaking, hbuilders⟩ := h.controlled.making
  have hcreate : s.create c =
      Scene.makeCreated (factory s.next) s.next c { s with next := s.next + 1 } := by
    simp only [Scene.create, hmaking]
  have hnext : Orderly { s with next := s.next + 1 } r := h.alike ⟨rfl, rfl, rfl, rfl, rfl, rfl⟩
  rw [hcreate, Scene.makeCreated]
  split
  · -- a creation that never ends
    refine ⟨hnext.alike ⟨rfl, rfl, rfl, rfl, rfl, rfl⟩, ?_⟩
    rintro _ ⟨⟩
    exact id
  · next creation hcreation =>
    obtain ⟨hlaunch, hfailure⟩ := Instance.Factory.create_named (hbuilders s.next) hname hcreation
    have hmade : Orderly { s with
        next := s.next + 1
        now := creation.ended
        launches := s.launches ++ (creation.launch.map fun launch => (s.next, launch)).toList
        requests := s.requests ++ requestsOf c creation } r := by
      refine { hnext with
        launches := fun n l hmem => ?_
        controlled := hnext.controlled.same rfl rfl rfl rfl }
      rcases List.mem_append.mp hmem with hmem | hmem
      · exact h.launches n l hmem
      · obtain ⟨_, heq, hpair⟩ := Option.map_eq_some_iff.mp (Option.mem_toList.mp hmem)
        cases hpair
        exact hlaunch l heq
    dsimp only
    split
    · next failure houtcome =>
      refine ⟨hmade, ?_⟩
      rintro _ ⟨⟩
      exact hfailure failure houtcome
    · exact ⟨hmade, nofun⟩

/-- What is known of the names is kept by every move. -/
theorem move {listed : ExtTreeSet String} (hlisted : ∀ c ∈ listed, Entry c)
    {p q : Progress Scene Handle} (hm : Move Scene.surroundings listed p q)
    (h : Orderly p.scene p.roster) : Orderly q.scene q.roster := by
  have created {c : String} {out : Except ControllerFailure Handle} {s : Scene}
      (answer : Scene.surroundings.create c (Scene.surroundings.note (.asked c) p.scene) = (out, s))
      (hc : c ∈ listed) :
      Orderly s p.roster ∧ ∀ failure, out = .error failure → ¬ failure.IsInit := by
    have hasked : Orderly (Scene.surroundings.note (.asked c) p.scene) p.roster :=
      h.note (List.forall_mem_singleton.mpr (hlisted c hc)) nofun
    have hcreate := hasked.create (hlisted c hc)
    rwa [show Scene.create c (Scene.surroundings.note _ p.scene) = _ from answer] at hcreate
  cases hm with
  | listingFailed fault => exact h.note nofun nofun
  | discovered => exact h.note (fun c hc => hlisted c (ExtTreeSet.mem_toList.mp hc)) nofun
  | launched isListed isMissing answer =>
    have hname := hlisted _ isListed
    exact ((created answer isListed).1.launch hname _).note (List.forall_mem_singleton.mpr hname)
      nofun
  | launchFailed isListed isMissing isReal answer =>
    have hname := hlisted _ isListed
    obtain ⟨hmade, hfailure⟩ := created answer isListed
    refine (hmade.fail hname).note (List.forall_mem_singleton.mpr hname) ?_
    rintro _ _ ⟨⟩
    exact hfailure _ rfl
  | abandoned isListed isMissing isCut answer =>
    have hname := hlisted _ isListed
    exact (created answer isListed).1.note (List.forall_mem_singleton.mpr hname) nofun
  | stopped isManaged isGone =>
    have hname := h.roster _ (Or.inl ((Roster.mem_instances_iff _).mpr ⟨_, isManaged⟩))
    exact (h.stop _).note (List.forall_mem_singleton.mpr hname) nofun
  | forgotten isFailed isGone =>
    have hname := h.roster _ (Or.inr isFailed)
    exact (h.forget _).note (List.forall_mem_singleton.mpr hname) nofun
  | completed => exact h.note nofun nofun

/-! ## What a run keeps -/

/-- A cycle deals with clusters that the tool has listed and with those it knows already. -/
theorem round (h : Orderly s r) : Orderly (s.round r).scene (s.round r).roster := by
  obtain ⟨hanswer, halike⟩ := s.list_spec
  obtain ⟨kind, machine, hlisting⟩ := h.controlled.listing s.now s.listed
  have keep (listed : ExtTreeSet String)
      (hlisted : ∀ c ∈ listed, ∃ names, s.list.2.1 = .ok names ∧ c ∈ names)
      (p q : Progress Scene Handle) (hm : Move Scene.surroundings listed p q) :
      Orderly p.scene p.roster → Orderly q.scene q.roster := by
    refine move (fun c hc => ?_) hm
    obtain ⟨names, hnames, hmem⟩ := hlisted c hc
    exact entry_of_clusters (hlisting.symm.trans (hanswer.symm.trans hnames)) hmem
  have hcycle := cycle_keeps_listed (P := fun p => Orderly p.scene p.roster) keep s.list.1
    s.list.2.2 r (h.alike halike)
  exact (hcycle.alike (Scene.alike_say _ _)).alike (Scene.alike_close _)

theorem cycles (interval fuel : Nat) (h : Orderly s r) :
    Orderly (s.cycles interval fuel r).1 (s.cycles interval fuel r).2 := by
  induction fuel generalizing s r with
  | zero => exact h
  | succ fuel ih =>
    unfold Scene.cycles
    split
    · exact h
    · exact ih (h.round.alike (Scene.alike_rest interval _))

theorem runFor (interval fuel : Nat) (h : Orderly s {}) :
    Orderly (s.runFor interval fuel).1 (s.runFor interval fuel).2 :=
  ((h.alike (Scene.alike_say s _)).cycles interval fuel).alike (Scene.alike_say _ _)

end Orderly

/-- A scene in which nothing has been done yet shows nothing of the names. -/
theorem named_start (hsteps : s.steps = []) (hlaunches : s.launches = []) : Named s {} where
  steps := by simp [hsteps]
  failures := by simp [hsteps]
  launches := by simp [hlaunches]
  roster := by simp

theorem controlled_sceneFor (config : Config) (around : Surrounding) (cycles : Nat) :
    (sceneFor config around cycles).Controlled where
  listing _ _ := ⟨{ binary := config.kindBinary }, around.machine, Script.listing_ofListing _⟩
  making := ⟨_, rfl, fun _ => rfl⟩

/-- What is known of the lines of texts and, because of that, of the names of the clusters. -/
theorem clusters_named :
    Text.LineLaws ∧
      (∀ (kind : Tools.Kind) (machine : Tools.Machine) (names : List String),
        kind.clusters machine = .ok names → ∀ c ∈ names, Entry c) ∧
      (∀ s : Scene, s.Controlled → s.steps = [] → s.launches = [] → ∀ interval fuel,
        Named (s.runFor interval fuel).1 (s.runFor interval fuel).2) ∧
      ∀ config around cycles, Named (runController config around cycles).scene
        (runController config around cycles).roster := by
  have hruns (s : Scene) (hcontrolled : s.Controlled) (hsteps : s.steps = [])
      (hlaunches : s.launches = []) (interval fuel : Nat) :
      Named (s.runFor interval fuel).1 (s.runFor interval fuel).2 :=
    (Orderly.runFor interval fuel ⟨named_start hsteps hlaunches, hcontrolled⟩).toNamed
  refine ⟨Text.lineLaws, fun _ _ _ h _ => entry_of_clusters h, hruns, ?_⟩
  intro config around cycles
  exact hruns _ (controlled_sceneFor config around cycles) rfl rfl _ cycles

/-- What the tool lists when it writes a text. -/
def printed (text : String) : Except CommandFailure (List String) :=
  Tools.Kind.clusters {} fun _ _ => .ok { stdout := Text.encode text }

theorem printed_eq (text : String) : printed text = .ok (Text.nonEmptyLines text) := by
  have hdecode : Text.decode (Text.encode text) = .ok text := Text.decode_eq_ok_iff.mpr rfl
  simp [printed, Tools.Kind.clusters, Tools.Machine.ask, Tools.answer, Tools.Status.succeeded,
    hdecode, Except.map]

/-- Two clusters are listed at first, and later only one of them. -/
def vanishing : Scene where
  making := .created fun _ =>
    { site := fun _ =>
        { fetch := fun _ => { kubeconfig := some "" }
          target := fun _ => some { server := "https://localhost:6443", buildable := true }
          probe := fun _ _ _ => { ready := true, takes := some 0 } }
      world := fun _ => {} }
  script := {}
  changes := []
  firesAt := none
  firesAfter := some 2
  listings := some fun n =>
    { answer := printed (if n = 0 then " alpha \r\n\nbeta\n" else "beta") }

theorem clusters_named_vanishing :
    printed " alpha \r\n\nbeta\n" = .ok ["alpha", "beta"] ∧ vanishing.Controlled ∧
      vanishing.steps = [] ∧ vanishing.launches = [] ∧
        Named (vanishing.runFor 1 2).1 (vanishing.runFor 1 2).2 := by
  have hlisted : printed " alpha \r\n\nbeta\n" = .ok ["alpha", "beta"] := by
    rw [printed_eq]
    decide
  have hcontrolled : vanishing.Controlled :=
    ⟨fun _ _ => ⟨_, _, rfl⟩, ⟨_, rfl, fun _ => rfl⟩⟩
  exact ⟨hlisted, hcontrolled, rfl, rfl, clusters_named.2.2.1 vanishing hcontrolled rfl rfl 1 2⟩

end Fleet

end Flotilla
