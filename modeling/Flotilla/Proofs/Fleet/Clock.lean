import Flotilla.Fleet.Run
import Flotilla.Proofs.Fleet.Moves
import Flotilla.Proofs.Instance.Waits

/-!
# What a cycle does to the clock

Whatever a cycle does, it lists the clusters at the moment at which it begins and goes on from
there, and what it asks for after that are creations (`Scene.rounded`).  The token may fire in the
meantime, but one that has fired stays so (`Scene.Forward.fired`).

A loop hangs in a cycle whose creation never ends.  Where every creation comes to an end none does
(`Making.Ends`, `Scene.Forward.unhung`).
-/

namespace Flotilla

open Std (ExtTreeSet)
open Time (Moment)

/-! ## Creations -/

namespace Bootstrap

variable {site : Site} {policy : Retry.Policy} {shutdown : Option Moment} {cluster : String}

/-- The kubeconfigs are fetched while the search goes on. -/
theorem fetches_within {endpoints : List Endpoint} {earlier : List String} {start : Moment}
    {s : Search} (h : searchFrom site policy shutdown cluster endpoints earlier start = some s) :
    start ≤ s.ended ∧
      ∀ x ∈ s.calls, x.2.fetch?.isSome → start ≤ x.1 ∧ x.1 ≤ s.ended := by
  induction endpoints generalizing earlier start s with
  | nil =>
    cases h
    exact ⟨Nat.le_refl start, fun x hx => by cases hx⟩
  | cons endpoint rest ih =>
    simp only [searchFrom] at h
    split at h
    · cases h
      exact ⟨Nat.le_refl start, fun x hx => by cases hx⟩
    · next hopen =>
      have hstart (T : Moment) (hT : shutdown = some T) : start ≤ T := by
        rw [hT] at hopen
        simp only [Option.map_some, Option.getD_some, decide_eq_true_eq] at hopen
        exact Nat.le_of_not_le hopen
      split at h
      · cases h
      · next t ht =>
        have hle : start ≤ t.ended := start_le_ended_try hstart ht
        -- of the calls of a try only the first is a fetch
        have hfetch : ∀ x ∈ t.calls endpoint start, x.2.fetch?.isSome → x.1 = start := by
          intro x hx hf
          rcases List.mem_cons.mp hx with rfl | hx
          · rfl
          · obtain ⟨y, -, rfl⟩ := List.mem_map.mp hx
            cases hf
        split at h
        · cases h
          exact ⟨hle, fun x hx hf => ⟨Nat.le_of_eq (hfetch x hx hf).symm,
            Nat.le_trans (Nat.le_of_eq (hfetch x hx hf)) hle⟩⟩
        · cases h
          exact ⟨hle, fun x hx hf => ⟨Nat.le_of_eq (hfetch x hx hf).symm,
            Nat.le_trans (Nat.le_of_eq (hfetch x hx hf)) hle⟩⟩
        · obtain ⟨s', hs', rfl⟩ := Option.map_eq_some_iff.mp h
          obtain ⟨hended, hcalls⟩ := ih hs'
          refine ⟨Nat.le_trans hle hended, fun x hx hf => ?_⟩
          rcases List.mem_append.mp hx with hx | hx
          · rw [hfetch x hx hf]
            exact ⟨Nat.le_refl start, Nat.le_trans hle hended⟩
          · obtain ⟨hfrom, hby⟩ := hcalls x hx hf
            exact ⟨Nat.le_trans hle hfrom, hby⟩

/-- A search ends where everything is answered and the number of probes is bounded. -/
theorem exists_searchFrom {most : Nat} (hmost : policy.maxAttempts = some most)
    (hbound : most < Retry.attemptBound) (hfetch : ∀ endpoint, (site.fetch endpoint).takes ≠ none)
    (hprobe : ∀ earlier server k, (site.probe earlier server k).takes ≠ none)
    (endpoints : List Endpoint) (earlier : List String) (start : Moment) :
    ∃ s, searchFrom site policy shutdown cluster endpoints earlier start = some s := by
  induction endpoints generalizing earlier start with
  | nil => exact ⟨_, rfl⟩
  | cons endpoint rest ih =>
    obtain ⟨t, ht⟩ : ∃ t, tryEndpoint site policy shutdown cluster endpoint earlier start = some t :=
      exists_try hmost hbound (hfetch endpoint) (hprobe earlier)
    rw [searchFrom, ht]
    split
    · exact ⟨_, rfl⟩
    · dsimp only
      split
      · exact ⟨_, rfl⟩
      · exact ⟨_, rfl⟩
      · obtain ⟨s, hs⟩ := ih (earlier ++ t.probes.map (·.2)) t.ended
        exact ⟨_, by rw [hs]; rfl⟩

end Bootstrap

namespace Instance

theorem Launch.start_le_ended {plan : Plan} {client : AdminClient} {world : Apiserver.World}
    {start : Moment} {shutdown : Option Moment} {l : Launch}
    (h : Launch.run plan client world start shutdown = some l) : start ≤ l.ended := by
  obtain ⟨r, hr, rfl⟩ := Option.map_eq_some_iff.mp h
  have hle := (Retry.Policy.account hr).start_le_ended
  dsimp only
  split <;> exact hle

theorem Factory.start_le_ended {f : Factory} {cluster : String} {start : Moment}
    {shutdown : Option Moment} {c : Creation} (h : f.create cluster start shutdown = some c) :
    start ≤ c.search.ended ∧ c.search.ended ≤ c.ended ∧
      ∀ x ∈ c.search.calls, x.2.fetch?.isSome → start ≤ x.1 ∧ x.1 ≤ c.search.ended := by
  unfold create at h
  split at h
  · cases h
  · next search hsearch =>
    obtain ⟨hle, hcalls⟩ := Bootstrap.fetches_within hsearch
    split at h
    · cases h
      exact ⟨hle, Nat.le_refl _, hcalls⟩
    · obtain ⟨launch, hlaunch, rfl⟩ := Option.map_eq_some_iff.mp h
      exact ⟨hle, Launch.start_le_ended hlaunch, hcalls⟩

/-- A creation ends where the search does, when the health is asked for as by default. -/
theorem Factory.exists_create {f : Factory} {cluster : String} {start : Moment}
    {shutdown : Option Moment} (hpolicy : f.plan.readiness = .readiness)
    (hsearch : ∃ s, Bootstrap.search (f.site cluster) f.policy cluster start shutdown = some s) :
    ∃ c, f.create cluster start shutdown = some c := by
  obtain ⟨search, hs⟩ := hsearch
  rw [create, hs]
  dsimp only
  split
  · exact ⟨_, rfl⟩
  · next client _ =>
    obtain ⟨l, hl, -⟩ := (brief f.plan client (f.world client) search.ended shutdown).launch hpolicy
    exact ⟨_, by rw [hl]; rfl⟩

end Instance

namespace Fleet

/-! ## What a cycle does to the clock -/

/-- The requests that creations make. -/
def Request.IsCreation : Request → Prop
  | .kubeconfig _ _ | .launch _ => True
  | .list | .containers _ => False

theorem requestsOf_within {f : Instance.Factory} {cluster : String} {start : Moment}
    {shutdown : Option Moment} {c : Instance.Creation}
    (h : f.create cluster start shutdown = some c) :
    ∀ x ∈ requestsOf cluster c, x.2.IsCreation ∧ start ≤ x.1 ∧ x.1 ≤ c.ended := by
  obtain ⟨hstart, hended, hcalls⟩ := Instance.Factory.start_le_ended h
  intro x hx
  rcases List.mem_append.mp hx with hx | hx
  · obtain ⟨⟨m, call⟩, hcall, hfetch⟩ := List.mem_filterMap.mp hx
    obtain ⟨endpoint, he, rfl⟩ := Option.map_eq_some_iff.mp hfetch
    obtain ⟨hfrom, hby⟩ := hcalls (m, call) hcall (by rw [he]; rfl)
    exact ⟨trivial, hfrom, Nat.le_trans hby hended⟩
  · obtain ⟨launch, -, rfl⟩ := Option.map_eq_some_iff.mp (Option.mem_toList.mp hx)
    exact ⟨trivial, hstart, hended⟩

/-- Whether every creation comes to an end. -/
def Making.Ends : Making → Prop
  | .scripted _ | .tried _ => True
  | .launched plan world => ∀ cluster start shutdown,
      ∃ l, Instance.Launch.run plan (Scene.clientOf cluster) (world cluster) start shutdown = some l
  | .created factory => ∀ n cluster start shutdown,
      ∃ c, (factory n).create cluster start shutdown = some c

namespace Scene

/-- Time goes on, and the token may fire in the meantime. -/
structure Forward (s s' : Scene) : Prop where
  le : s.now ≤ s'.now
  fires : s'.firesAt = s.firesAt ∨ ∃ t, s'.firesAt = some t ∧ s.now ≤ t ∧ t ≤ s'.now ∧
    ∀ u, s.firesAt = some u → t ≤ u
  firesAfter : s'.firesAfter = s.firesAfter
  making : s'.making = s.making
  stays : s.hung = true → s'.hung = true
  /-- Only a creation that never ends makes it hang. -/
  hangs : s'.hung = true → s.hung = true ∨ ¬ s.making.Ends

/-- Time goes on while instances are created. -/
structure Later (s s' : Scene) : Prop extends Forward s s' where
  asked : ∃ l, s'.requests = s.requests ++ l ∧
    ∀ x ∈ l, x.2.IsCreation ∧ s.now ≤ x.1 ∧ x.1 ≤ s'.now
  listed : s'.listed = s.listed

/-- Time goes on while a cycle is made.  It asks for the clusters when it begins. -/
structure Rounded (s s' : Scene) : Prop extends Forward s s' where
  asked : ∃ l, s'.requests = s.requests ++ (s.now, .list) :: l ∧
    ∀ x ∈ l, x.2.IsCreation ∧ s.now ≤ x.1 ∧ x.1 ≤ s'.now
  listed : s'.listed = s.listed + 1
  /-- The token has fired when there were cycles enough. -/
  enough : s'.hung = false → s'.firesAfter = some s'.listed → s'.fired = true

variable {s s' s'' : Scene}

theorem fired_iff : s.fired = true ↔ ∃ t, s.firesAt = some t ∧ t ≤ s.now := by
  cases h : s.firesAt <;> simp [fired, Apiserver.Informers.endedBy, h]

theorem isOver_iff : s.isOver = true ↔ s.fired = true ∧ s.hung = false := by
  rw [isOver, Bool.and_eq_true, Bool.not_eq_true']

namespace Forward

theorem refl (s : Scene) : s.Forward s := ⟨Nat.le_refl _, Or.inl rfl, rfl, rfl, id, Or.inl⟩

/-- Time goes on, and nothing else does. -/
theorem of_le (hle : s.now ≤ s'.now) (hfires : s'.firesAt = s.firesAt)
    (hafter : s'.firesAfter = s.firesAfter) (hmaking : s'.making = s.making)
    (hhung : s'.hung = s.hung) : s.Forward s' :=
  ⟨hle, Or.inl hfires, hafter, hmaking, hhung.trans, fun h => Or.inl (hhung.symm.trans h)⟩

theorem trans (h : s.Forward s') (h' : s'.Forward s'') : s.Forward s'' where
  le := Nat.le_trans h.le h'.le
  firesAfter := h'.firesAfter.trans h.firesAfter
  making := h'.making.trans h.making
  stays hs := h'.stays (h.stays hs)
  hangs hhung := by
    rcases h'.hangs hhung with hhung' | hends
    · exact h.hangs hhung'
    · rw [h.making] at hends
      exact Or.inr hends
  fires := by
    rcases h'.fires with hsame | ⟨t, ht, hfrom, hby, hfirst⟩
    · rcases h.fires with hsame' | ⟨t, ht, hfrom, hby, hfirst⟩
      · exact Or.inl (hsame.trans hsame')
      · exact Or.inr ⟨t, hsame.trans ht, hfrom, Nat.le_trans hby h'.le, hfirst⟩
    · refine Or.inr ⟨t, ht, Nat.le_trans h.le hfrom, hby, fun u hu => ?_⟩
      rcases h.fires with hsame | ⟨t', ht', -, -, hfirst'⟩
      · exact hfirst u (hsame.trans hu)
      · exact Nat.le_trans (hfirst t' ht') (hfirst' u hu)

/-- The token may be fired at the moment at which time goes on. -/
theorem of_earlier (hle : s.now ≤ s'.now)
    (hfires : s'.firesAt = Time.earlier s.firesAt (some s.now))
    (hafter : s'.firesAfter = s.firesAfter) (hmaking : s'.making = s.making)
    (hhung : s'.hung = s.hung) : s.Forward s' := by
  refine ⟨hle, ?_, hafter, hmaking, hhung.trans, fun h => Or.inl (hhung.symm.trans h)⟩
  cases hf : s.firesAt with
  | none =>
    rw [hf] at hfires
    exact Or.inr ⟨s.now, hfires, Nat.le_refl _, hle, nofun⟩
  | some u =>
    rw [hf] at hfires
    rcases Nat.le_total u s.now with hu | hu
    · exact Or.inl (hfires.trans (congrArg some (Nat.min_eq_left hu)))
    · rw [Time.earlier, Nat.min_eq_right hu] at hfires
      refine Or.inr ⟨s.now, hfires, Nat.le_refl _, hle, ?_⟩
      rintro _ ⟨⟩
      exact hu

/-- Where creations end nothing hangs. -/
theorem unhung (h : s.Forward s') (hends : s.making.Ends) (hs : s.hung = false) :
    s'.hung = false := by
  rw [Bool.eq_false_iff]
  intro hhung
  rcases h.hangs hhung with hhung' | hnot
  · exact Bool.noConfusion (hs.symm.trans hhung')
  · exact hnot hends

/-- A token that has fired stays so. -/
theorem fired (h : s.Forward s') (hf : s.fired = true) : s'.fired = true := by
  obtain ⟨t, ht, hle⟩ := fired_iff.mp hf
  rcases h.fires with hsame | ⟨t', ht', -, hby, -⟩
  · exact fired_iff.mpr ⟨t, hsame.trans ht, Nat.le_trans hle h.le⟩
  · exact fired_iff.mpr ⟨t', ht', hby⟩

/-- A token that has not fired at the end had not at the beginning. -/
theorem unfired_before (h : s.Forward s') (hf : s'.fired = false) : s.fired = false := by
  rw [Bool.eq_false_iff] at hf ⊢
  exact fun hfired => hf (h.fired hfired)

/-- What does not hang at the end did not at the beginning. -/
theorem unhung_before (h : s.Forward s') (hs : s'.hung = false) : s.hung = false := by
  rw [Bool.eq_false_iff] at hs ⊢
  exact fun hhung => hs (h.stays hhung)

/-- A token that has not fired fires at that moment or later. -/
theorem le_fires (h : s.Forward s') (hf : s.fired = false) {t : Moment}
    (ht : s'.firesAt = some t) : s.now ≤ t := by
  rcases h.fires with hsame | ⟨t', ht', hfrom, -, -⟩
  · refine Nat.le_of_not_le fun hle => ?_
    have hfired : s.fired = true := fired_iff.mpr ⟨t, hsame.symm.trans ht, hle⟩
    exact Bool.noConfusion (hf.symm.trans hfired)
  · rw [ht'] at ht
    cases ht
    exact hfrom

/-- The token fires no later than it was to. -/
theorem fires_le (h : s.Forward s') {u : Moment} (hu : s.firesAt = some u) :
    ∃ t, s'.firesAt = some t ∧ t ≤ u := by
  rcases h.fires with hsame | ⟨t, ht, -, -, hfirst⟩
  · exact ⟨u, hsame.trans hu, Nat.le_refl u⟩
  · exact ⟨t, ht, hfirst u hu⟩

end Forward

namespace Later

theorem refl (s : Scene) : s.Later s :=
  ⟨.refl s, ⟨[], (List.append_nil _).symm, nofun⟩, rfl⟩

theorem trans (h : s.Later s') (h' : s'.Later s'') : s.Later s'' where
  toForward := h.toForward.trans h'.toForward
  listed := h'.listed.trans h.listed
  asked := by
    obtain ⟨l, hl, hbounds⟩ := h.asked
    obtain ⟨l', hl', hbounds'⟩ := h'.asked
    refine ⟨l ++ l', by rw [hl', hl, List.append_assoc], fun x hx => ?_⟩
    rcases List.mem_append.mp hx with hx | hx
    · obtain ⟨hcreation, hfrom, hby⟩ := hbounds x hx
      exact ⟨hcreation, hfrom, Nat.le_trans hby h'.le⟩
    · obtain ⟨hcreation, hfrom, hby⟩ := hbounds' x hx
      exact ⟨hcreation, Nat.le_trans h.le hfrom, hby⟩

end Later

/-- What else is kept in a scene does not matter. -/
theorem later_of_forward (h : s.Forward s') (hrequests : s'.requests = s.requests)
    (hlisted : s'.listed = s.listed) : s.Later s' :=
  ⟨h, ⟨[], by rw [hrequests, List.append_nil], nofun⟩, hlisted⟩

theorem later_say (s : Scene) (lines : List LogLine) : s.Later (s.say lines) := by
  unfold say
  split
  · exact .refl s
  · exact later_of_forward (.of_le (Nat.le_refl _) rfl rfl rfl rfl) rfl rfl

theorem later_note (s : Scene) (step : Step Handle) : s.Later (surroundings.note step s) := by
  show s.Later (s.note step)
  unfold note
  split
  · exact .refl s
  · refine Later.trans ?_ (later_say _ _)
    exact later_of_forward (.of_le (Nat.le_refl _) rfl rfl rfl rfl) rfl rfl

/-! ### Creations -/

/-- A launch is asked for when its creation begins. -/
theorem later_of_launch {cluster : String} (h : s.Forward s')
    (hrequests : s'.requests = s.requests ++ [(s.now, .launch cluster)])
    (hlisted : s'.listed = s.listed) : s.Later s' := by
  refine ⟨h, ⟨_, hrequests, fun x hx => ?_⟩, hlisted⟩
  rw [List.mem_singleton.mp hx]
  exact ⟨trivial, Nat.le_refl _, h.le⟩

section

variable (number : Nat) (cluster : String) (s : Scene)

theorem later_makeScripted (takes : String → Nat) :
    s.Later (makeScripted takes number cluster s).2 := by
  have hlater : s.Later { s.ask (.launch cluster) with
      firesAt := if (s.scriptAt s.now).cancelling.contains cluster then
        Time.earlier s.firesAt (some s.now) else s.firesAt
      now := s.now + takes cluster } := by
    refine later_of_launch ?_ rfl rfl
    by_cases hcut : (s.scriptAt s.now).cancelling.contains cluster
    · exact .of_earlier (Nat.le_add_right _ _) (if_pos hcut) rfl rfl rfl
    · exact .of_le (Nat.le_add_right _ _) (if_neg hcut) rfl rfl rfl
  unfold makeScripted
  dsimp only
  split <;> exact hlater

theorem later_makeTried (trial : Trial) : s.Later (makeTried trial number cluster s).2 := by
  have hlater : s.Later { s.ask (.launch cluster) with now := s.now + trial.takes } :=
    later_of_launch (.of_le (Nat.le_add_right _ _) rfl rfl rfl rfl) rfl rfl
  unfold makeTried
  dsimp only
  split <;> exact hlater

theorem later_hang (h : ¬ s.making.Ends) : s.Later s.hang.2 :=
  later_of_forward ⟨Nat.le_refl _, Or.inl rfl, rfl, rfl, fun _ => rfl, fun _ => Or.inr h⟩ rfl rfl

theorem later_makeLaunched {plan : Instance.Plan} {world : String → Apiserver.World}
    (hmaking : s.making = .launched plan world) :
    s.Later (makeLaunched plan world number cluster s).2 := by
  have hask : s.Later (s.ask (.launch cluster)) :=
    later_of_launch (.of_le (Nat.le_refl _) rfl rfl rfl rfl) rfl rfl
  refine hask.trans ?_
  unfold makeLaunched
  dsimp only
  split
  · next hnone =>
    refine later_hang _ fun hends => ?_
    rw [show (s.ask (.launch cluster)).making = .launched plan world from hmaking] at hends
    obtain ⟨l, hl⟩ := hends cluster (s.ask (.launch cluster)).now (s.ask (.launch cluster)).firesAt
    rw [hnone] at hl
    cases hl
  · next launch hlaunch =>
    have hle : s.now ≤ launch.ended := Instance.Launch.start_le_ended hlaunch
    have hlater : (s.ask (.launch cluster)).Later { s.ask (.launch cluster) with
        now := launch.ended, launches := s.launches ++ [(number, launch)] } :=
      later_of_forward (.of_le hle rfl rfl rfl rfl) rfl rfl
    split <;> exact hlater

theorem later_makeCreated {factory : Nat → Instance.Factory}
    (hmaking : s.making = .created factory) :
    s.Later (makeCreated (factory number) number cluster s).2 := by
  unfold makeCreated
  split
  · next hnone =>
    refine later_hang _ fun hends => ?_
    rw [hmaking] at hends
    obtain ⟨c, hc⟩ := hends number cluster s.now s.firesAt
    rw [hnone] at hc
    cases hc
  · next creation hcreation =>
    obtain ⟨hstart, hended, -⟩ := Instance.Factory.start_le_ended hcreation
    have hlater : s.Later { s with
        now := creation.ended
        launches := s.launches ++ (creation.launch.map fun launch => (number, launch)).toList
        requests := s.requests ++ requestsOf cluster creation } :=
      ⟨.of_le (Nat.le_trans hstart hended) rfl rfl rfl rfl,
        ⟨_, rfl, requestsOf_within hcreation⟩, rfl⟩
    dsimp only
    split <;> exact hlater

theorem later_create : s.Later (s.create cluster).2 := by
  have hnext : s.Later { s with next := s.next + 1 } :=
    later_of_forward (.of_le (Nat.le_refl _) rfl rfl rfl rfl) rfl rfl
  refine hnext.trans ?_
  unfold create
  dsimp only
  split
  · exact later_makeScripted _ cluster _ _
  · next hmaking => exact later_makeLaunched _ cluster _ hmaking
  · next hmaking => exact later_makeCreated _ cluster _ hmaking
  · exact later_makeTried _ cluster _ _

end

/-! ### Cycles -/

/-- A cycle that follows a listing is made of creations. -/
theorem later_cycle (first : First) (answer : Except CommandFailure (List String)) (s : Scene)
    (roster : Roster Handle) : s.Later (surroundings.cycle first answer s roster).scene := by
  have created {p : Progress Scene Handle} {c : String} {out : Except ControllerFailure Handle}
      {s' : Scene} (h : surroundings.create c (surroundings.note (.asked c) p.scene) = (out, s'))
      (hp : s.Later p.scene) : s.Later s' := by
    have hcreate := later_create c (surroundings.note (.asked c) p.scene)
    rw [show Scene.create c (surroundings.note (.asked c) p.scene) = _ from h] at hcreate
    exact (hp.trans (later_note _ _)).trans hcreate
  refine cycle_keeps (P := fun p : Progress Scene Handle => s.Later p.scene)
    (fun listed p q hm hp => ?_) first answer s roster (.refl s)
  cases hm with
  | listingFailed fault => exact hp.trans (later_note _ _)
  | discovered => exact hp.trans (later_note _ _)
  | launched isListed isMissing answer => exact (created answer hp).trans (later_note _ _)
  | launchFailed isListed isMissing isReal answer =>
    exact (created answer hp).trans (later_note _ _)
  | abandoned isListed isMissing isCut answer => exact (created answer hp).trans (later_note _ _)
  | stopped isManaged isGone => exact hp.trans (later_note _ _)
  | forgotten isFailed isGone => exact hp.trans (later_note _ _)
  | completed => exact hp.trans (later_note _ _)

theorem forward_list (s : Scene) : s.Forward s.list.2.2 ∧
    s.list.2.2.requests = s.requests ++ [(s.now, .list)] ∧ s.list.2.2.listed = s.listed + 1 := by
  unfold list
  dsimp only
  split
  · exact ⟨.of_le (Nat.le_max_left _ _) rfl rfl rfl rfl, rfl, rfl⟩
  · exact ⟨.of_le (Nat.le_add_right _ _) rfl rfl rfl rfl, rfl, rfl⟩

theorem forward_close (s : Scene) : s.Forward s.close := by
  unfold close
  split
  · exact .of_earlier (Nat.le_refl _) rfl rfl rfl rfl
  · exact .refl s

theorem fired_close (hhung : s.hung = false) (h : s.firesAfter = some s.listed) :
    s.close.fired = true := by
  rw [close, if_pos ⟨h, hhung⟩, fired_iff]
  cases s.firesAt with
  | none => exact ⟨s.now, rfl, Nat.le_refl _⟩
  | some t => exact ⟨min t s.now, rfl, Nat.min_le_right t s.now⟩

/-- What a cycle of the loop does to the clock. -/
theorem rounded (s : Scene) (roster : Roster Handle) : s.Rounded (s.round roster).scene := by
  obtain ⟨hlist, hasked, hlisted⟩ := forward_list s
  let p := surroundings.cycle s.list.1 s.list.2.1 s.list.2.2 roster
  let told := p.scene.say ((Report.ofSteps p.steps).line? p.roster).toList
  have hround : (s.round roster).scene = told.close := rfl
  have htold : s.list.2.2.Later told := (later_cycle _ _ _ roster).trans (later_say _ _)
  have hclose := forward_close told
  -- the token may fire at the end of the cycle, but nothing else happens then
  have hsame : told.close.requests = told.requests ∧ told.close.listed = told.listed ∧
      told.close.hung = told.hung := by
    unfold close
    split <;> exact ⟨rfl, rfl, rfl⟩
  rw [hround]
  refine ⟨(hlist.trans htold.toForward).trans hclose, ?_, ?_, fun hhung henough => ?_⟩
  · obtain ⟨l, hl, hbounds⟩ := htold.asked
    refine ⟨l, ?_, fun x hx => ?_⟩
    · rw [hsame.1, hl, hasked, List.append_assoc, List.singleton_append]
    · obtain ⟨hcreation, hfrom, hby⟩ := hbounds x hx
      exact ⟨hcreation, Nat.le_trans hlist.le hfrom, Nat.le_trans hby hclose.le⟩
  · rw [hsame.2.1, htold.listed, hlisted]
  · rw [hsame.2.1, hclose.firesAfter] at henough
    exact fired_close (hsame.2.2.symm.trans hhung) henough

/-! ### The wait -/

theorem rest_of_unhung {interval : Nat} (h : s.hung = false) :
    s.rest interval = { s with now := s.wake interval } := by
  rw [rest, h]
  exact if_neg Bool.false_ne_true

theorem le_wake (interval : Nat) (s : Scene) : s.now ≤ s.wake interval := by
  unfold wake
  split
  · split
    · exact Nat.le_max_left _ _
    · exact Nat.le_add_right _ _
  · exact Nat.le_add_right _ _

/-- Nothing but the clock goes on in a wait. -/
theorem rest_same (interval : Nat) (s : Scene) : (s.rest interval).hung = s.hung ∧
    (s.rest interval).firesAt = s.firesAt ∧ (s.rest interval).requests = s.requests ∧
      (s.rest interval).listed = s.listed := by
  unfold rest
  split <;> exact ⟨rfl, rfl, rfl, rfl⟩

theorem forward_rest (interval : Nat) (s : Scene) : s.Forward (s.rest interval) := by
  unfold rest
  split
  · exact .refl s
  · exact .of_le (le_wake interval s) rfl rfl rfl rfl

section

variable (hhung : s.hung = false)

include hhung

theorem fired_rest (interval : Nat) : (s.rest interval).fired = true ↔
    ∃ t, s.firesAt = some t ∧ t ≤ s.now + interval := by
  rw [fired_iff, rest_of_unhung hhung]
  unfold wake
  cases s.firesAt with
  | none => simp
  | some t =>
    simp only [Option.some.injEq, exists_eq_left']
    split
    · next hle => exact ⟨fun _ => hle, fun _ => Nat.le_max_right _ _⟩
    · exact Iff.rfl

theorem now_rest_fired {interval t : Nat} (ht : s.firesAt = some t) (hle : t ≤ s.now + interval) :
    (s.rest interval).now = max s.now t := by
  simp only [rest_of_unhung hhung, wake, ht, if_pos hle]

theorem now_rest_unfired {interval : Nat} (h : (s.rest interval).fired = false) :
    (s.rest interval).now = s.now + interval := by
  have hnot : ¬ ∃ t, s.firesAt = some t ∧ t ≤ s.now + interval := by
    rw [← fired_rest hhung, h]
    exact Bool.false_ne_true
  rw [rest_of_unhung hhung]
  unfold wake
  cases hf : s.firesAt with
  | none => rfl
  | some t => exact if_neg fun hle => hnot ⟨t, hf, hle⟩

end

end Scene

end Fleet

end Flotilla
