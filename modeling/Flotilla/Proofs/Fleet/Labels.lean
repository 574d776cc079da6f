import Flotilla.Proofs.Fleet.Episodes
import Flotilla.Proofs.Fleet.Moves
import Flotilla.Proofs.Fleet.Stages
import Flotilla.Proofs.Metrics.Index

/-!
# The clusters in the metrics

Only clusters that are managed, or whose last launch failed, label a sample.  This
holds however the cycles end and whatever the controllers write in the meantime,
through the sinks of instances that run, that were stopped or that never came to
run.

`Covered` is the invariant behind it.  It ties the metrics to the roster through
the sinks: a sink that can still write belongs to the instance that is managed.
-/

namespace Flotilla.Fleet

open Std (ExtTreeMap ExtTreeSet)
open Metrics (Sink Store Write)

/-- How metrics and sinks go with the roster. -/
structure Covered (s : Stage) (r : Roster Token) : Prop where
  indexed : s.store.Indexed
  disjoint : ∀ c ∈ r.failed, c ∉ r.instances
  /-- A sink that can still write is that of the managed instance of its cluster. -/
  live : ∀ sink ∈ s.sinks, sink.isLive s.cancellation = true →
    ∃ t, sink.token = some t ∧ r.instances[sink.cluster]? = some t
  /-- A cluster that labels a sample is managed or has failed. -/
  labelled : ∀ c, s.store.Labels c → c ∈ r.instances ∨ c ∈ r.failed

/-- Firing a token brings no sink back to life. -/
theorem isLive_of_fire {sink : Sink} {k : Cancellation} {t : Token}
    (h : sink.isLive (k.fire t) = true) : sink.isLive k = true := by
  cases sink with
  | mk c token =>
    cases token with
    | none => rfl
    | some u =>
      simp only [Sink.isLive, Bool.not_eq_true', Bool.eq_false_iff] at h ⊢
      exact fun hu => h (Cancellation.isCancelled_fire.mpr (Or.inr hu))

/-- A sink bound to a fired token is dead. -/
theorem not_isLive_fire (c : String) (k : Cancellation) (t : Token) :
    (⟨c, some t⟩ : Sink).isLive (k.fire t) = false := by
  simp only [Sink.isLive, Bool.not_eq_false']
  exact Cancellation.isCancelled_fire.mpr (Or.inl List.mem_cons_self)

/-- What the controllers of an instance write is listed, and labelled with its cluster. -/
theorem writes_spec (sink : Sink) (k : Cancellation) (writes : List Write) {m : Store}
    (h : m.Indexed) :
    (writes.foldl (sink.write k) m).Indexed ∧
      ∀ c, (writes.foldl (sink.write k) m).Labels c → sink.cluster = c ∨ m.Labels c := by
  induction writes generalizing m with
  | nil => exact ⟨h, fun c hc => Or.inr hc⟩
  | cons w rest ih =>
    obtain ⟨hi, hl⟩ := ih (h.write sink k w)
    refine ⟨hi, fun c hc => ?_⟩
    rcases hl c hc with hc | hc
    · exact Or.inl hc
    · rcases Store.labels_write hc with ⟨-, hc⟩ | hc
      · exact Or.inl hc
      · exact Or.inr hc

/-- Whether a step changes no labelled series. -/
def Step.isPlain : Step Token → Bool
  | .launchFailed _ _ => false
  | .stopped _ _ => false
  | .forgotten _ => false
  | _ => true

namespace Covered

variable {s : Stage} {r : Roster Token}

theorem start : Covered Stage.fresh {} where
  indexed := .start
  disjoint c h := by simp at h
  live sink h := by cases h
  labelled c h := by
    rcases (Store.labels_iff {} c).mp h with hf | ⟨k, hs | ho⟩
    · exact absurd hf ExtTreeMap.not_mem_empty
    · exact absurd hs (Metrics.SeriesTable.not_mem_empty _)
    · exact absurd ho (Metrics.SeriesTable.not_mem_empty _)

/-- A token that is fired. -/
theorem fire (h : Covered s r) (t : Token) : Covered (s.fire t) r where
  indexed := h.indexed
  disjoint := h.disjoint
  live sink hs hl := h.live sink hs (isLive_of_fire hl)
  labelled := h.labelled

/-- Whatever goes on beside the cycles. -/
theorem aside (h : Covered s r) (a : Aside) : Covered (s.aside a) r := by
  cases a with
  | shutDown => exact h.fire s.process
  | write cluster place write =>
    simp only [Stage.aside]
    split
    · next sink hsink =>
      have hs : sink ∈ s.sinks := List.mem_of_mem_filter (List.mem_of_getElem? hsink)
      refine ⟨h.indexed.write _ _ _, h.disjoint, h.live, ?_⟩
      intro c hc
      rcases Store.labels_write hc with ⟨hl, rfl⟩ | hc
      · obtain ⟨t, -, ht⟩ := h.live sink hs hl
        exact Or.inl (r.mem_instances_iff.mpr ⟨t, ht⟩)
      · exact h.labelled c hc
    · exact h

theorem note (o : Occasion) (step : Step Token) (h : Covered (s.note step) r) :
    Covered (o.surroundings.note step s) r := by
  have all (asides : List Aside) (s : Stage) (h : Covered s r) :
      Covered (asides.foldl Stage.aside s) r := by
    induction asides generalizing s with
    | nil => exact h
    | cons a rest ih => exact ih _ (h.aside a)
  exact all (o.asides step) _ h

/-- A step that changes no labelled series. -/
theorem plain_note (h : Covered s r) {step : Step Token} (hp : step.isPlain = true) :
    Covered (s.note step) r := by
  cases step with
  | launchFailed c f => cases hp
  | stopped c t => cases hp
  | forgotten c => cases hp
  | _ =>
    refine ⟨h.indexed, h.disjoint, h.live, ?_⟩
    intro c hc
    refine h.labelled c ?_
    rw [Store.labels_iff] at hc ⊢
    exact hc

theorem plain (o : Occasion) (h : Covered s r) {step : Step Token} (hp : step.isPlain = true) :
    Covered (o.surroundings.note step s) r :=
  note o step (h.plain_note hp)

/-- What a creation wrote is labelled with its cluster, and no other sink came to life. -/
theorem build (h : Covered s r) (c : String) (a : Instance.Attempt) :
    (s.build c a).2.store.Indexed ∧
      (∀ k, (s.build c a).2.store.Labels k → c = k ∨ s.store.Labels k) ∧
      ∀ sink ∈ (s.build c a).2.sinks, sink.isLive (s.build c a).2.cancellation = true →
        sink = ⟨c, some (s.build c a).1⟩ ∨
          ∃ t, sink.token = some t ∧ r.instances[sink.cluster]? = some t := by
  obtain ⟨hi, hl⟩ := writes_spec ⟨c, some (s.build c a).1⟩ (s.begin c).2.2.cancellation a.writes
    h.indexed
  refine ⟨hi, hl, ?_⟩
  intro sink hs hlive
  rw [Stage.sinks_build, List.mem_append, List.mem_singleton] at hs
  rcases hs with hs | hs
  · exact Or.inr (h.live sink hs hlive)
  · exact Or.inl hs

/-- An instance that comes. -/
theorem launch (h : Covered s r) {c : String} (hc : c ∉ r.instances) (a : Instance.Attempt) :
    Covered { (s.build c a).2 with instances := s.instances ++ [(c, (s.build c a).1)] }
      (r.launch c (s.build c a).1) := by
  obtain ⟨hi, hl, hlive⟩ := h.build c a
  refine ⟨hi, ?_, ?_, ?_⟩
  · intro k hk
    obtain ⟨hne, hk⟩ := (r.mem_failed_launch c k _).mp hk
    rw [Roster.mem_instances_launch]
    rintro (he | hm)
    · exact hne he
    · exact h.disjoint k hk hm
  · intro sink hs hsl
    rcases hlive sink hs hsl with rfl | ⟨t, ht, hm⟩
    · exact ⟨_, rfl, by rw [Roster.instances_launch, if_pos rfl]⟩
    · refine ⟨t, ht, ?_⟩
      rw [Roster.instances_launch, if_neg, hm]
      rintro rfl
      exact hc (r.mem_instances_iff.mpr ⟨t, hm⟩)
  · intro k hk
    rw [Roster.mem_instances_launch, Roster.mem_failed_launch]
    rcases hl k hk with rfl | hk
    · exact Or.inl (Or.inl rfl)
    · by_cases he : c = k
      · exact Or.inl (Or.inl he)
      · rcases h.labelled k hk with hm | hm
        · exact Or.inl (Or.inr hm)
        · exact Or.inr ⟨he, hm⟩

/-- The sinks after a creation that failed: the new one is dead. -/
theorem live_lost (h : Covered s r) (c : String) (a : Instance.Attempt) :
    ∀ sink ∈ (s.build c a).2.sinks,
      sink.isLive ((s.build c a).2.cancellation.fire (s.build c a).1) = true →
        ∃ t, sink.token = some t ∧ r.instances[sink.cluster]? = some t := by
  intro sink hs hl
  rcases (h.build c a).2.2 sink hs (isLive_of_fire hl) with rfl | ht
  · rw [not_isLive_fire] at hl
    cases hl
  · exact ht

/-- A launch that failed. -/
theorem fail (h : Covered s r) {c : String} (hc : c ∉ r.instances) (a : Instance.Attempt)
    (f : ControllerFailure) :
    Covered (((s.build c a).2.fire (s.build c a).1).note (.launchFailed c f)) (r.fail c) := by
  obtain ⟨hi, hl, -⟩ := h.build c a
  refine ⟨hi, ?_, h.live_lost c a, ?_⟩
  · intro k hk
    rcases (r.mem_failed_fail c k).mp hk with rfl | hk
    · exact hc
    · exact h.disjoint k hk
  · intro k hk
    rw [Roster.mem_failed_fail]
    rcases (Store.labels_countLaunchFailure _ c k).mp hk with rfl | hk
    · exact Or.inr (Or.inl rfl)
    · rcases hl k hk with rfl | hk
      · exact Or.inr (Or.inl rfl)
      · rcases h.labelled k hk with hm | hm
        · exact Or.inl hm
        · exact Or.inr (Or.inr hm)

/-- A creation that was cut short, and so wrote nothing. -/
theorem abandon (h : Covered s r) (c : String) {a : Instance.Attempt} (ha : a.writes = []) :
    Covered ((s.build c a).2.fire (s.build c a).1) r := by
  have hstore : ((s.build c a).2.fire (s.build c a).1).store = s.store := by
    show a.writes.foldl _ _ = _
    rw [ha]
    rfl
  refine ⟨?_, h.disjoint, h.live_lost c a, ?_⟩
  · rw [hstore]
    exact h.indexed
  · rw [hstore]
    exact h.labelled

/-- An instance that is stopped. -/
theorem stop (h : Covered s r) {c : String} {t : Token} (hc : r.instances[c]? = some t) :
    Covered (s.note (.stopped c t)) (r.stop c) := by
  refine ⟨h.indexed.forget c, ?_, ?_, ?_⟩
  · intro k hk hm
    exact h.disjoint k hk ((r.mem_instances_stop c k).mp hm).2
  · intro sink hs hl
    obtain ⟨u, hu, hm⟩ := h.live sink hs (isLive_of_fire hl)
    refine ⟨u, hu, ?_⟩
    rw [Roster.instances_stop, if_neg, hm]
    -- the sink of the stopped instance is dead
    intro he
    obtain rfl : t = u := by
      rw [← he, hc] at hm
      exact Option.some.inj hm
    have hsink : sink = ⟨c, some t⟩ := by
      cases sink
      simp_all
    rw [hsink] at hl
    exact Bool.noConfusion ((not_isLive_fire c s.cancellation t).symm.trans hl)
  · intro k hk
    obtain ⟨hne, hk⟩ := Store.labels_forget h.indexed hk
    rw [Roster.mem_instances_stop]
    rcases h.labelled k hk with hm | hm
    · exact Or.inl ⟨hne.symm, hm⟩
    · exact Or.inr hm

/-- A failed cluster that is forgotten. -/
theorem forget (h : Covered s r) (c : String) : Covered (s.note (.forgotten c)) (r.forget c) := by
  refine ⟨h.indexed.forget c, ?_, h.live, ?_⟩
  · intro k hk
    exact h.disjoint k ((r.mem_failed_forget c k).mp hk).2
  · intro k hk
    obtain ⟨hne, hk⟩ := Store.labels_forget h.indexed hk
    rw [Roster.mem_failed_forget]
    rcases h.labelled k hk with hm | hm
    · exact Or.inl hm
    · exact Or.inr ⟨hne.symm, hm⟩

/-- Every move of a cycle keeps the metrics covered. -/
theorem move {o : Occasion} {listed : ExtTreeSet String} {p q : Progress Stage Token}
    (hm : Move o.surroundings listed p q) (h : Covered p.scene p.roster) :
    Covered q.scene q.roster := by
  have asked (c : String) : Covered (o.surroundings.note (.asked c) p.scene) p.roster :=
    h.plain o rfl
  cases hm with
  | listingFailed fault => exact h.plain o rfl
  | discovered => exact h.plain o rfl
  | completed => exact h.plain o rfl
  | launched isListed isMissing answer =>
    rename_i c t s
    obtain ⟨rfl, rfl⟩ := Stage.create_ok answer
    exact ((asked c).launch isMissing (o.attempt c)).plain o rfl
  | launchFailed isListed isMissing isReal answer =>
    rename_i c f s
    obtain ⟨-, rfl⟩ := Stage.create_error answer
    exact ((asked c).fail isMissing (o.attempt c) f).note o _
  | abandoned isListed isMissing isCut answer =>
    rename_i c f s
    obtain ⟨hf, rfl⟩ := Stage.create_error answer
    rw [(ControllerFailure.isCancelled_iff f).mp isCut] at hf
    exact ((asked c).abandon c ((o.attempt c).writes_of_cancelled hf)).plain o rfl
  | stopped isManaged isGone => exact (h.stop isManaged).note o _
  | forgotten isFailed isGone => exact (h.forget _).note o _

end Covered

/-- Every turn keeps the metrics covered. -/
theorem Covered.turn {c : Course} (h : Covered c.stage c.roster) (t : Turn) :
    Covered (c.turn t).stage (c.turn t).roster := by
  cases t with
  | aside a => exact h.aside a
  | cycle o =>
    exact cycle_keeps (P := fun p => Covered p.scene p.roster) (fun _ _ _ hm hp => hp.move hm)
      o.first o.listing c.stage c.roster h

/-! ## All cycles -/

namespace Course

/-- What the metrics of a course say of its clusters. -/
structure Tidy (c : Course) : Prop where
  /-- No cluster is managed and counts as failed too. -/
  disjoint : ∀ k ∈ c.roster.failed, k ∉ c.roster.instances
  /-- A cluster that labels a sample is managed or has failed. -/
  labelled : ∀ k, c.stage.store.Labels k → k ∈ c.roster.instances ∨ k ∈ c.roster.failed
  /-- After a complete cycle everything managed or failed is listed, and nothing else labels a
  sample. -/
  swept : ∀ o names, o.listing = .ok names → (c.progress o).steps.any Step.isCompleted = true →
    (∀ k ∈ (c.cycle o).roster.instances, k ∈ names) ∧
      (∀ k ∈ (c.cycle o).roster.failed, k ∈ names) ∧
      ∀ k, (c.cycle o).stage.store.Labels k → k ∈ names
  /-- A cluster that a complete cycle did not find labels no sample until it is listed again and an
  instance is asked for. -/
  gone : ∀ (j : Nat) (e : Episode) (k : String), c.episodes[j]? = some e → e.Drops k →
    c.stage.store.Labels k → ∃ (j' : Nat) (e' : Episode), j < j' ∧ c.episodes[j']? = some e' ∧
      (∃ names, e'.listing = .ok names ∧ k ∈ names) ∧ .asked k ∈ e'.steps

/-- The metrics are covered, and a dropped cluster comes back only when it is asked for. -/
structure Swept (c : Course) : Prop where
  covered : Covered c.stage c.roster
  back : ∀ (j : Nat) (e : Episode) (k : String), c.episodes[j]? = some e → e.Drops k →
    c.roster.Has k → ∃ (j' : Nat) (e' : Episode), j < j' ∧ c.episodes[j']? = some e' ∧
      (∃ names, e'.listing = .ok names ∧ k ∈ names) ∧ .asked k ∈ e'.steps

theorem Swept.turn {c : Course} (h : c.Swept) (t : Turn) : (c.turn t).Swept where
  covered := h.covered.turn t
  back := by
    intro j e k he hd hk
    cases t with
    | aside a => exact h.back j e k he hd hk
    | cycle o =>
      rcases episode_cases he with ⟨hj, he⟩ | ⟨rfl, rfl⟩
      · rcases asked_of_has hk with hold | ⟨hl, ha⟩
        · obtain ⟨j', e', hj', he', hl, ha⟩ := h.back j e k he hd hold
          exact ⟨j', e', hj', episode_kept he', hl, ha⟩
        · exact ⟨c.episodes.length, _, hj, List.getElem?_concat_length, hl, ha⟩
      · obtain ⟨hcomplete, names, hl, hn⟩ := hd
        exact absurd (listed_of_has hl hcomplete hk) hn

/-- However a course goes, only managed and failed clusters are in the metrics. -/
theorem tidy (turns : List Turn) : (run turns).Tidy := by
  have hs : (run turns).Swept := by
    refine run_keeps (P := Swept) ⟨Covered.start, ?_⟩ (fun _ t h => h.turn t) turns
    intro j e k he
    cases he
  exact {
    disjoint := hs.covered.disjoint
    labelled := hs.covered.labelled
    swept := by
      intro o names hl hcomplete
      have hlisted (k : String) (hk : ((run turns).cycle o).roster.Has k) : k ∈ names :=
        listed_of_has hl hcomplete hk
      refine ⟨fun k hk => hlisted k (Or.inl hk), fun k hk => hlisted k (Or.inr hk), ?_⟩
      intro k hk
      exact hlisted k ((hs.covered.turn (.cycle o)).labelled k hk)
    gone := by
      intro j e k he hd hk
      exact hs.back j e k he hd (hs.covered.labelled k hk) }

end Course

end Flotilla.Fleet
