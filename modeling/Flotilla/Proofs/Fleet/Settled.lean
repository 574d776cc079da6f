import Flotilla.Proofs.Fleet.Chronicle
import Flotilla.Proofs.Fleet.Labels

/-!
# Stages in order

Between any two moves of a cycle the stage keeps to its chronicle and the metrics
are covered.  A stage and a roster of which this holds are `Settled`.  Each thing
that a move does keeps it so, also those that only together make up a move.

What it is good for is said here too: which sinks can still write, and when the
newest instance of a cluster is cancelled.
-/

namespace Flotilla.Fleet

open Instance (Attempt)

/-- The newest instance of a cluster is one of its instances. -/
theorem Stage.newest?_mem {s : Stage} {k : String} {t : Token} (ht : s.newest? k = some t) :
    (k, t) ∈ s.instances := by
  obtain ⟨⟨c, u⟩, hx, rfl⟩ := Option.map_eq_some_iff.mp ht
  obtain rfl : c = k := by simpa using List.find?_some hx
  exact List.mem_reverse.mp (List.mem_of_find?_eq_some hx)

namespace Stage.Sound

variable {s : Stage} {n : Nat}

/-- What is younger than the process is none of the tokens that the process descends from. -/
theorem not_mem_process (h : s.Sound) (hn : s.process.number < n) : n ∉ s.process.path := by
  rw [Token.path, h.root, List.mem_singleton]
  exact Nat.ne_of_gt hn

theorem not_mem_path (h : s.Sound) {x : String × Token} (hx : x ∈ s.instances)
    (hn : s.process.number < n) (hne : n ≠ x.2.number) : n ∉ x.2.path := by
  rw [Token.path, (h.descends x hx).1, List.mem_cons, not_or]
  exact ⟨hne, h.not_mem_process hn⟩

end Stage.Sound

/-- A stage and a roster as the moves of cycles leave them. -/
structure Settled (s : Stage) (r : Roster Token) : Prop where
  chronicle : ∃ steps, Chronicle s r.instances steps
  covered : Covered s r

namespace Settled

variable {s : Stage} {r : Roster Token} {k : String}

theorem sound (h : Settled s r) : s.Sound := h.chronicle.elim fun _ hc => hc.sound

/-! ## Changes -/

theorem aside (h : Settled s r) (a : Aside) : Settled (s.aside a) r where
  chronicle := h.chronicle.imp fun _ hc => hc.alike (s.alike_aside a)
  covered := h.covered.aside a

theorem asides (h : Settled s r) (l : List Aside) : Settled (l.foldl Stage.aside s) r := by
  induction l generalizing s with
  | nil => exact h
  | cons a rest ih => exact ih (h.aside a)

/-- A step that brings, stops and forgets nothing. -/
theorem plain (h : Settled s r) {step : Step Token} (hp : step.isPlain = true)
    (hl : ∀ c t, step ≠ .launched c t) : Settled (s.note step) r where
  chronicle := by
    have hs (c : String) (t : Token) : step ≠ .stopped c t := by
      rintro rfl
      cases hp
    obtain ⟨steps, hc⟩ := h.chronicle
    rw [s.note_eq hs]
    exact ⟨_, (hc.quiet hl hs).alike (s.alike_withStore _)⟩
  covered := h.covered.plain_note hp

theorem launch (h : Settled s r) {c : String} (hc : c ∉ r.instances) (a : Attempt) :
    Settled { (s.build c a).2 with instances := s.instances ++ [(c, (s.build c a).1)] }
      (r.launch c (s.build c a).1) where
  chronicle := h.chronicle.elim fun _ hs => ⟨_, hs.launch hc a⟩
  covered := h.covered.launch hc a

theorem fail (h : Settled s r) {c : String} (hc : c ∉ r.instances) (a : Attempt)
    (f : ControllerFailure) :
    Settled (((s.build c a).2.fire (s.build c a).1).note (.launchFailed c f)) (r.fail c) where
  chronicle := by
    obtain ⟨steps, hs⟩ := h.chronicle
    exact ⟨steps, (hs.lost c a).alike (Stage.alike_withStore _ _)⟩
  covered := h.covered.fail hc a f

theorem abandon (h : Settled s r) (c : String) {a : Attempt} (ha : a.writes = []) :
    Settled ((s.build c a).2.fire (s.build c a).1) r where
  chronicle := h.chronicle.imp fun _ hs => hs.lost c a
  covered := h.covered.abandon c ha

theorem stop (h : Settled s r) {c : String} {t : Token} (ht : r.instances[c]? = some t) :
    Settled (s.note (.stopped c t)) (r.stop c) where
  chronicle := by
    obtain ⟨steps, hs⟩ := h.chronicle
    exact ⟨_, (hs.stop ht).alike ((s.fire t).alike_withStore _)⟩
  covered := h.covered.stop ht

theorem forget (h : Settled s r) (c : String) : Settled (s.note (.forgotten c)) (r.forget c) where
  chronicle := by
    obtain ⟨steps, hs⟩ := h.chronicle
    exact ⟨steps, hs.alike (s.alike_withStore _)⟩
  covered := h.covered.forget c

/-! ## Sinks and tokens -/

/-- A sink that can write is that of an instance. -/
theorem live_mem (h : Settled s r) {sink : Metrics.Sink} (hs : sink ∈ s.sinks)
    (hl : sink.isLive s.cancellation = true) :
    ∃ t, sink = ⟨sink.cluster, some t⟩ ∧ (sink.cluster, t) ∈ s.instances := by
  obtain ⟨t, ht, hr⟩ := h.covered.live sink hs hl
  obtain ⟨steps, hc⟩ := h.chronicle
  exact ⟨t, by rw [← ht], hc.managed _ t hr⟩

/-- When the process is shut down no sink can write. -/
theorem dead_of_fired (h : Settled s r) (hf : s.fired = true) {sink : Metrics.Sink}
    (hs : sink ∈ s.sinks) : sink.isLive s.cancellation = false := by
  rw [Bool.eq_false_iff]
  intro hl
  obtain ⟨t, he, ht⟩ := h.live_mem hs hl
  rw [he] at hl
  have hcancelled : s.cancellation.isCancelled t = true := by
    rw [h.sound.isCancelled_eq ht, show s.cancellation.isCancelled s.process = true from hf,
      Bool.or_true]
  simp [Metrics.Sink.isLive, hcancelled] at hl

/-- Nor can one of a cluster that is not managed. -/
theorem dead_of_unmanaged (h : Settled s r) (hk : k ∉ r.instances) {sink : Metrics.Sink}
    (hs : sink ∈ s.sinksOf k) : sink.isLive s.cancellation = false := by
  obtain ⟨hs, hcluster⟩ := List.mem_filter.mp hs
  rw [Bool.eq_false_iff]
  intro hl
  obtain ⟨t, -, ht⟩ := h.covered.live sink hs hl
  rw [beq_iff_eq.mp hcluster] at ht
  exact hk (r.mem_instances_iff.mpr ⟨t, ht⟩)

/-- When the process is shut down the newest instance is cancelled. -/
theorem cancelled_of_fired (h : Settled s r) (hf : s.fired = true) {t : Token}
    (ht : s.newest? k = some t) : s.cancellation.isCancelled t = true := by
  rw [h.sound.isCancelled_eq (Stage.newest?_mem ht),
    show s.cancellation.isCancelled s.process = true from hf, Bool.or_true]

/-- So it is when its cluster is not managed. -/
theorem cancelled_of_unmanaged (h : Settled s r) (hk : k ∉ r.instances) {t : Token}
    (ht : s.newest? k = some t) : s.cancellation.isCancelled t = true := by
  obtain ⟨steps, hc⟩ := h.chronicle
  refine Cancellation.isCancelled_eq_true.mpr ⟨t.number, List.mem_cons_self, ?_⟩
  refine (hc.fired _ (Stage.newest?_mem ht)).mpr fun hr => hk (r.mem_instances_iff.mpr ⟨t, hr⟩)

/-- The instance that is managed is cancelled only with the process. -/
theorem isCancelled_managed (h : Settled s r) {t : Token} (ht : r.instances[k]? = some t) :
    s.cancellation.isCancelled t = s.fired := by
  obtain ⟨steps, hc⟩ := h.chronicle
  have hm : (k, t) ∈ s.instances := hc.managed k t ht
  have hnot : s.cancellation.fired.contains t.number = false := by
    rw [Bool.eq_false_iff, ne_eq, Std.ExtTreeSet.contains_iff_mem]
    exact fun hfired => (hc.fired _ hm).mp hfired ht
  rw [h.sound.isCancelled_eq hm, hnot, Bool.false_or]
  rfl

end Settled

/-- Every course is settled. -/
theorem Course.settled (turns : List Turn) : Settled (run turns).stage (run turns).roster where
  chronicle := ⟨_, chronicle turns⟩
  covered :=
    run_keeps (P := fun c => Covered c.stage c.roster) Covered.start (fun _ t h => h.turn t) turns

end Flotilla.Fleet
