import Flotilla.Instance.Timeline
import Flotilla.Proofs.Apiserver.Lifecycle
import Flotilla.Proofs.Controllers.Stopping
import Flotilla.Proofs.Metrics.Index

/-!
# An instance falls silent

When the token of an instance fires, because the instance is cancelled or because the process is
shut down, its controllers and informers end and nothing is done on its behalf any more.
`Watch.Silent` says so of everything that can be seen of an instance.

What the metrics show at a moment is what was written by then, in order of time.  Of writes at one
moment those of the controllers come first, so that a cluster that is forgotten when the token has
fired stays forgotten (`Watch.not_labels`).
-/

namespace Flotilla

open Time (Moment)

/-! ## The stores of the informers -/

namespace Apiserver

theorem Informers.storeAt_stopped {i : Informers} {start T t : Moment} (hi : i.start = some start)
    (hstop : i.stop = some T) (ht : T ≤ t) {α : Type} [Identified α] (f : Feed α) :
    i.storeAt f t = i.storeAt f T := by
  simp only [storeAt, hi, hstop, f.storeAt_stopped (Nat.le_refl T) ht]

theorem Informers.finishedAt_stopped {i : Informers} {start T t : Moment}
    (hi : i.start = some start) (hstop : i.stop = some T) (hstart : start ≤ T) (ht : T ≤ t) :
    i.finishedAt t = 2 := by
  have hend {α : Type} [Identified α] (f : Feed α) : endedBy t (i.taskEnd f) = true := by
    rw [endedBy_taskEnd hi (Nat.le_trans hstart ht), hstop, endedBy, decide_eq_true ht, Bool.or_true]
  simp only [finishedAt, hend, Bool.toNat_true]

end Apiserver

namespace Instance

open Controllers

/-! ## The controllers -/

section Launch

variable (l : Launch)

/-- The store of a feed got ready before a moment: its list came before that and could be stored. -/
def Launch.hasListed {α : Type} [Apiserver.Identified α] (feed : Apiserver.Feed α) (T : Moment) :
    Prop :=
  feed.listedAt l.ended < T ∧ feed.ready (feed.listedAt l.ended) = true

instance {α : Type} [Apiserver.Identified α] (feed : Apiserver.Feed α) (T : Moment) :
    Decidable (l.hasListed feed T) :=
  inferInstanceAs (Decidable (feed.listedAt l.ended < T ∧ _ = true))

/-- The last line of the service controller when the token fires at a moment: whether its stores got
ready before. -/
def Launch.serviceStop (T : Moment) : LogLine :=
  if l.hasListed l.world.services T ∧ l.hasListed l.world.nodes T then
    .info s!"Stopping service controller for cluster {l.client.cluster}"
  else .info s!"Service controller for cluster {l.client.cluster} stopped before caches synced"

/-- The last line of the node controller. -/
def Launch.nodeStop (T : Moment) : LogLine :=
  if l.hasListed l.world.nodes T then
    .info s!"Stopping node controller for cluster {l.client.cluster}"
  else .info s!"Node controller for cluster {l.client.cluster} stopped before cache synced"

variable {l} {stop : Option Moment} {T : Moment}

theorem Launch.start_informers (hok : l.succeeded = true) :
    (l.informers stop).start = some l.ended := by
  simp [informers, hok]

theorem Launch.stop_term (hok : l.succeeded = true) (hstop : stop = some T) :
    (l.term stop).stop = some T := by
  simp [term, stopOf, hok, hstop]

/-- A controller got to see the store of a feed if that got ready before the token fires. -/
theorem Launch.waitFor_eq_ready (hok : l.succeeded = true) (hstop : stop = some T) {α : Type}
    [Apiserver.Identified α] (feed : Apiserver.Feed α) :
    (l.term stop).waitFor feed = .ready ↔ l.hasListed feed T := by
  rw [Term.waitFor_eq_ready (start_informers hok), Launch.hasListed, ← Nat.not_le,
    ← Term.stoppedBy_iff (stop_term hok hstop), Bool.not_eq_true]
  rfl

theorem Launch.stopLine_service (hok : l.succeeded = true) (hstop : stop = some T) :
    Service.stopLine (l.term stop) = l.serviceStop T := by
  have hready : Service.wait (l.term stop) = .ready ↔
      l.hasListed l.world.services T ∧ l.hasListed l.world.nodes T := by
    rw [Service.wait, Term.waitBoth_eq_ready, waitFor_eq_ready hok hstop,
      waitFor_eq_ready hok hstop]
    rfl
  unfold serviceStop Service.stopLine
  split
  · next h => rw [if_pos (hready.mp h)]; rfl
  · next h => rw [if_neg (fun hr => h (hready.mpr hr))]; rfl

theorem Launch.stopLine_node (hok : l.succeeded = true) (hstop : stop = some T) :
    Node.stopLine (l.term stop) = l.nodeStop T := by
  have hready : Node.wait (l.term stop) = .ready ↔ l.hasListed l.world.nodes T :=
    waitFor_eq_ready hok hstop _
  unfold nodeStop Node.stopLine
  split
  · next h => rw [if_pos (hready.mp h)]; rfl
  · next h => rw [if_neg (fun hr => h (hready.mpr hr))]; rfl

/-- What a launch does once its token has fired. -/
theorem Launch.activityOf_settled (hok : l.succeeded = true) (hstop : stop = some T)
    (hlater : l.ended ≤ T) (withLookups : Bool) (b : Builder) {t : Moment} (ht : T ≤ t) :
    l.activityOf stop withLookups t b = l.activityOf stop withLookups T b := by
  cases b with
  | service =>
    exact congrArg _ ((Service.stops (stop_term hok hstop) hlater withLookups).settled ht)
  | node => exact congrArg _ ((Node.stops (stop_term hok hstop) hlater).settled ht)
  | scripted name fails returns => rfl

theorem Launch.le_of_mem_activityOf (hok : l.succeeded = true) (hstop : stop = some T)
    (hlater : l.ended ≤ T) {withLookups : Bool} {b : Builder} {x : Moment × Effect}
    (hx : x ∈ l.activityOf stop withLookups T b) : x.1 ≤ T := by
  rcases List.mem_append.mp hx with hx | hx
  · obtain ⟨e, -, rfl⟩ := List.mem_map.mp hx
    exact hlater
  · cases b with
    | service => exact (Service.stops (stop_term hok hstop) hlater withLookups).le_of_mem hlater hx
    | node => exact (Node.stops (stop_term hok hstop) hlater).le_of_mem hlater hx
    | scripted name fails returns =>
      simp only [scriptedActivity] at hx
      split at hx
      · cases hx
      · obtain rfl := List.mem_singleton.mp hx
        exact hlater

theorem Launch.finishOf_le (hok : l.succeeded = true) (hstop : stop = some T)
    (hlater : l.ended ≤ T) (b : Builder) : ∃ m, m ≤ T ∧ l.finishOf stop b = some m := by
  cases b with
  | service =>
    obtain ⟨m, hm, hfinish, -⟩ := (Service.stops (stop_term hok hstop) hlater false).ends
    exact ⟨m, hm, hfinish⟩
  | node =>
    obtain ⟨m, hm, hfinish, -⟩ := (Node.stops (stop_term hok hstop) hlater).ends
    exact ⟨m, hm, hfinish⟩
  | scripted name fails returns =>
    cases returns with
    | true => exact ⟨l.ended, hlater, rfl⟩
    | false => exact ⟨T, Nat.le_refl T, by simp [finishOf, stopOf, hok, hstop]⟩

end Launch

/-! ## The metrics -/

namespace Watch

variable {w : Watch} {T : Moment}

/-- What the controllers write by a moment. -/
def effects (w : Watch) (t : Moment) : List (Moment × (Metrics.Store → Metrics.Store)) :=
  (w.launch.activity w.stop false t).map fun (m, controller, e) =>
    (m, fun store => e.record w.launch.client.cluster controller store)

/-- How the cluster is forgotten by a moment. -/
def forgets (w : Watch) (t : Moment) : List (Moment × (Metrics.Store → Metrics.Store)) :=
  (w.acts.filter fun (m, a) => a == .forget && m ≤ t).map fun (m, _) =>
    (m, fun store => store.forget w.launch.client.cluster)

theorem writes_eq (w : Watch) (t : Moment) :
    w.writes t = (w.effects t ++ w.forgets t).mergeSort fun a b => a.1 ≤ b.1 := rfl

theorem mem_forgets {t : Moment} {x : Moment × (Metrics.Store → Metrics.Store)} :
    x ∈ w.forgets t ↔ ((x.1, .forget) ∈ w.acts ∧ x.1 ≤ t) ∧
      x.2 = fun store => store.forget w.launch.client.cluster := by
  obtain ⟨m, f⟩ := x
  simp only [forgets, List.mem_map, List.mem_filter, Prod.exists, Prod.mk.injEq, Bool.and_eq_true,
    beq_iff_eq, decide_eq_true_eq]
  constructor
  · rintro ⟨m', a, ⟨hm, rfl, hle⟩, rfl, rfl⟩
    exact ⟨⟨hm, hle⟩, rfl⟩
  · rintro ⟨⟨hm, hle⟩, rfl⟩
    exact ⟨m, .forget, ⟨hm, rfl, hle⟩, rfl, rfl⟩

/-- All metrics that are written list their series. -/
theorem indexed_writes {t : Moment} {writes : List (Moment × (Metrics.Store → Metrics.Store))}
    (hw : ∀ x ∈ writes, x ∈ w.effects t ∨ x ∈ w.forgets t) {m : Metrics.Store} (hm : m.Indexed) :
    (writes.foldl (fun store x => x.2 store) m).Indexed := by
  induction writes generalizing m with
  | nil => exact hm
  | cons x rest ih =>
    refine ih (fun y hy => hw y (List.mem_cons_of_mem _ hy)) ?_
    rcases hw x List.mem_cons_self with hx | hx
    · obtain ⟨⟨moment, controller, e⟩, -, rfl⟩ := List.mem_map.mp hx
      cases e with
      | log line => exact hm
      | sync => exact hm.recordSync _ _
      | objects n => exact hm.setObjects _ _ _
    · show (x.2 m).Indexed
      rw [(mem_forgets.mp hx).2]
      exact hm.forget _

section

variable (hok : w.launch.succeeded = true) (hstop : w.stop = some T) (hlater : w.launch.ended ≤ T)

include hok hstop hlater

theorem activity_settled (withLookups : Bool) {t : Moment} (ht : T ≤ t) :
    w.launch.activity w.stop withLookups t = w.launch.activity w.stop withLookups T := by
  simp only [Launch.activity, Launch.activityOf_settled hok hstop hlater withLookups _ ht]

theorem le_of_mem_effects {t : Moment} (ht : T ≤ t) {x : Moment × (Metrics.Store → Metrics.Store)}
    (hx : x ∈ w.effects t) : x.1 ≤ T := by
  unfold effects at hx
  rw [activity_settled hok hstop hlater false ht] at hx
  obtain ⟨⟨m, controller, e⟩, hm, rfl⟩ := List.mem_map.mp hx
  obtain ⟨b, -, hb⟩ := List.mem_flatMap.mp hm
  obtain ⟨⟨m', e'⟩, hx, he⟩ := List.mem_map.mp hb
  cases he
  exact Launch.le_of_mem_activityOf hok hstop hlater hx

/-- Unless the cluster is forgotten the metrics stay as they are. -/
theorem metricsAt_settled {t : Moment} (ht : T ≤ t)
    (hnone : ∀ F, (F, .forget) ∈ w.acts → T < F → t < F) : w.metricsAt t = w.metricsAt T := by
  have heffects : w.effects t = w.effects T := by
    unfold effects
    rw [activity_settled hok hstop hlater false ht]
  have hforgets : w.forgets t = w.forgets T := by
    unfold forgets
    refine congrArg _ (List.filter_congr fun x hx => ?_)
    obtain ⟨m, a⟩ := x
    by_cases ha : a = .forget
    · subst ha
      have := hnone m hx
      simp only [beq_self_eq_true, Bool.true_and, decide_eq_decide]
      constructor
      · intro hmt
        exact Nat.not_lt.mp fun hlt => Nat.lt_irrefl _ (Nat.lt_of_lt_of_le (this hlt) hmt)
      · exact fun hmT => Nat.le_trans hmT ht
    · simp [beq_eq_false_iff_ne.mpr ha]
  rw [metricsAt, metricsAt, writes_eq, writes_eq, heffects, hforgets]

/-- Once the token has fired, what is forgotten is forgotten after all that was written. -/
theorem writes_end {F t : Moment} (hF : (F, .forget) ∈ w.acts) (hT : T ≤ F) (ht : F ≤ t) :
    ∃ before last, w.writes t = before ++ [last] ∧
      last.2 = fun store => store.forget w.launch.client.cluster := by
  have hle {x : Moment × (Metrics.Store → Metrics.Store)} (hx : x ∈ w.effects t) : x.1 ≤ T :=
    le_of_mem_effects hok hstop hlater (Nat.le_trans hT ht) hx
  let inF := (w.forgets t).filter fun x => x.1 = F
  let after := (w.writes t).filter fun x => F < x.1
  have hsplit : w.writes t = (w.writes t).filter (fun x => x.1 < F) ++
      ((w.effects t).filter (fun x => x.1 = F) ++ (inF ++ after)) := by
    have h := Time.split_of_sorted Prod.fst
      (Time.sorted_mergeSort Prod.fst (w.effects t ++ w.forgets t)) F
    rw [Time.filter_mergeSort Prod.fst, List.filter_append, List.append_assoc] at h
    exact h
  have hforgets : ∀ x ∈ inF ++ after, x ∈ w.forgets t := by
    intro x hx
    rcases List.mem_append.mp hx with hx | hx
    · exact (List.mem_filter.mp hx).1
    · obtain ⟨hm, hlt⟩ := List.mem_filter.mp hx
      rcases List.mem_append.mp (List.mem_mergeSort.mp hm) with he | hf
      · -- no controller writes so late
        have hlt : F < x.1 := of_decide_eq_true hlt
        exact absurd (Nat.le_trans (hle he) hT) (Nat.not_le.mpr hlt)
      · exact hf
  have hmem : (F, fun store => store.forget w.launch.client.cluster) ∈ inF ++ after :=
    List.mem_append_left _ (List.mem_filter.mpr
      ⟨mem_forgets.mpr ⟨⟨hF, ht⟩, rfl⟩, decide_eq_true rfl⟩)
  rcases List.eq_nil_or_concat (inF ++ after) with hnil | ⟨front, last, hlast⟩
  · rw [hnil] at hmem
    cases hmem
  · rw [List.concat_eq_append] at hlast
    have hm : last ∈ w.forgets t := hforgets last (by simp [hlast])
    rw [hlast, ← List.append_assoc, ← List.append_assoc] at hsplit
    exact ⟨_, last, hsplit, (mem_forgets.mp hm).2⟩

/-- A cluster that is forgotten when the token has fired labels no sample ever after. -/
theorem not_labels {F t : Moment} (hF : (F, .forget) ∈ w.acts) (hT : T ≤ F) (ht : F ≤ t) :
    ¬ (w.metricsAt t).Labels w.launch.client.cluster := by
  obtain ⟨before, last, hwrites, hlast⟩ := writes_end hok hstop hlater hF hT ht
  let store : Metrics.Store := before.foldl (fun store x => x.2 store) {}
  have hindexed : store.Indexed := by
    refine indexed_writes (w := w) (t := t) (fun x hx => ?_) .start
    have hm : x ∈ w.writes t := by
      rw [hwrites]
      exact List.mem_append_left _ hx
    exact List.mem_append.mp (List.mem_mergeSort.mp hm)
  have hstore : w.metricsAt t = store.forget w.launch.client.cluster := by
    rw [metricsAt, hwrites, List.foldl_append]
    show last.2 store = _
    rw [hlast]
  rw [hstore]
  exact fun h => (Metrics.Store.labels_forget hindexed h).1 rfl

end

/-- Nothing is done on behalf of an instance once its token has fired, at a moment `T`. -/
structure Silent (w : Watch) (T : Moment) : Prop where
  /-- All controllers have ended, and both informers. -/
  finished : ∀ t, T ≤ t → w.launch.finishedAt w.stop t = w.launch.controllers ∧
    (w.launch.informers w.stop).finishedAt t = 2
  /-- No lookup is begun. -/
  lookups : (∀ t, ∀ lookup ∈ w.launch.lookups w.stop t, lookup.begun < T) ∧
    ∀ t, T ≤ t → w.launch.lookups w.stop t = w.launch.lookups w.stop T
  /-- Nor is a pass, and the one that is under way is not completed. -/
  passes : ∀ t pass completed,
    (pass, completed) ∈ Service.passes (w.launch.term w.stop) t →
      pass.begun < T ∧ (completed = true ↔ pass.ended < T)
  /-- The service controller has done what its completed passes do.  Its last line says whether it
  got to see its stores. -/
  service : ∀ withLookups, Stops w.launch.ended T (Service.startLine (w.launch.term w.stop))
    (Service.done (w.launch.term w.stop) withLookups T) (w.launch.serviceStop T)
    (w.launch.finishOf w.stop .service) (Service.run (w.launch.term w.stop) withLookups)
  /-- So it is with the node controller. -/
  node : Stops w.launch.ended T (Node.startLine (w.launch.term w.stop))
    (Node.done (w.launch.term w.stop) T) (w.launch.nodeStop T)
    (w.launch.finishOf w.stop .node) (Node.run (w.launch.term w.stop))
  /-- No line comes any more. -/
  lines : ∀ kind t, T ≤ t → w.linesBetween kind (some T) t = []
  /-- No sample changes unless the cluster is forgotten. -/
  metrics : ∀ t, T ≤ t → (∀ F, (F, .forget) ∈ w.acts → T < F → t < F) →
    w.metricsAt t = w.metricsAt T
  /-- A cluster that is forgotten stays so. -/
  forgotten : ∀ F t, (F, .forget) ∈ w.acts → T ≤ F → F ≤ t →
    ¬ (w.metricsAt t).Labels w.launch.client.cluster
  /-- What happens to the objects of the cluster is not seen any more. -/
  stores : ∀ t, T ≤ t → (w.launch.informers w.stop).servicesAt t =
      (w.launch.informers w.stop).servicesAt T ∧
    (w.launch.informers w.stop).nodesAt t = (w.launch.informers w.stop).nodesAt T

section

variable (hok : w.launch.succeeded = true) (hstop : w.stop = some T) (hlater : w.launch.ended ≤ T)

include hok hstop hlater

theorem finishedAt_silent {t : Moment} (ht : T ≤ t) :
    w.launch.finishedAt w.stop t = w.launch.controllers := by
  unfold Launch.finishedAt Launch.controllers
  rw [List.filter_eq_self.mpr]
  intro b _
  obtain ⟨m, hm, hfinish⟩ := Launch.finishOf_le hok hstop hlater b
  rw [hfinish]
  exact decide_eq_true (Nat.le_trans hm ht)

omit hlater in
theorem lookups_silent {t : Moment} {lookup : Service.Lookup}
    (h : lookup ∈ w.launch.lookups w.stop t) : lookup.begun < T := by
  obtain ⟨-, -, h⟩ := List.mem_flatMap.mp h
  have hbegun := (List.mem_filter.mp h).2
  rw [Bool.and_eq_true, Bool.not_eq_true', Bool.eq_false_iff, ne_eq,
    Term.stoppedBy_iff (Launch.stop_term hok hstop), Nat.not_le] at hbegun
  exact hbegun.2

omit hlater in
theorem lookups_settled {t : Moment} (ht : T ≤ t) :
    w.launch.lookups w.stop t = w.launch.lookups w.stop T := by
  have hstopped := Launch.stop_term hok hstop
  simp only [Launch.lookups, Service.lookupsBegun, Service.passes_settled hstopped ht]
  congr 1
  funext _
  refine List.filter_congr fun lookup _ => ?_
  -- what is begun before the token fires is begun by either moment
  cases hs : (w.launch.term w.stop).stoppedBy lookup.begun with
  | true => simp
  | false =>
    have hlt : lookup.begun < T := by
      rw [← Nat.not_le, ← Term.stoppedBy_iff hstopped, hs]
      exact Bool.false_ne_true
    simp [Nat.le_of_lt hlt, Nat.le_trans (Nat.le_of_lt hlt) ht]

theorem linesBetween_silent (kind : Builder) {t : Moment} (ht : T ≤ t) :
    w.linesBetween kind (some T) t = [] := by
  have hle : ∀ x ∈ (w.launch.started.filter (· == kind)).flatMap
      (w.launch.activityOf w.stop true t), x.1 ≤ T := by
    intro x hx
    obtain ⟨b, -, hx⟩ := List.mem_flatMap.mp hx
    rw [Launch.activityOf_settled hok hstop hlater true b ht] at hx
    exact Launch.le_of_mem_activityOf hok hstop hlater hx
  rw [linesBetween, List.filter_eq_nil_iff.mpr fun x hx => by simpa using hle x hx,
    List.mergeSort_nil]
  rfl

end

/-- When the token of an instance fires, with the instance or with the process, the instance falls
silent. -/
theorem falls_silent (w : Watch) (T : Moment) (hok : w.launch.succeeded = true)
    (hstop : w.stop = some T) (hlater : w.launch.ended ≤ T) : w.Silent T where
  finished t ht := ⟨finishedAt_silent hok hstop hlater ht,
    Apiserver.Informers.finishedAt_stopped (Launch.start_informers hok)
      (Launch.stop_term hok hstop) hlater ht⟩
  lookups := ⟨fun _ _ h => lookups_silent hok hstop h,
    fun _ ht => lookups_settled hok hstop ht⟩
  passes _ _ _ hp := Service.of_mem_passes (Launch.stop_term hok hstop) hp
  service withLookups := by
    rw [← Launch.stopLine_service hok hstop]
    exact Service.stops (Launch.stop_term hok hstop) hlater withLookups
  node := by
    rw [← Launch.stopLine_node hok hstop]
    exact Node.stops (Launch.stop_term hok hstop) hlater
  lines kind _ ht := linesBetween_silent hok hstop hlater kind ht
  metrics _ ht hnone := metricsAt_settled hok hstop hlater ht hnone
  forgotten _ _ hF hT ht := not_labels hok hstop hlater hF hT ht
  stores _ ht :=
    ⟨Apiserver.Informers.storeAt_stopped (Launch.start_informers hok)
        (Launch.stop_term hok hstop) ht _,
      Apiserver.Informers.storeAt_stopped (Launch.start_informers hok)
        (Launch.stop_term hok hstop) ht _⟩

/-- A cluster with one load balancer, where a lookup takes longer than the time between passes. -/
def trialWatch : Option Watch :=
  watch { period := 3, workers := 1 } ⟨"alpha", .external, "https://alpha"⟩
    { services := { base := [⟨{ name := some "web" }, some "LoadBalancer"⟩] }, lookupTakes := 5 }
    none 1 [(7, .cancel), (9, .forget)]

/-- The instance is cancelled while its second pass is under way, and then its cluster is
forgotten. -/
theorem falls_silent_trial : ∃ w, trialWatch = some w ∧ w.launch.succeeded = true ∧
    w.stop = some 7 ∧ w.launch.ended ≤ 7 ∧ w.Silent 7 ∧
    w.launch.controllers = ["service", "node"] ∧ w.acts = [(7, .cancel), (9, .forget)] ∧
    (Service.passes (w.launch.term w.stop) 20).map
      (fun x => (x.1.begun, x.1.ended, x.2)) = [(0, 5, true), (5, 10, false)] := by
  obtain ⟨w, hw⟩ : ∃ w, trialWatch = some w := Option.isSome_iff_exists.mp (by decide +kernel)
  have read {α : Type} (f : Watch → α) (x : α) (h : trialWatch.map f = some x) : f w = x := by
    rw [hw] at h
    exact Option.some.inj h
  have hok : w.launch.succeeded = true := read (·.launch.succeeded) true (by decide +kernel)
  have hstop : w.stop = some 7 := read stop (some 7) (by decide +kernel)
  have hended : w.launch.ended = 0 := read (·.launch.ended) 0 (by decide +kernel)
  have hlater : w.launch.ended ≤ 7 := by rw [hended]; exact Nat.zero_le 7
  refine ⟨w, hw, hok, hstop, hlater, falls_silent w 7 hok hstop hlater, ?_, ?_, ?_⟩
  · exact read (·.launch.controllers) ["service", "node"] (by decide +kernel)
  · exact read acts [(7, .cancel), (9, .forget)] (by decide +kernel)
  · exact read (fun w => (Service.passes (w.launch.term w.stop) 20).map
      fun x => (x.1.begun, x.1.ended, x.2)) [(0, 5, true), (5, 10, false)] (by decide +kernel)

end Watch

end Instance

end Flotilla
