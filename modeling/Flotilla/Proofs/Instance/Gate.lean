import Flotilla.Instance.Attempt
import Flotilla.Instance.Timeline
import Flotilla.Proofs.Controllers.Schedule
import Flotilla.Proofs.Metrics.Index
import Flotilla.Proofs.Retry.Disturbed
import Flotilla.Proofs.Retry.Polling

/-!
# Nothing is started before the apiserver is healthy

A launch asks the apiserver for its health first.  Until an answer says that it is healthy no
builder is asked, no controller runs and no informer is started, and if none says so in time none of
this ever happens.

* `HealthReply.Healthy`: an answer that says so.
* `Launch.Admitted`: a launch that got such an answer.
* `Launch.TurnedAway`: a launch that did not.
* `launch_gated`: every launch is one or the other.  When the apiserver is asked every second for
  thirty seconds and answers at once, the answers of the first thirty questions count.  The one that
  falls due at the deadline is cut before it is sent.
-/

namespace Flotilla

open Time (Moment)

namespace Apiserver

/-- An answer that says that the apiserver is healthy: it is no error, and its body is UTF-8 for
`ok` with nothing but blanks around it. -/
structure HealthReply.Healthy (r : HealthReply) : Prop where
  whole : r.broken = false
  status : ¬ (400 ≤ r.status ∧ r.status < 600)
  body : ∃ text, Text.decode r.body = .ok text ∧ Text.trim text = "ok"

theorem HealthReply.isReady_iff {r : HealthReply} : r.isReady = true ↔ r.Healthy := by
  unfold isReady
  constructor
  · intro h
    simp only [Bool.and_eq_true, Bool.not_eq_true', Bool.and_eq_false_imp, decide_eq_true_eq,
      decide_eq_false_iff_not] at h
    obtain ⟨⟨hwhole, hstatus⟩, hbody⟩ := h
    refine ⟨hwhole, fun hs => hstatus hs.1 hs.2, ?_⟩
    split at hbody
    · next text htext => exact ⟨text, htext, by simpa using hbody⟩
    · cases hbody
  · rintro ⟨hwhole, hstatus, text, htext, htrim⟩
    simp only [hwhole, htext, htrim, Bool.not_false, Bool.true_and, beq_self_eq_true, Bool.and_true,
      Bool.not_eq_true', Bool.and_eq_false_imp, decide_eq_true_eq, decide_eq_false_iff_not]
    exact fun hle hlt => hstatus ⟨hle, hlt⟩

theorem HealthReply.isReady_eq_false {r : HealthReply} : r.isReady = false ↔ ¬ r.Healthy := by
  rw [← isReady_iff, Bool.not_eq_true]

/-- The answer to a question for the health. -/
def World.reply (w : World) (k : Nat) : HealthReply :=
  (w.health[k]?.or w.health.getLast?).getD .healthy

theorem World.healthChecks_eq (w : World) (k : Nat) : w.healthChecks k = (w.reply k).check := by
  simp only [healthChecks, Retry.Checks.ofList, reply, List.getElem?_map, List.getLast?_map]
  cases w.health[k]? <;> cases w.health.getLast? <;> rfl

end Apiserver

namespace Instance

open Apiserver (World HealthReply)
open Controllers (Effect)
open Retry (Policy)

/-! ## The two ends -/

/-- The apiserver said that it was healthy, in answer to a question of this number, and the launch
went on. -/
structure Launch.Admitted (start : Moment) (shutdown : Option Moment) (l : Launch) (k : Nat) :
    Prop where
  /-- It said so for the first time. -/
  unhealthy : ∀ i < k, ¬ (l.world.reply i).Healthy
  healthy : (l.world.reply k).Healthy
  asked : l.asked.length = k + 1
  /-- The answer came before the deadline and before the shutdown. -/
  arrives : ∃ s, l.asked[k]? = some s ∧ l.ended = s + (l.world.reply k).after
  inTime : ∀ limit, l.plan.readiness.timeout = some limit → l.ended < start + limit.toNanos
  open' : ∀ T, shutdown = some T → l.ended < T
  /-- The builders are asked then. -/
  invoked : l.invoked = askedOf l.client.cluster l.plan.builders
  outcome : (l.started, l.failure) = startAll l.client.cluster l.plan.builders
  failure : ∀ failure, l.failure = some failure →
    failure ≠ .cancelled ∧ ∀ cluster why, failure ≠ .notReady cluster why
  /-- What the controllers do they do later, and so it is with the informers. -/
  activity : ∀ stop withLookups horizon, ∀ x ∈ l.activity stop withLookups horizon, l.ended ≤ x.1
  informers : ∀ stop, (l.informers stop).start = none ∨ (l.informers stop).start = some l.ended

/-- The apiserver did not say in time that it was healthy, and nothing was done. -/
structure Launch.TurnedAway (l : Launch) : Prop where
  failure : l.failure = some .cancelled ∨ ∃ why, l.failure = some (.notReady l.client.cluster why)
  invoked : l.invoked = []
  started : l.started = []
  activity : ∀ stop withLookups horizon, l.activity stop withLookups horizon = []
  metrics : ∀ w : Watch, w.launch = l → ∀ t, w.metricsAt t = {}
  informers : ∀ stop, (l.informers stop).start = none

section

variable (client : AdminClient) (world : World) (start : Moment) (shutdown : Option Moment)

/-- What becomes of a launch. -/
structure Gated (plan : Plan) : Prop where
  /-- It is one or the other. -/
  ends : ∀ l, Launch.run plan client world start shutdown = some l →
    l.plan = plan ∧ l.client = client ∧ l.world = world ∧
      ((∃ k, l.Admitted start shutdown k) ∨ l.TurnedAway)
  /-- When the apiserver is asked every second, the first thirty answers count if they come at
  once. -/
  opens : plan.readiness = .readiness → ∀ k < 30, (∀ i ≤ k, (world.reply i).after = 0) →
    (∀ i < k, ¬ (world.reply i).Healthy) → (world.reply k).Healthy →
      (∀ T, shutdown = some T → start + k * Time.nanosPerSecond < T) →
        ∃ l, Launch.run plan client world start shutdown = some l ∧
          l.Admitted start shutdown k ∧ l.ended = start + k * Time.nanosPerSecond ∧
            l.asked = (List.range (k + 1)).map fun i => start + i * Time.nanosPerSecond
  /-- And no others. -/
  shuts : plan.readiness = .readiness → (∀ i < 30, (world.reply i).after = 0) →
    (∀ i < 30, ¬ (world.reply i).Healthy) →
      (∀ T, shutdown = some T → start + 30 * Time.nanosPerSecond < T) →
        ∃ l, Launch.run plan client world start shutdown = some l ∧ l.TurnedAway ∧
          l.failure = some (.notReady client.cluster "timed out after 30s") ∧
            l.ended = start + 30 * Time.nanosPerSecond ∧
              l.asked = (List.range 30).map fun i => start + i * Time.nanosPerSecond

end

variable {plan : Plan} {client : AdminClient} {world : World} {start : Moment}
  {shutdown : Option Moment}

/-! ## What a launch does -/

/-- Controllers do nothing before the launch is over. -/
theorem Launch.ended_le_of_mem_activity {l : Launch} {stop : Option Moment} {withLookups : Bool}
    {horizon : Moment} {x : Moment × String × Effect}
    (hx : x ∈ l.activity stop withLookups horizon) : l.ended ≤ x.1 := by
  obtain ⟨b, -, hb⟩ := List.mem_flatMap.mp hx
  obtain ⟨⟨m, e⟩, hm, rfl⟩ := List.mem_map.mp hb
  rcases List.mem_append.mp hm with hbuilt | hrun
  · obtain ⟨e', -, he⟩ := List.mem_map.mp hbuilt
    cases he
    exact Nat.le_refl _
  · cases b with
    | service => exact Controllers.Service.start_le_of_mem_run hrun
    | node => exact Controllers.Node.start_le_of_mem_run hrun
    | scripted name fails returns =>
      simp only [scriptedActivity] at hrun
      split at hrun
      · cases hrun
      · obtain ⟨rfl, rfl⟩ := Prod.mk.inj (List.mem_singleton.mp hrun)
        exact Nat.le_refl _

theorem Launch.start_informers_eq (l : Launch) (stop : Option Moment) :
    (l.informers stop).start = none ∨ (l.informers stop).start = some l.ended := by
  simp only [informers]
  cases l.succeeded with
  | true => exact Or.inr rfl
  | false => exact Or.inl rfl

/-- Metrics that nobody wrote to stay empty when a cluster is forgotten. -/
theorem forget_empty (cluster : String) : ({} : Metrics.Store).forget cluster = {} := by
  have hnone : (({} : Metrics.Store).written.getD cluster ∅).toList = [] := by simp
  simp only [Metrics.Store.forget, hnone, List.foldl_nil]
  simp

/-- Where no controller was started nothing is ever written. -/
theorem Watch.metricsAt_of_started {w : Watch} (h : w.launch.started = []) (t : Moment) :
    w.metricsAt t = {} := by
  simp only [metricsAt, writes, Launch.activity, h, List.flatMap_nil, List.map_nil, List.nil_append]
  generalize hforgets : (List.map _ _ : List (Moment × (Metrics.Store → Metrics.Store))) = forgets
  have hall : ∀ x ∈ forgets.mergeSort (fun a b => a.1 ≤ b.1), x.2 {} = {} := by
    intro x hx
    rw [List.mem_mergeSort, ← hforgets] at hx
    obtain ⟨y, -, rfl⟩ := List.mem_map.mp hx
    exact forget_empty _
  generalize forgets.mergeSort (fun a b => decide (a.1 ≤ b.1)) = writes at hall
  induction writes with
  | nil => rfl
  | cons x rest ih =>
    rw [List.foldl_cons, hall x List.mem_cons_self]
    exact ih fun y hy => hall y (List.mem_cons_of_mem _ hy)

theorem turnedAway {l : Launch} (hfailure : l.failure = some .cancelled ∨
    ∃ why, l.failure = some (.notReady l.client.cluster why)) (hinvoked : l.invoked = [])
    (hstarted : l.started = []) : l.TurnedAway where
  failure := hfailure
  invoked := hinvoked
  started := hstarted
  activity stop withLookups horizon := by simp [Launch.activity, hstarted]
  metrics w hw t := by
    subst hw
    exact Watch.metricsAt_of_started hstarted t
  informers stop := by
    have hfailed : l.succeeded = false := by
      rcases hfailure with h | ⟨why, h⟩ <;> simp [Launch.succeeded, h]
    simp [Launch.informers, hfailed]

/-- Requests go through a queue, so the answer that counts comes before every limit. -/
theorem answer_lt_first {policy : Policy} {l : Retry.Limits} {k : Nat} {o : Except RetryFailure Nat}
    {e t : Moment} {why : RetryFailure} (hc : policy.Closes world.healthChecks start l k o e)
    (hfirst : l.first = some (t, why)) : e < t := by
  rcases Retry.Limits.hears_iff.mp hc.heard t why hfirst with hlt | ⟨-, hprompt⟩
  · exact hlt
  · rw [World.healthChecks_eq] at hprompt
    cases hprompt

variable (client) in
/-- A launch whose apiserver answered well. -/
theorem admitted {r : Retry.Run} {n : Nat} {l : Launch}
    (hr : plan.readiness.run world.healthChecks start shutdown = some r) (hok : r.outcome = .ok n)
    (hl : l =
      { plan, client, world, ended := r.ended, asked := r.sent,
        invoked := askedOf client.cluster plan.builders,
        started := (startAll client.cluster plan.builders).1,
        failure := (startAll client.cluster plan.builders).2 }) :
    ∃ k, n = k + 1 ∧ l.Admitted start shutdown k := by
  have ha := Policy.account hr
  obtain ⟨k, rfl, hlength, hready, hrefused, hc⟩ := ha.last_of_ok hok
  obtain ⟨s, hb⟩ := hc.begun
  obtain ⟨s', d, hdue, htakes, hended⟩ := Policy.answered_eq_some.mp hc.answered
  rw [hb.due] at hdue
  cases hdue
  simp only [World.healthChecks_eq, HealthReply.check] at hready hrefused
  rw [World.healthChecks_eq] at htakes
  cases htakes
  have hsent : r.sent = r.calls.map (·.2) := by simp only [Retry.Run.sent, hok]
  subst hl
  refine ⟨k, rfl, ?_, ?_, ?_, ?_, ?_, ?_, rfl, rfl, ?_, ?_, ?_⟩
  · intro i hi
    exact HealthReply.isReady_eq_false.mp (hrefused i hi)
  · exact HealthReply.isReady_iff.mp hready
  · simp only [hsent, List.length_map, hlength]
  · refine ⟨s, ?_, hended⟩
    simp only [hsent, List.getElem?_map, ha.getElem?_calls.mpr ⟨rfl, hb⟩, Option.map_some]
  · intro limit hlimit
    obtain ⟨t, why, hfirst, hle⟩ := Retry.Limits.exists_first_of_deadline
      (l := plan.readiness.limits start shutdown) (Policy.deadline_limits.mpr ⟨hlimit, rfl⟩)
    exact Nat.lt_of_lt_of_le (answer_lt_first hc hfirst) hle
  · intro T hT
    obtain ⟨t, why, hfirst, hle⟩ := Retry.Limits.exists_first_of_shutdown
      (l := plan.readiness.limits start shutdown) hT
    exact Nat.lt_of_lt_of_le (answer_lt_first hc hfirst) hle
  · intro failure hfailure
    obtain ⟨controller, named, why, rfl⟩ := startAll_error hfailure
    constructor
    · intro h
      cases h
    · intro cluster why h
      cases h
  · intro stop withLookups horizon x hx
    exact Launch.ended_le_of_mem_activity hx
  · intro stop
    exact Launch.start_informers_eq _ stop

variable (client) in
/-- A launch is over with its questions for the health, and is one or the other. -/
theorem run_cases {r : Retry.Run}
    (hr : plan.readiness.run world.healthChecks start shutdown = some r) :
    ∃ l, Launch.run plan client world start shutdown = some l ∧ l.plan = plan ∧
      l.client = client ∧ l.world = world ∧ l.ended = r.ended ∧ l.asked = r.sent ∧
        ((∃ k, r.outcome = .ok (k + 1) ∧ l.Admitted start shutdown k) ∨
          ∃ why, r.outcome = .error why ∧ l.TurnedAway ∧
            (why ≠ .cancelled → l.failure = some (.notReady client.cluster why.message))) := by
  simp only [Launch.run, hr, Option.map_some, Option.some.injEq, exists_eq_left']
  cases ho : r.outcome with
  | ok n =>
    obtain ⟨k, rfl, hadmitted⟩ := admitted client hr ho rfl
    exact ⟨rfl, rfl, rfl, rfl, rfl, Or.inl ⟨k, rfl, hadmitted⟩⟩
  | error why =>
    cases why with
    | cancelled =>
      refine ⟨rfl, rfl, rfl, rfl, rfl, Or.inr ⟨_, rfl, turnedAway (Or.inl rfl) rfl rfl, ?_⟩⟩
      exact fun h => absurd rfl h
    | _ =>
      refine ⟨rfl, rfl, rfl, rfl, rfl, Or.inr ⟨_, rfl, turnedAway (Or.inr ⟨_, rfl⟩) rfl rfl, ?_⟩⟩
      exact fun _ => rfl

/-! ## A question every second -/

theorem refuse_of_unhealthy {n : Nat} (hnow : ∀ i < n, (world.reply i).after = 0)
    (hno : ∀ i < n, ¬ (world.reply i).Healthy) : world.healthChecks.Refuse n := by
  intro i hi
  rw [World.healthChecks_eq]
  exact ⟨HealthReply.isReady_eq_false.mpr (hno i hi), congrArg some (hnow i hi)⟩

theorem toNanos_ofSecs_one : (Time.Span.ofSecs 1).toNanos = Time.nanosPerSecond := by decide

theorem toNanos_ofSecs_thirty : (Time.Span.ofSecs 30).toNanos = 30 * Time.nanosPerSecond := by
  decide

/-- The first thirty answers count. -/
theorem opens (hpolicy : plan.readiness = .readiness) {k : Nat} (hk : k < 30)
    (hnow : ∀ i ≤ k, (world.reply i).after = 0) (hno : ∀ i < k, ¬ (world.reply i).Healthy)
    (hyes : (world.reply k).Healthy)
    (hshut : ∀ T, shutdown = some T → start + k * Time.nanosPerSecond < T) :
    ∃ l, Launch.run plan client world start shutdown = some l ∧ l.Admitted start shutdown k ∧
      l.ended = start + k * Time.nanosPerSecond ∧
        l.asked = (List.range (k + 1)).map fun i => start + i * Time.nanosPerSecond := by
  have hlt : k * (Time.Span.ofSecs 1).toNanos < (Time.Span.ofSecs 30).toNanos := by
    rw [toNanos_ofSecs_one, toNanos_ofSecs_thirty]
    exact Nat.mul_lt_mul_of_pos_right hk (by decide)
  obtain ⟨r, hr, hok, hsent, hended⟩ := Policy.run_polls_ok
    Policy.readiness_polls (refuse_of_unhealthy (fun i hi => hnow i (Nat.le_of_lt hi)) hno)
    (by rw [World.healthChecks_eq]; exact HealthReply.isReady_iff.mpr hyes)
    (by rw [World.healthChecks_eq]; exact congrArg some (hnow k (Nat.le_refl k))) hlt
    (Nat.lt_trans (Nat.succ_lt_succ hk) (by decide))
  rw [toNanos_ofSecs_one] at hsent hended
  rw [← hpolicy] at hr
  obtain ⟨l, hl, -, -, -, hlended, hlasked, hends⟩ := run_cases client
    (Policy.run_of_ended_lt hr (by rw [hended]; exact hshut))
  refine ⟨l, hl, ?_, hlended.trans hended, hlasked.trans hsent⟩
  rcases hends with ⟨j, hj, hadmitted⟩ | ⟨why, hwhy, -⟩
  · rw [hok] at hj
    cases hj
    exact hadmitted
  · rw [hok] at hwhy
    cases hwhy

/-- And no others. -/
theorem shuts (hpolicy : plan.readiness = .readiness)
    (hnow : ∀ i < 30, (world.reply i).after = 0) (hno : ∀ i < 30, ¬ (world.reply i).Healthy)
    (hshut : ∀ T, shutdown = some T → start + 30 * Time.nanosPerSecond < T) :
    ∃ l, Launch.run plan client world start shutdown = some l ∧ l.TurnedAway ∧
      l.failure = some (.notReady client.cluster "timed out after 30s") ∧
        l.ended = start + 30 * Time.nanosPerSecond ∧
          l.asked = (List.range 30).map fun i => start + i * Time.nanosPerSecond := by
  have hbefore (i : Nat) (hi : i < 30) :
      i * (Time.Span.ofSecs 1).toNanos < (Time.Span.ofSecs 30).toNanos := by
    rw [toNanos_ofSecs_one, toNanos_ofSecs_thirty]
    exact Nat.mul_lt_mul_of_pos_right hi (by decide)
  obtain ⟨r, hr, hout, hsent, hended⟩ := Policy.run_polls_timedOut
    Policy.readiness_polls (refuse_of_unhealthy hnow hno)
    (fun i => by rw [World.healthChecks_eq]; rfl)
    (Nat.le_of_eq (by rw [toNanos_ofSecs_one, toNanos_ofSecs_thirty])) hbefore (by decide)
    (by decide)
  rw [toNanos_ofSecs_thirty] at hended
  rw [toNanos_ofSecs_one] at hsent
  rw [← hpolicy] at hr
  obtain ⟨l, hl, -, -, -, hlended, hlasked, hends⟩ := run_cases client
    (Policy.run_of_ended_lt hr (by rw [hended]; exact hshut))
  refine ⟨l, hl, ?_⟩
  rcases hends with ⟨j, hj, -⟩ | ⟨why, hwhy, hturned, hfailure⟩
  · rw [hout] at hj
    cases hj
  · rw [hout] at hwhy
    cases hwhy
    have hmessage : (RetryFailure.timedOut (.ofSecs 30)).message = "timed out after 30s" := by
      decide
    refine ⟨hturned, ?_, hlended.trans hended, hlasked.trans hsent⟩
    rw [hfailure nofun, hmessage]

/-- Nothing is started before the apiserver is healthy. -/
theorem launch_gated (plan : Plan) (client : AdminClient) (world : World) (start : Moment)
    (shutdown : Option Moment) : Gated client world start shutdown plan where
  ends l hl := by
    obtain ⟨r, hr, -⟩ := Option.map_eq_some_iff.mp hl
    obtain ⟨l', hl', hplan, hclient, hworld, -, -, hends⟩ := run_cases client hr
    rw [hl] at hl'
    cases hl'
    refine ⟨hplan, hclient, hworld, ?_⟩
    rcases hends with ⟨k, -, hadmitted⟩ | ⟨why, -, hturned, -⟩
    · exact Or.inl ⟨k, hadmitted⟩
    · exact Or.inr hturned
  opens hpolicy k hk hnow hno hyes hshut := opens hpolicy hk hnow hno hyes hshut
  shuts hpolicy hnow hno hshut := shuts hpolicy hnow hno hshut

/-- The apiserver says that it is healthy when the question falls due at the deadline. -/
def lateWorld : World :=
  { health := List.replicate 30 { body := Text.encode "degraded" } ++ [.healthy] }

/-- That is too late: the question is never sent. -/
theorem not_asked_at_deadline :
    ¬ ∀ (client : AdminClient) (world : World) (k : Nat), k ≤ 30 →
      (∀ i ≤ k, (world.reply i).after = 0) → (∀ i < k, ¬ (world.reply i).Healthy) →
        (world.reply k).Healthy → ∃ l, Launch.run {} client world 0 none = some l ∧
          l.asked = (List.range (k + 1)).map (fun i => i * Time.nanosPerSecond) ∧
            l.ended = k * Time.nanosPerSecond ∧ l.invoked ≠ [] := by
  intro h
  have hnow : ∀ i < 31, (lateWorld.reply i).after = 0 := by decide +kernel
  have hno : ∀ i < 30, (lateWorld.reply i).isReady = false := by decide +kernel
  have hyes : (lateWorld.reply 30).isReady = true := by decide +kernel
  have hunhealthy (i : Nat) (hi : i < 30) : ¬ (lateWorld.reply i).Healthy :=
    HealthReply.isReady_eq_false.mp (hno i hi)
  obtain ⟨l, hl, hasked, -⟩ := h ⟨"alpha", .external, "https://alpha"⟩ lateWorld 30 (Nat.le_refl 30)
    (fun i hi => hnow i (Nat.lt_succ_of_le hi)) hunhealthy (HealthReply.isReady_iff.mp hyes)
  obtain ⟨l', hl', -, -, -, hsent⟩ := @shuts {} ⟨"alpha", .external, "https://alpha"⟩ lateWorld 0
    none rfl (fun i hi => hnow i (Nat.lt_succ_of_lt hi)) hunhealthy nofun
  rw [hl] at hl'
  cases hl'
  rw [hsent] at hasked
  have hlength := congrArg List.length hasked
  simp only [List.length_map, List.length_range] at hlength
  cases hlength

end Instance

end Flotilla
