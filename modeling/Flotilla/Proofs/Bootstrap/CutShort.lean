import Flotilla.Proofs.Bootstrap.Tries
import Flotilla.Proofs.Instance.Reasons

/-!
# A search that is cut short

The search for a client ends with its shutdown, and what it has done is what it would have done by
then anyway.  A shutdown that comes later than the search would be over changes nothing.

* `Makes`: the calls of a search that no shutdown disturbs, each with its place.  Where such a search
  ends they are those of its outcome (`getElem?_calls_undisturbed`).
* `CutOff`: a search that the shutdown ended.
* `search_heeds_shutdown`: what comes of a search with a shutdown.
-/

namespace Flotilla.Bootstrap

open Retry (Policy attemptBound)
open Time (Moment)

section

variable (site : Site) (policy : Policy) (cluster : String)

/-- The calls of a search that no shutdown disturbs. -/
inductive Makes : List Endpoint → List String → Moment → Nat → Moment × Call → Prop
  | here {endpoint : Endpoint} {rest : List Endpoint} {earlier : List String} {start : Moment}
      {i : Nat} {x : Moment × Call} (asks : Asks site policy endpoint earlier start i x) :
      Makes (endpoint :: rest) earlier start i x
  | later {endpoint : Endpoint} {rest : List Endpoint} {earlier : List String} {start : Moment}
      {t : Try} {i : Nat} {x : Moment × Call}
      (tried : tryEndpoint site policy none cluster endpoint earlier start = some t)
      (fails : t.verdict = .fails)
      (makes : Makes rest (earlier ++ t.probes.map (·.2)) t.ended i x) :
      Makes (endpoint :: rest) earlier start ((t.calls endpoint start).length + i) x

/-- So it is with each endpoint that is tried. -/
def CountedFrom (T : Moment) : List Endpoint → List String → Moment → Prop
  | [], _, _ => True
  | endpoint :: rest, earlier, start => Counted site policy T endpoint earlier start ∧
      ∀ t, tryEndpoint site policy none cluster endpoint earlier start = some t →
        t.verdict = .fails → CountedFrom T rest (earlier ++ t.probes.map (·.2)) t.ended

/-- A search is over with the shutdown, and has made just the calls that it would have made by then
anyway. -/
structure CutOff (T : Moment) (endpoints : List Endpoint) (earlier : List String) (start : Moment)
    (s : Search) : Prop where
  outcome : s.outcome = .error .cancelled
  ended : s.ended = max start T
  calls : ∀ i x, s.calls[i]? = some x ↔
    Makes site policy cluster endpoints earlier start i x ∧ x.1 < T

/-- What comes of a search with a shutdown. -/
structure Heeds (start T : Moment) (s : Search) : Prop where
  /-- If the shutdown comes before the search would be over, the search ends with it. -/
  cut : (T ≤ start ∨ ∀ s₀, search site policy cluster start none = some s₀ → T < s₀.ended) →
    CutOff site policy cluster T Endpoint.preference [] start s
  /-- If it comes before the start nothing is called at all. -/
  early : T ≤ start → s.calls = []
  /-- If it comes later, the search is the same as without it. -/
  whole : start < T → ∀ s₀, search site policy cluster start none = some s₀ → s₀.ended < T → s = s₀
  /-- Any other outcome is one that there is without the shutdown, by the time it comes. -/
  honest : s.outcome ≠ .error .cancelled →
    search site policy cluster start none = some s ∧ (start ≤ T → s.ended ≤ T)
  /-- The calls of a search without a shutdown that ends. -/
  undisturbed : ∀ s₀, search site policy cluster start none = some s₀ →
    ∀ i x, s₀.calls[i]? = some x ↔ Makes site policy cluster Endpoint.preference [] start i x

end

variable {site : Site} {policy : Policy} {cluster : String} {T : Moment}

/-! ## The endpoints in their order -/

section

variable {endpoints : List Endpoint} {earlier : List String} {start : Moment}

theorem Makes.start_le {i : Nat} {x : Moment × Call}
    (h : Makes site policy cluster endpoints earlier start i x) : start ≤ x.1 := by
  induction h with
  | here asks =>
    cases asks with
    | fetch => exact Nat.le_refl _
    | probe settings fetched begun =>
      exact Nat.le_trans (Nat.le_add_right _ _) (Policy.start_le_due begun.due)
  | later tried fails makes ih =>
    exact Nat.le_trans (start_le_ended_try (by rintro _ ⟨⟩) tried) ih

/-- Without a shutdown no try is cut short. -/
theorem verdict_ne_cutShort {endpoint : Endpoint} {t : Try}
    (h : tryEndpoint site policy none cluster endpoint earlier start = some t) :
    t.verdict ≠ .cutShort := by
  intro hcut
  obtain ⟨u, hu, -⟩ := (tryEndpoint_verdict h).1 hcut
  cases hu

theorem start_le_ended_search {s : Search}
    (h : searchFrom site policy none cluster endpoints earlier start = some s) :
    start ≤ s.ended := by
  induction endpoints generalizing earlier start s with
  | nil =>
    cases h
    exact Nat.le_refl start
  | cons endpoint rest ih =>
    simp only [searchFrom, Option.map_none, Option.getD_none, Bool.false_eq_true, if_false] at h
    split at h
    · cases h
    next t ht =>
    have hle : start ≤ t.ended := start_le_ended_try (by rintro _ ⟨⟩) ht
    split at h
    · cases h
      exact hle
    · cases h
      exact hle
    · obtain ⟨s', hs', rfl⟩ := Option.map_eq_some_iff.mp h
      have hnext : t.ended ≤ s'.ended := ih hs'
      exact Nat.le_trans hle hnext

/-- The calls of a try come first. -/
theorem makes_of_lt {endpoint : Endpoint} {rest : List Endpoint} {t : Try}
    (ht : tryEndpoint site policy none cluster endpoint earlier start = some t) {i : Nat}
    (hi : i < (t.calls endpoint start).length) (x : Moment × Call) :
    Makes site policy cluster (endpoint :: rest) earlier start i x ↔
      Asks site policy endpoint earlier start i x := by
  constructor
  · intro hmakes
    cases hmakes with
    | here asks => exact asks
    | later tried fails makes =>
      rw [ht] at tried
      cases tried
      omega
  · exact .here

/-- And then those of the search among the rest. -/
theorem makes_add {endpoint : Endpoint} {rest : List Endpoint} {t : Try}
    (ht : tryEndpoint site policy none cluster endpoint earlier start = some t)
    (hv : t.verdict = .fails) (j : Nat) (x : Moment × Call) :
    Makes site policy cluster (endpoint :: rest) earlier start
        ((t.calls endpoint start).length + j) x ↔
      Makes site policy cluster rest (earlier ++ t.probes.map (·.2)) t.ended j x := by
  constructor
  · intro hmakes
    generalize hk : (t.calls endpoint start).length + j = k at hmakes
    cases hmakes with
    | here asks =>
      have hsome := (getElem?_calls_try (by rintro _ ⟨⟩) ht k x).mpr ⟨asks, by rintro _ ⟨⟩⟩
      rw [List.getElem?_eq_none (by omega)] at hsome
      cases hsome
    | later tried fails makes =>
      rw [ht] at tried
      cases tried
      obtain rfl := Nat.add_left_cancel hk
      exact makes
  · exact .later ht hv

/-- The calls of a search without a shutdown. -/
theorem getElem?_calls_undisturbed {s : Search}
    (h : searchFrom site policy none cluster endpoints earlier start = some s) (i : Nat)
    (x : Moment × Call) :
    s.calls[i]? = some x ↔ Makes site policy cluster endpoints earlier start i x := by
  induction endpoints generalizing earlier start s i with
  | nil =>
    cases h
    constructor
    · intro hx
      cases hx
    · intro hx
      cases hx
  | cons endpoint rest ih =>
    simp only [searchFrom, Option.map_none, Option.getD_none, Bool.false_eq_true, if_false] at h
    split at h
    · cases h
    next t ht =>
    have hasks (i : Nat) : (t.calls endpoint start)[i]? = some x ↔
        Asks site policy endpoint earlier start i x := by
      rw [getElem?_calls_try (by rintro _ ⟨⟩) ht]
      simp
    -- a try that does not fail is the last one
    have last (hnot : t.verdict ≠ .fails) : (t.calls endpoint start)[i]? = some x ↔
        Makes site policy cluster (endpoint :: rest) earlier start i x := by
      rw [hasks]
      constructor
      · exact .here
      · intro hmakes
        cases hmakes with
        | here asks => exact asks
        | later tried fails makes =>
          rw [ht] at tried
          cases tried
          exact absurd fails hnot
    split at h
    · next hv =>
      cases h
      exact last (by simp [hv])
    · next hv =>
      cases h
      exact last (by simp [hv])
    · next hv =>
      obtain ⟨s', hs', rfl⟩ := Option.map_eq_some_iff.mp h
      simp only [Search.after]
      by_cases hi : i < (t.calls endpoint start).length
      · rw [List.getElem?_append_left hi, hasks, makes_of_lt ht hi]
      · obtain ⟨j, rfl⟩ := Nat.exists_eq_add_of_le (Nat.le_of_not_lt hi)
        rw [List.getElem?_append_right (Nat.le_add_right _ _), Nat.add_sub_cancel_left, ih hs',
          makes_add ht hv]

/-- A search that is not cut short goes as without the shutdown. -/
theorem searchFrom_of_ne_cancelled {s : Search}
    (h : searchFrom site policy (some T) cluster endpoints earlier start = some s)
    (hother : s.outcome ≠ .error .cancelled) :
    searchFrom site policy none cluster endpoints earlier start = some s ∧
      (start ≤ T → s.ended ≤ T) := by
  induction endpoints generalizing earlier start s with
  | nil =>
    cases h
    exact ⟨rfl, id⟩
  | cons endpoint rest ih =>
    simp only [searchFrom, Option.map_none, Option.getD_none, Bool.false_eq_true, if_false] at h ⊢
    split at h
    · cases h
      exact absurd rfl hother
    rcases tryEndpoint_shutdown site policy cluster T endpoint earlier start with
      ⟨t, ht, hcut⟩ | hsame
    · simp only [ht, hcut] at h
      cases h
      exact absurd rfl hother
    rw [← hsame]
    split at h
    · cases h
    next t ht =>
    have hle : t.ended ≤ T := ended_le_shutdown_try ht
    split at h
    · cases h
      exact ⟨rfl, fun _ => hle⟩
    · cases h
      exact absurd rfl hother
    · obtain ⟨s', hs', rfl⟩ := Option.map_eq_some_iff.mp h
      obtain ⟨hfree, hended⟩ := ih hs' hother
      simp only [hfree, Option.map_some]
      exact ⟨trivial, fun _ => hended hle⟩

/-- A search that is over before the shutdown is not touched by it. -/
theorem searchFrom_of_ended_lt {s : Search}
    (h : searchFrom site policy none cluster endpoints earlier start = some s)
    (hlt : s.ended < T) :
    searchFrom site policy (some T) cluster endpoints earlier start = some s := by
  induction endpoints generalizing earlier start s with
  | nil => exact h
  | cons endpoint rest ih =>
    have hstart : ¬ T ≤ start := Nat.not_le.mpr (Nat.lt_of_le_of_lt (start_le_ended_search h) hlt)
    simp only [searchFrom, Option.map_none, Option.getD_none, Bool.false_eq_true, if_false,
      Option.map_some, Option.getD_some, decide_eq_true_eq, hstart] at h ⊢
    split at h
    · cases h
    next t ht =>
    -- the try is over no later than the search, and so before the shutdown
    have same (hended : t.ended ≤ s.ended) :
        tryEndpoint site policy (some T) cluster endpoint earlier start = some t := by
      rcases tryEndpoint_shutdown site policy cluster T endpoint earlier start with
        ⟨t', ht', hcut⟩ | hsame
      · have hle := (ended_of_cutShort ht' hcut).2 t ht
        exact absurd (Nat.lt_of_le_of_lt hended hlt) (Nat.not_lt.mpr hle)
      · rw [hsame, ht]
    split at h
    · next hv =>
      cases h
      simp only [same (Nat.le_refl _), hv]
    · next hv => exact absurd hv (verdict_ne_cutShort ht)
    · next hv =>
      obtain ⟨s', hs', rfl⟩ := Option.map_eq_some_iff.mp h
      have hended : t.ended ≤ s'.ended := start_le_ended_search hs'
      simp only [same hended, hv, ih hs' hlt, Option.map_some]

/-- A search is over with the try that is cut short. -/
theorem cutOff_of_cutShort {endpoint : Endpoint} {rest : List Endpoint} {t : Try} (hlt : start < T)
    (ht : tryEndpoint site policy (some T) cluster endpoint earlier start = some t)
    (hcut : t.verdict = .cutShort) :
    CutOff site policy cluster T (endpoint :: rest) earlier start
      { outcome := .error .cancelled, calls := t.calls endpoint start, ended := t.ended } where
  outcome := rfl
  ended := by
    rw [Nat.max_eq_right (Nat.le_of_lt hlt)]
    exact (ended_of_cutShort ht hcut).1
  calls i x := by
    rw [getElem?_calls_try (by rintro _ ⟨⟩; exact hlt) ht]
    constructor
    · rintro ⟨hasks, hbefore⟩
      exact ⟨.here hasks, hbefore T rfl⟩
    · rintro ⟨hmakes, hx⟩
      cases hmakes with
      | here asks =>
        refine ⟨asks, ?_⟩
        rintro _ ⟨⟩
        exact hx
      | later tried fails makes =>
        -- the next try would come after the shutdown
        have hafter := Nat.le_trans ((ended_of_cutShort ht hcut).2 _ tried) makes.start_le
        exact absurd hx (Nat.not_lt.mpr hafter)

/-- A search goes on behind a try that fails by the shutdown. -/
theorem CutOff.later {endpoint : Endpoint} {rest : List Endpoint} {t : Try} {s : Search}
    (hlt : start < T)
    (ht : tryEndpoint site policy (some T) cluster endpoint earlier start = some t)
    (hfree : tryEndpoint site policy none cluster endpoint earlier start = some t)
    (hv : t.verdict = .fails)
    (h : CutOff site policy cluster T rest (earlier ++ t.probes.map (·.2)) t.ended s) :
    CutOff site policy cluster T (endpoint :: rest) earlier start
      (s.after (t.calls endpoint start)) where
  outcome := h.outcome
  ended := by
    rw [Nat.max_eq_right (Nat.le_of_lt hlt)]
    exact h.ended.trans (Nat.max_eq_right (ended_le_shutdown_try ht))
  calls i x := by
    simp only [Search.after]
    by_cases hi : i < (t.calls endpoint start).length
    · rw [List.getElem?_append_left hi, getElem?_calls_try (by rintro _ ⟨⟩; exact hlt) ht,
        makes_of_lt hfree hi]
      simp
    · obtain ⟨j, rfl⟩ := Nat.exists_eq_add_of_le (Nat.le_of_not_lt hi)
      rw [List.getElem?_append_right (Nat.le_add_right _ _), Nat.add_sub_cancel_left, h.calls,
        makes_add hfree hv]

/-- What a search has done that is cut short. -/
theorem cutOff_of_cancelled {s : Search}
    (h : searchFrom site policy (some T) cluster endpoints earlier start = some s)
    (hcancelled : s.outcome = .error .cancelled) :
    CutOff site policy cluster T endpoints earlier start s := by
  induction endpoints generalizing earlier start s with
  | nil =>
    cases h
    cases hcancelled
  | cons endpoint rest ih =>
    by_cases hstart : T ≤ start
    · simp only [searchFrom, Option.map_some, Option.getD_some, decide_eq_true_eq, hstart,
        if_true] at h
      cases h
      refine ⟨rfl, (Nat.max_eq_left hstart).symm, ?_⟩
      intro i x
      constructor
      · intro hx
        cases hx
      · rintro ⟨hmakes, hlt⟩
        exact absurd (Nat.lt_of_le_of_lt hmakes.start_le hlt) (Nat.not_lt.mpr hstart)
    have hlt : start < T := Nat.lt_of_not_le hstart
    simp only [searchFrom, Option.map_some, Option.getD_some, decide_eq_true_eq, hstart,
      if_false] at h
    split at h
    · cases h
    next t ht =>
    split at h
    · cases h
      cases hcancelled
    · next hv =>
      cases h
      exact cutOff_of_cutShort hlt ht hv
    · next hv =>
      obtain ⟨s', hs', rfl⟩ := Option.map_eq_some_iff.mp h
      have hfree : tryEndpoint site policy none cluster endpoint earlier start = some t := by
        rw [← tryEndpoint_of_ne_cutShort ht (by simp [hv]), ht]
      exact (ih hs' hcancelled).later hlt ht hfree hv

/-- A search whose probes can be counted comes to an end. -/
theorem searchFrom_isSome (hcounted : CountedFrom site policy cluster T endpoints earlier start) :
    ∃ s, searchFrom site policy (some T) cluster endpoints earlier start = some s := by
  induction endpoints generalizing earlier start with
  | nil => exact ⟨_, rfl⟩
  | cons endpoint rest ih =>
    by_cases hstart : T ≤ start
    · exact ⟨{ outcome := .error .cancelled, ended := start }, by simp [searchFrom, hstart]⟩
    obtain ⟨hfirst, hrest⟩ := hcounted
    obtain ⟨t, ht⟩ := hfirst.exists_try cluster
    cases hv : t.verdict with
    | works client => simp [searchFrom, hstart, ht, hv]
    | cutShort => simp [searchFrom, hstart, ht, hv]
    | fails =>
      have hsame := tryEndpoint_of_ne_cutShort ht (by simp [hv])
      obtain ⟨s, hs⟩ := ih (hrest t (by rw [← hsame, ht]) hv)
      simp [searchFrom, hstart, ht, hv, hs]

/-! ## The search -/

/-- Where a policy allows so many attempts, the probes can be counted. -/
theorem countedFrom_of_maxAttempts {most : Nat} (hmost : policy.maxAttempts = some most)
    (hbound : most < attemptBound) : CountedFrom site policy cluster T endpoints earlier start := by
  induction endpoints generalizing earlier start with
  | nil => trivial
  | cons endpoint rest ih =>
    refine ⟨?_, fun t _ _ => ih⟩
    intro target d _ _ _
    refine ⟨max most 1, Nat.max_lt.mpr ⟨hbound, by decide⟩, ?_⟩
    intro m hm
    rw [Policy.due_eq_none_of_maxAttempts hmost] at hm
    cases hm

theorem search_of_le (hle : T ≤ start) : search site policy cluster start (some T) =
    some { outcome := .error .cancelled, ended := start } := by
  simp [search, Endpoint.preference, searchFrom, hle]

/-- A search with a shutdown ends with it, or as without it. -/
theorem search_heeds_shutdown (site : Site) (policy : Policy) (cluster : String)
    (start T : Moment)
    (hcounted : CountedFrom site policy cluster T Endpoint.preference [] start) :
    ∃ s, search site policy cluster start (some T) = some s ∧
      Heeds site policy cluster start T s := by
  obtain ⟨s, hs⟩ := searchFrom_isSome hcounted
  have other (hother : s.outcome ≠ .error .cancelled) :
      search site policy cluster start none = some s ∧ (start ≤ T → s.ended ≤ T) :=
    searchFrom_of_ne_cancelled hs hother
  have atOnce (hle : T ≤ start) : s = { outcome := .error .cancelled, ended := start } :=
    Option.some.inj (hs.symm.trans (search_of_le hle))
  refine ⟨s, hs, { cut := ?_, early := ?_, whole := ?_, honest := other, undisturbed := ?_ }⟩
  · intro hlate
    refine cutOff_of_cancelled hs (Classical.byContradiction fun hother => ?_)
    obtain ⟨hfree, hended⟩ := other hother
    rcases Nat.lt_or_ge start T with hlt | hle
    · rcases hlate with hle | hlate
      · exact Nat.not_lt.mpr hle hlt
      · exact Nat.not_lt.mpr (hended (Nat.le_of_lt hlt)) (hlate s hfree)
    · exact hother (by rw [atOnce hle])
  · intro hle
    rw [atOnce hle]
  · intro _ s₀ hs₀ hlt
    have hsame : searchFrom site policy (some T) cluster Endpoint.preference [] start = some s₀ :=
      searchFrom_of_ended_lt hs₀ hlt
    exact Option.some.inj (hs.symm.trans hsame)
  · intro s₀ hs₀ i x
    exact getElem?_calls_undisturbed hs₀ i x

/-- A site whose outer server refuses every probe and whose inner kubeconfig never comes. -/
def stuckSite : Site where
  fetch
    | .external => { kubeconfig := some "outer", takes := some 500000000 }
    | .internal => { takes := none }
  target text := some { server := text, buildable := true }
  probe _ _ := fun _ => { takes := some 100000000 }

/-- A shutdown in the second fetch, after five probes and the waits between them. -/
theorem search_heeds_shutdown_stuck :
    CountedFrom stuckSite .probe "c" 9000000000 Endpoint.preference [] 0 ∧
      ∃ s, search stuckSite .probe "c" 0 (some 9000000000) = some s ∧
        Heeds stuckSite .probe "c" 0 9000000000 s ∧ s.outcome = .error .cancelled ∧
          s.ended = 9000000000 ∧ s.fetches = [.external, .internal] ∧
            s.probes.map (·.1) =
              [500000000, 600000000, 1700000000, 3800000000, 6900000000] ∧
                search stuckSite .probe "c" 0 none = none := by
  have hcounted : CountedFrom stuckSite .probe "c" 9000000000 Endpoint.preference [] 0 :=
    @countedFrom_of_maxAttempts _ _ _ _ _ _ _ 5 rfl (by decide)
  obtain ⟨s, hs, hheeds⟩ := search_heeds_shutdown stuckSite .probe "c" 0 9000000000 hcounted
  refine ⟨hcounted, s, hs, hheeds, ?_⟩
  have hnever : search stuckSite .probe "c" 0 none = none := by rfl
  have hcut : CutOff stuckSite .probe "c" 9000000000 Endpoint.preference [] 0 s := by
    refine hheeds.cut (Or.inr ?_)
    rw [hnever]
    exact nofun
  have hcalls : (search stuckSite .probe "c" 0 (some 9000000000)).map (fun s =>
      (s.fetches, s.probes.map (·.1))) = some ([.external, .internal],
        [500000000, 600000000, 1700000000, 3800000000, 6900000000]) := by rfl
  rw [hs, Option.map_some, Option.some.injEq, Prod.mk.injEq] at hcalls
  exact ⟨hcut.outcome, hcut.ended, hcalls.1, hcalls.2, hnever⟩

end

end Flotilla.Bootstrap
