import Flotilla.Proofs.Apiserver.Stores
import Flotilla.Proofs.Controllers.Schedule

/-!
# The backends of the load balancers

A pass of the service controller makes one lookup for each load balancer of its store.  A lookup
succeeds if its answer can be read as slices of endpoints, and it counts the endpoints that do not
say that they are not ready (`Counts`).

* `Kube.endpointReady_iff`, `Kube.readyCount_eq`: which endpoints are counted.
* `Lookups.assign_cons`: how pieces of work follow one another.
* `counts`: what a pass finds, if no two load balancers have the same key.
-/

namespace Flotilla

open Apiserver (World)
open Time (Moment)

/-! ## Endpoints -/

namespace Kube

/-- The endpoints of a slice. -/
def endpoints (slice : Value) : List Value := ((slice.field? "endpoints").getD .null).items

/-- The endpoint has a condition that says that it is not ready. -/
def SaysNotReady (endpoint : Value) : Prop :=
  ∃ conditions, endpoint.field? "conditions" = some conditions ∧
    conditions.field? "ready" = some (.bool false)

/-- An endpoint is ready unless it says otherwise. -/
theorem endpointReady_iff {endpoint : Value} :
    endpointReady endpoint = true ↔ ¬ SaysNotReady endpoint := by
  have hnull : Value.null.field? "ready" = none := rfl
  unfold endpointReady SaysNotReady
  cases endpoint.field? "conditions" with
  | none => simp [hnull]
  | some conditions =>
    simp only [Option.getD_some, Option.some.injEq, exists_eq_left']
    cases conditions.field? "ready" with
    | none => simp
    | some ready => cases ready <;> simp [Value.bool?]

instance : DecidablePred SaysNotReady := fun endpoint =>
  decidable_of_iff (¬ endpointReady endpoint = true) (by rw [endpointReady_iff, Classical.not_not])

/-- The endpoints of some slices that do not say that they are not ready. -/
def accepting (slices : List Value) : List Value :=
  (slices.flatMap endpoints).filter fun endpoint => ¬ SaysNotReady endpoint

theorem readyCount_eq (slices : List Value) : readyCount slices = (accepting slices).length := by
  have hslice (slice : Value) : sliceReady slice = (accepting [slice]).length := by
    rw [accepting, List.flatMap_singleton]
    simp only [← endpointReady_iff, Bool.decide_eq_true]
    rfl
  have hfrom (n : Nat) : slices.foldl (fun n slice => n + sliceReady slice) n =
      n + (accepting slices).length := by
    induction slices generalizing n with
    | nil => rfl
    | cons slice slices ih =>
      rw [List.foldl_cons, ih, hslice, Nat.add_assoc, ← List.length_append, accepting, accepting,
        ← List.filter_append, ← List.flatMap_append]
      rfl
  rw [readyCount, hfrom, Nat.zero_add]

end Kube

namespace Apiserver

/-- The slices of an answer, if it can be read. -/
def Lookup.slices? : Lookup → Option (List Kube.Value)
  | .slices endpoints => Kube.slicesOf? (.object [("items", .list (endpoints.map fun es =>
      .object [("endpoints", .list es)]))])
  | .raw status body =>
    if 400 ≤ status ∧ status < 600 then none
    else (Text.decode body).toOption.bind fun text =>
      (Kube.JsonText.parse? text).bind Kube.slicesOf?
  | .broken => none

/-- The slices of a service, if they can be read.  A service has none by default. -/
def World.slices? (w : World) (s : Kube.Service) : Option (List Kube.Value) :=
  match w.lookups.find? fun (key, _) => key == s.key with
  | some (_, lookup) => lookup.slices?
  | none => some []

theorem Lookup.ready?_eq (l : Lookup) : l.ready? = l.slices?.map Kube.readyCount := by
  cases l with
  | slices endpoints => rfl
  | raw status body =>
    simp only [ready?, slices?, Kube.readyEndpoints?]
    split
    · rfl
    · cases Text.decode body <;> rfl
  | broken => rfl

theorem World.ready?_eq (w : World) (s : Kube.Service) :
    w.ready? s = (w.slices? s).map fun slices => (Kube.accepting slices).length := by
  simp only [← Kube.readyCount_eq]
  unfold ready? slices?
  cases w.lookups.find? fun (key, _) => key == s.key with
  | none => rfl
  | some entry => exact entry.2.ready?_eq

end Apiserver

namespace Controllers

/-! ## Bounded lookups -/

namespace Lookups

/-- The first piece takes its time, and the others go on from where it begins. -/
theorem assign_cons (width : Nat) (now : Moment) (busy : List Moment) (d : Nat) (ds : List Nat) :
    ∃ begun busy', assign width now busy (d :: ds) =
      (begun, begun + d) :: assign width begun busy' ds := by
  by_cases hfree : busy.length < width
  · exact ⟨now, insertMoment (now + d) busy, by simp only [assign, if_pos hfree]⟩
  · cases busy with
    | nil => exact ⟨now, [], by simp only [assign, if_neg hfree]⟩
    | cons e rest => exact ⟨e, insertMoment (e + d) rest, by simp only [assign, if_neg hfree]⟩

theorem length_assign (width : Nat) (now : Moment) (busy : List Moment) (takes : List Nat) :
    (assign width now busy takes).length = takes.length := by
  induction takes generalizing now busy with
  | nil => rfl
  | cons d ds ih =>
    obtain ⟨begun, busy', hcons⟩ := assign_cons width now busy d ds
    rw [hcons, List.length_cons, ih, List.length_cons]

theorem begun_le_ended {width : Nat} {now : Moment} {busy : List Moment} {takes : List Nat}
    {piece : Moment × Moment} (h : piece ∈ assign width now busy takes) : piece.1 ≤ piece.2 := by
  induction takes generalizing now busy with
  | nil => cases h
  | cons d ds ih =>
    obtain ⟨begun, busy', hcons⟩ := assign_cons width now busy d ds
    rw [hcons] at h
    rcases List.mem_cons.mp h with rfl | h
    · exact Nat.le_add_right begun d
    · exact ih h

theorem ended_le_finish {start : Moment} {pieces : List (Moment × Moment)}
    {piece : Moment × Moment} (h : piece ∈ pieces) : piece.2 ≤ finish start pieces := by
  induction pieces generalizing start with
  | nil => cases h
  | cons p pieces ih =>
    rcases List.mem_cons.mp h with rfl | h
    · exact Nat.le_trans (Nat.le_max_right start piece.2) (le_finish _ pieces)
    · exact ih h

end Lookups

namespace Service

/-- What a pass finds of its load balancers and their backends. -/
structure Counts (t : Term) (pass : Pass) : Prop where
  /-- The load balancers are told apart by their keys. -/
  distinct : ((balancersAt t pass.begun).map Kube.Service.key).Nodup
  /-- They are counted. -/
  loadBalancers : pass.summary.loadBalancers = (balancersAt t pass.begun).length
  /-- One lookup is made for each. -/
  lookups : pass.lookups.map Lookup.service = balancersAt t pass.begun
  /-- The pass waits for its lookups. -/
  awaited : ∀ l ∈ pass.lookups, l.begun ≤ l.ended ∧ l.ended ≤ pass.ended
  /-- A lookup that succeeds counts the endpoints that do not say that they are not ready. -/
  ready : ∀ l ∈ pass.lookups, l.ready =
    (t.informers.world.slices? l.service).map fun slices => (Kube.accepting slices).length
  /-- A lookup succeeds or it is unresolved. -/
  resolved : pass.summary.unresolved + (pass.lookups.filter (·.ready.isSome)).length =
    pass.summary.loadBalancers
  /-- The backends are those of the lookups that succeed. -/
  readyBackends : pass.summary.readyBackends =
    (pass.lookups.filterMap (·.ready)).foldr (fun count sum => count + sum) 0

theorem Inquiry.map_service_lookups (q : Inquiry) (m : Moment) (services : List Kube.Service) :
    (q.lookups m services).map Lookup.service = services := by
  have hlength (takes : List Nat) : (Lookups.schedule q.workers m takes).length = takes.length :=
    Lookups.length_assign _ _ _ _
  simp only [lookups, List.map_map]
  refine List.map_fst_zip (Nat.le_of_eq ?_)
  rw [hlength, List.length_map]

theorem Inquiry.of_mem_lookups {q : Inquiry} {m : Moment} {services : List Kube.Service}
    {l : Lookup} (h : l ∈ q.lookups m services) :
    l.begun ≤ l.ended ∧ l.ready = q.ready l.service := by
  obtain ⟨⟨s, begun, ended⟩, hpiece, rfl⟩ := List.mem_map.mp h
  exact ⟨Lookups.begun_le_ended (List.of_mem_zip hpiece).2, rfl⟩

/-- A pass ends when its lookups have ended. -/
theorem awaited {t : Term} {m : Moment} {known : Std.ExtTreeSet String} {l : Lookup}
    (h : l ∈ (passAt t m known).lookups) :
    l.begun ≤ l.ended ∧ l.ended ≤ (passAt t m known).ended := by
  have hpiece := List.mem_map_of_mem (f := fun l : Lookup => (l.begun, l.ended)) h
  exact ⟨(Inquiry.of_mem_lookups h).1, Lookups.ended_le_finish hpiece⟩

theorem length_isNone_add_isSome (lookups : List Lookup) :
    (lookups.filter (·.ready.isNone)).length + (lookups.filter (·.ready.isSome)).length =
      lookups.length := by
  induction lookups with
  | nil => rfl
  | cons l lookups ih =>
    cases h : l.ready <;> simp [h] <;> omega

theorem counts (t : Term) (m : Moment) (known : Std.ExtTreeSet String)
    (hdistinct : ((balancersAt t m).map Kube.Service.key).Nodup) :
    Counts t (passAt t m known) where
  distinct := hdistinct
  loadBalancers := (size_ofList hdistinct).trans (List.length_map _)
  lookups := (inquiry t).map_service_lookups m _
  awaited _ hl := awaited hl
  ready l hl := (Inquiry.of_mem_lookups hl).2.trans (World.ready?_eq _ _)
  resolved := by
    have hall : ((inquiry t).lookups m (balancersAt t m)).length = (balancersAt t m).length := by
      rw [← List.length_map Lookup.service, Inquiry.map_service_lookups]
    have hsize : (passAt t m known).summary.loadBalancers = (balancersAt t m).length :=
      (size_ofList hdistinct).trans (List.length_map _)
    rw [hsize, ← hall]
    exact length_isNone_add_isSome _
  readyBackends := List.sum_eq_foldl.symm.trans List.sum_eq_foldr

end Service

end Controllers

end Flotilla
