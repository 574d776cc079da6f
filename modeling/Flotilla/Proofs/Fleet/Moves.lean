import Flotilla.Proofs.Fleet.Roster

/-!
# What a cycle can do

A cycle is a chain of moves.  `Move` has one constructor for each kind of move,
with everything that is known when it is made.  What every move keeps, the whole
cycle keeps (`cycle_keeps`).

A move says all that a cycle knows when it makes it, so an invariant of cycles
needs one case for each kind of move and never looks at the loops again.
-/

namespace Flotilla.Fleet

open Std (ExtTreeMap ExtTreeSet)

variable {S H : Type}

/-- One move of a cycle, given the listed clusters. -/
inductive Move (around : Surroundings S H) (listed : ExtTreeSet String) :
    Progress S H → Progress S H → Prop where
  | listingFailed (p : Progress S H) (fault : CommandFailure) :
      Move around listed p (p.take around (.listingFailed fault))
  | discovered (p : Progress S H) : Move around listed p (p.take around (.discovered listed.toList))
  | launched {p : Progress S H} {c : String} {h : H} {s : S}
      (isListed : c ∈ listed) (isMissing : c ∉ p.roster.instances)
      (answer : around.create c (around.note (.asked c) p.scene) = (.ok h, s)) :
      Move around listed p
        (Progress.take ⟨s, p.roster.launch c h, p.steps ++ [.asked c]⟩ around (.launched c h))
  | launchFailed {p : Progress S H} {c : String} {f : ControllerFailure} {s : S}
      (isListed : c ∈ listed) (isMissing : c ∉ p.roster.instances) (isReal : f.isCancelled = false)
      (answer : around.create c (around.note (.asked c) p.scene) = (.error f, s)) :
      Move around listed p
        (Progress.take ⟨s, p.roster.fail c, p.steps ++ [.asked c]⟩ around (.launchFailed c f))
  | abandoned {p : Progress S H} {c : String} {f : ControllerFailure} {s : S}
      (isListed : c ∈ listed) (isMissing : c ∉ p.roster.instances) (isCut : f.isCancelled = true)
      (answer : around.create c (around.note (.asked c) p.scene) = (.error f, s)) :
      Move around listed p
        (Progress.take ⟨s, p.roster, p.steps ++ [.asked c]⟩ around (.abandoned c))
  | stopped {p : Progress S H} {c : String} {h : H}
      (isManaged : p.roster.instances[c]? = some h) (isGone : c ∉ listed) :
      Move around listed p
        (Progress.take ⟨p.scene, p.roster.stop c, p.steps⟩ around (.stopped c h))
  | forgotten {p : Progress S H} {c : String} (isFailed : c ∈ p.roster.failed)
      (isGone : c ∉ listed) :
      Move around listed p
        (Progress.take ⟨p.scene, p.roster.forget c, p.steps⟩ around (.forgotten c))
  | completed (p : Progress S H) :
      Move around listed p (p.take around (.completed p.roster.instances.size))

section Keeps

variable {around : Surroundings S H} {listed : ExtTreeSet String} {P : Progress S H → Prop}
  (keep : ∀ p q, Move around listed p q → P p → P q)

include keep

/-- What every move keeps, the creations keep. -/
theorem addAll_keeps (clusters : List String) (p : Progress S H) (hp : P p)
    (hc : ∀ c ∈ clusters, c ∈ listed ∧ c ∉ p.roster.instances) (hn : clusters.Nodup) :
    P (around.addAll clusters p).2 := by
  induction clusters generalizing p with
  | nil => exact hp
  | cons c rest ih =>
    obtain ⟨hl, hm⟩ := hc c List.mem_cons_self
    rw [List.nodup_cons] at hn
    simp only [Surroundings.addAll]
    split
    · exact hp
    · -- the clusters still to come are not among the instances: only `c` can be new there
      split
      · next h s ha =>
        refine ih _ (keep _ _ (.launched hl hm ha) hp) ?_ hn.2
        intro k hk
        have hne : c ≠ k := fun e => hn.1 (e ▸ hk)
        obtain ⟨hkl, hkm⟩ := hc k (List.mem_cons_of_mem _ hk)
        exact ⟨hkl, by simp [Progress.take, Roster.mem_instances_launch, hne, hkm]⟩
      · next f s ha =>
        split
        · next hf => exact keep _ _ (.abandoned hl hm hf ha) hp
        · next hf =>
          refine ih _ (keep _ _ (.launchFailed hl hm (by simpa using hf) ha) hp) ?_ hn.2
          intro k hk
          exact hc k (List.mem_cons_of_mem _ hk)

/-- What every move keeps, the stops keep. -/
theorem stopAll_keeps (stale : List (String × H)) (p : Progress S H) (hp : P p)
    (hs : ∀ x ∈ stale, p.roster.instances[x.1]? = some x.2 ∧ x.1 ∉ listed)
    (hn : (stale.map (·.1)).Nodup) : P (around.stopAll stale p) := by
  induction stale generalizing p with
  | nil => exact hp
  | cons x rest ih =>
    obtain ⟨c, h⟩ := x
    obtain ⟨hm, hl⟩ := hs (c, h) List.mem_cons_self
    rw [List.map_cons, List.nodup_cons] at hn
    refine ih _ (keep _ _ (.stopped hm hl) hp) ?_ hn.2
    intro y hy
    have hne : c ≠ y.1 := fun e => hn.1 (List.mem_map.mpr ⟨y, hy, e.symm⟩)
    obtain ⟨hym, hyl⟩ := hs y (List.mem_cons_of_mem _ hy)
    exact ⟨by simp [Progress.take, Roster.instances_stop, hne, hym], hyl⟩

/-- What every move keeps, the forgetting of failed clusters keeps. -/
theorem forgetAll_keeps (vanished : List String) (p : Progress S H) (hp : P p)
    (hv : ∀ c ∈ vanished, c ∈ p.roster.failed ∧ c ∉ listed) (hn : vanished.Nodup) :
    P (around.forgetAll vanished p) := by
  induction vanished generalizing p with
  | nil => exact hp
  | cons c rest ih =>
    obtain ⟨hf, hl⟩ := hv c List.mem_cons_self
    rw [List.nodup_cons] at hn
    refine ih _ (keep _ _ (.forgotten hf hl) hp) ?_ hn.2
    intro k hk
    have hne : c ≠ k := fun e => hn.1 (e ▸ hk)
    obtain ⟨hkf, hkl⟩ := hv k (List.mem_cons_of_mem _ hk)
    exact ⟨by simp [Progress.take, Roster.mem_failed_forget, hne, hkf], hkl⟩

/-- What every move keeps, following a listing keeps. -/
theorem converge_keeps (p : Progress S H) (hp : P p) : P (around.converge listed p) := by
  have hd := keep _ _ (.discovered p) hp
  have ha := addAll_keeps keep (p.roster.missing listed) _ hd
    (fun c hc => (p.roster.mem_missing listed).mp hc)
    (nodup_of_ascending (p.roster.missing_ascending listed))
  unfold Surroundings.converge
  simp only
  split
  · next q hq =>
    exact (congrArg (fun x => P x.2) hq).mp ha
  · next q hq =>
    have hq : P q := (congrArg (fun x => P x.2) hq).mp ha
    have hs := stopAll_keeps keep (q.roster.stale listed) q hq
      (fun x hx => (q.roster.mem_stale listed).mp hx)
      (nodup_of_ascending (q.roster.stale_ascending listed))
    refine keep _ _ (.completed _) (forgetAll_keeps keep _ _ hs ?_ ?_)
    · exact fun c hc => (Roster.mem_vanished _ listed).mp hc
    · exact nodup_of_ascending (Roster.vanished_ascending _ listed)

end Keeps

/-- What every move keeps, a cycle keeps.  The clusters of its moves are those of the listing. -/
theorem cycle_keeps_listed {around : Surroundings S H}
    {listing : Except CommandFailure (List String)} {P : Progress S H → Prop}
    (keep : ∀ listed : ExtTreeSet String, (∀ c ∈ listed, ∃ names, listing = .ok names ∧ c ∈ names) →
      ∀ p q, Move around listed p q → P p → P q)
    (first : First) (scene : S) (roster : Roster H) (hp : P { scene, roster }) :
    P (around.cycle first listing scene roster) := by
  unfold Surroundings.cycle
  split
  · exact hp
  · cases listing with
    | error fault =>
      exact keep ∅ (fun c hc => by simp at hc) _ _ (.listingFailed _ fault) hp
    | ok names =>
      exact converge_keeps (keep _ fun c hc => ⟨names, rfl, mem_listed.mp hc⟩) _ hp

/-- What every move keeps, a cycle keeps. -/
theorem cycle_keeps {around : Surroundings S H} {P : Progress S H → Prop}
    (keep : ∀ listed p q, Move around listed p q → P p → P q) (first : First)
    (listing : Except CommandFailure (List String)) (scene : S) (roster : Roster H)
    (hp : P { scene, roster }) : P (around.cycle first listing scene roster) :=
  cycle_keeps_listed (fun listed _ => keep listed) first scene roster hp

end Flotilla.Fleet
