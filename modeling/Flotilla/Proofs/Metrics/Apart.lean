import Flotilla.Proofs.Metrics.SeriesTable
import Flotilla.Proofs.Metrics.History

/-!
# Histories whose labels are told apart

What is written to the series of a text may come from several clusters.  Labels are
`Alone` in a history if no others of their text were written.  Then the writes to
their series are those of their controller, and the series is dropped exactly when
their cluster is forgotten (`shared_of_alone`, by induction on the history).
-/

namespace Flotilla.Metrics

namespace History

/-- A write through a sink is one more for the cluster that it is about. -/
theorem writes_step (h : History) (sink : String) (w : Write) (cluster : String) :
    writes cluster (w.step sink :: h) =
      if h.target? sink = some cluster then w :: h.writes cluster else h.writes cluster := by
  cases w <;> rfl

/-- A live write goes to the series of its text. -/
theorem shared_step {h : History} {sink cluster : String} (w : Write) (text : String)
    (htarget : h.target? sink = some cluster) :
    shared text (w.step sink :: h) =
      if (w.key cluster).text = text then (cluster, w) :: h.shared text else h.shared text := by
  cases w <;> simp only [Write.step, shared, htarget] <;> rfl

/-- A dead write goes nowhere. -/
theorem shared_dead {h : History} {sink : String} (w : Write) (text : String)
    (htarget : h.target? sink = none) : shared text (w.step sink :: h) = h.shared text := by
  cases w <;> simp only [Write.step, shared, htarget]

/-- A live pass is one more for its text. -/
theorem passes_step {h : History} {sink cluster : String} (w : Write) (text : String)
    (htarget : h.target? sink = some cluster) :
    passes (w.step sink :: h) text =
      if (w.key cluster).text = text then (w.pass? cluster).toList ++ h.passes text
      else h.passes text := by
  rw [passes, shared_step w text htarget]
  split
  · rw [List.filterMap_cons]
    cases w <;> rfl
  · rfl

/-- So is a live number of objects. -/
theorem counts_step {h : History} {sink cluster : String} (w : Write) (text : String)
    (htarget : h.target? sink = some cluster) :
    counts (w.step sink :: h) text =
      if (w.key cluster).text = text then (w.count? cluster).toList ++ h.counts text
      else h.counts text := by
  rw [counts, shared_step w text htarget]
  split
  · rw [List.filterMap_cons]
    cases w <;> rfl
  · rfl

theorem labels_step (h : History) (sink : String) (w : Write) :
    labels (w.step sink :: h) = ((h.target? sink).map w.key).toList ++ h.labels := by
  cases w <;> rfl

theorem mem_labels_step {h : History} {sink : String} {w : Write} {key : SeriesKey} :
    key ∈ labels (w.step sink :: h) ↔
      (∃ c, h.target? sink = some c ∧ w.key c = key) ∨ key ∈ h.labels := by
  rw [labels_step, List.mem_append, Option.mem_toList, Option.map_eq_some_iff]

/-- Labels are written as often as is said of them. -/
theorem mem_labels_of_mem_writes {h : History} {c : String} {w : Write} (hw : w ∈ h.writes c) :
    w.key c ∈ h.labels := by
  induction h with
  | nil => cases hw
  | cons step past ih =>
    have hwrite (sink : String) (w' : Write) (hw : w ∈ writes c (w'.step sink :: past)) :
        w.key c ∈ labels (w'.step sink :: past) := by
      rw [mem_labels_step]
      rw [writes_step] at hw
      split at hw
      · next htarget =>
        rcases List.mem_cons.mp hw with rfl | hw
        · exact Or.inl ⟨c, htarget, rfl⟩
        · exact Or.inr (ih hw)
      · exact Or.inr (ih hw)
    cases step with
    | sync sink k => exact hwrite sink (.sync k) hw
    | objects sink k n => exact hwrite sink (.objects k n) hw
    | forget other =>
      simp only [writes] at hw
      split at hw
      · cases hw
      · exact ih hw
    | _ => exact ih hw

/-- What is written to the series of a text has labels of that text. -/
theorem mem_shared {h : History} {text c : String} {w : Write} (hw : (c, w) ∈ h.shared text) :
    (w.key c).text = text ∧ w.key c ∈ h.labels := by
  induction h with
  | nil => cases hw
  | cons step past ih =>
    have hwrite (sink : String) (w' : Write) (hw : (c, w) ∈ shared text (w'.step sink :: past)) :
        (w.key c).text = text ∧ w.key c ∈ labels (w'.step sink :: past) := by
      rw [mem_labels_step]
      cases htarget : target? past sink with
      | none =>
        rw [shared_dead w' text htarget] at hw
        exact ⟨(ih hw).1, Or.inr (ih hw).2⟩
      | some other =>
        rw [shared_step w' text htarget] at hw
        split at hw
        · next htext =>
          rcases List.mem_cons.mp hw with he | hw
          · obtain ⟨rfl, rfl⟩ := Prod.mk.inj he
            exact ⟨htext, Or.inl ⟨_, rfl, rfl⟩⟩
          · exact ⟨(ih hw).1, Or.inr (ih hw).2⟩
        · exact ⟨(ih hw).1, Or.inr (ih hw).2⟩
    cases step with
    | sync sink k => exact hwrite sink (.sync k) hw
    | objects sink k n => exact hwrite sink (.objects k n) hw
    | forget other =>
      simp only [shared] at hw
      split at hw
      · cases hw
      · exact ih hw
    | _ => exact ih hw

/-- It was not forgotten since. -/
theorem mem_writes_of_mem_shared {h : History} {text c : String} {w : Write}
    (hw : (c, w) ∈ h.shared text) : w ∈ h.writes c := by
  induction h with
  | nil => cases hw
  | cons step past ih =>
    have hwrite (sink : String) (w' : Write) (hw : (c, w) ∈ shared text (w'.step sink :: past)) :
        w ∈ writes c (w'.step sink :: past) := by
      have hlater (hw : w ∈ writes c past) : w ∈ writes c (w'.step sink :: past) := by
        rw [writes_step]
        split
        · exact List.mem_cons_of_mem _ hw
        · exact hw
      cases htarget : target? past sink with
      | none =>
        rw [shared_dead w' text htarget] at hw
        exact hlater (ih hw)
      | some other =>
        rw [shared_step w' text htarget] at hw
        split at hw
        · rcases List.mem_cons.mp hw with he | hw
          · obtain ⟨rfl, rfl⟩ := Prod.mk.inj he
            rw [writes_step, if_pos htarget]
            exact List.mem_cons_self
          · exact hlater (ih hw)
        · exact hlater (ih hw)
    cases step with
    | sync sink k => exact hwrite sink (.sync k) hw
    | objects sink k n => exact hwrite sink (.objects k n) hw
    | forget other =>
      simp only [shared] at hw
      split at hw
      · cases hw
      · next hkept =>
        simp only [writes]
        split
        · next hc =>
          -- the series would have gone with its cluster
          subst hc
          exact absurd ⟨w, ih hw, (mem_shared hw).1⟩ hkept
        · exact ih hw
    | _ => exact ih hw

theorem mem_passes {h : History} {text : String} {key : SeriesKey} (hkey : key ∈ h.passes text) :
    key.text = text ∧ key ∈ h.labels := by
  obtain ⟨⟨c, w⟩, hw, hpass⟩ := List.mem_filterMap.mp hkey
  cases w with
  | sync k =>
    obtain rfl := Option.some.inj hpass
    exact mem_shared hw
  | objects k n => cases hpass

theorem mem_counts {h : History} {text : String} {e : SeriesKey × Nat} (he : e ∈ h.counts text) :
    e.1.text = text ∧ e.1 ∈ h.labels := by
  obtain ⟨⟨c, w⟩, hw, hcount⟩ := List.mem_filterMap.mp he
  cases w with
  | sync k => cases hcount
  | objects k n =>
    obtain rfl := Option.some.inj hcount
    exact mem_shared hw

/-! ## Labels alone with their text -/

/-- Whether no other labels with the text of some labels were written. -/
def Alone (h : History) (key : SeriesKey) : Prop := ∀ a ∈ h.labels, a.text = key.text → a = key

/-- Labels with a text that nothing shares are told by the writes of their controller. -/
theorem shared_of_alone {h : History} {key : SeriesKey} (halone : h.Alone key) :
    h.shared key.text =
      ((h.writes key.cluster).filter fun w => w.key key.cluster = key).map (key.cluster, ·) := by
  induction h with
  | nil => rfl
  | cons step past ih =>
    have hwrite (sink : String) (w : Write) (halone : Alone (w.step sink :: past) key) :
        shared key.text (w.step sink :: past) =
          ((writes key.cluster (w.step sink :: past)).filter
            fun w => w.key key.cluster = key).map (key.cluster, ·) := by
      have hpast := ih fun a ha => halone a (mem_labels_step.mpr (Or.inr ha))
      rw [writes_step]
      cases htarget : target? past sink with
      | none =>
        rw [shared_dead w key.text htarget, if_neg nofun]
        exact hpast
      | some c =>
        rw [shared_step w key.text htarget, hpast]
        by_cases hkey : w.key c = key
        · -- a write with these labels
          obtain rfl : c = key.cluster := congrArg SeriesKey.cluster hkey
          rw [if_pos (congrArg SeriesKey.text hkey), if_pos rfl, List.filter_cons,
            if_pos (decide_eq_true hkey), List.map_cons]
        · -- its text is another, or else its labels would be these
          rw [if_neg fun htext =>
            hkey (halone _ (mem_labels_step.mpr (Or.inl ⟨c, htarget, rfl⟩)) htext)]
          split
          · next hc =>
            obtain rfl : c = key.cluster := Option.some.inj hc
            rw [List.filter_cons, if_neg fun h => hkey (of_decide_eq_true h)]
          · rfl
    cases step with
    | sync sink k => exact hwrite sink (.sync k) halone
    | objects sink k n => exact hwrite sink (.objects k n) halone
    | forget c =>
      have hpast := ih halone
      simp only [shared, writes]
      by_cases hc : c = key.cluster
      · subst hc
        rw [if_pos rfl, hpast, List.filter_nil, List.map_nil, ite_eq_left_iff]
        intro hnone
        -- the controller had not written, so there was nothing to drop
        rw [List.filter_eq_nil_iff.mpr fun w hw hkey =>
          hnone ⟨w, hw, congrArg SeriesKey.text (of_decide_eq_true hkey)⟩]
        rfl
      · rw [if_neg hc, if_neg, hpast]
        rintro ⟨w, hw, htext⟩
        have hmem : w.key c ∈ labels past := mem_labels_of_mem_writes hw
        exact hc (congrArg SeriesKey.cluster (halone _ hmem htext))
    | _ => exact ih halone

/-- The passes of such labels are those of their controller. -/
theorem passes_of_alone {h : History} {key : SeriesKey} (halone : h.Alone key) :
    h.passes key.text =
      List.replicate ((h.writes key.cluster).count (.sync key.controller)) key := by
  rw [passes, shared_of_alone halone, List.filterMap_map, List.filterMap_filter]
  induction h.writes key.cluster with
  | nil => rfl
  | cons w rest ih =>
    rw [List.filterMap_cons, ih, List.count_cons]
    obtain ⟨c, k⟩ := key
    cases w with
    | sync controller =>
      by_cases hk : controller = k
      · simp [Write.key, Write.controller, Write.pass?, hk, List.replicate_succ]
      · simp [Write.key, Write.controller, hk]
    | objects controller n =>
      by_cases hk : controller = k <;> simp [Write.key, Write.controller, Write.pass?, hk]

/-- And so are the numbers of objects. -/
theorem counts_of_alone {h : History} {key : SeriesKey} (halone : h.Alone key) :
    h.counts key.text =
      ((h.writes key.cluster).filterMap (Write.objects? key.controller)).map (key, ·) := by
  rw [counts, shared_of_alone halone, List.filterMap_map, List.filterMap_filter,
    List.map_filterMap]
  refine congrArg (List.filterMap · (h.writes key.cluster)) (funext fun w => ?_)
  obtain ⟨c, k⟩ := key
  cases w with
  | sync controller =>
    by_cases hk : controller = k <;>
      simp [Write.key, Write.controller, Write.count?, Write.objects?, hk]
  | objects controller n =>
    by_cases hk : controller = k <;>
      simp [Write.key, Write.controller, Write.count?, Write.objects?, hk]

theorem Apart.alone {h : History} (hapart : h.Apart) {key : SeriesKey} (hkey : key ∈ h.labels) :
    h.Alone key := fun a ha htext => hapart a ha key hkey htext

end History

end Flotilla.Metrics
