import Flotilla.FeatureGates
import Flotilla.Proofs.Tables
import Flotilla.Proofs.Text.Pieces
import Flotilla.Text.Lines

/-!
# The grammar of feature gates

What a text of gates means is said piece by piece, of the pieces between its commas as they stand
there, blanks and all (`Says`).  Blank pieces say nothing.

* `parseEntry_eq_iff`: a piece is read as what it says.
* `setAll_eq_error_iff`, `exists_setAll_iff`, `last_or_kept`: so the first malformed piece decides
  what is wrong with a text, and in a text without one the last piece for a name decides its gate.
* `parse_append`: the gates of two texts joined by a comma are those of the second over those of the
  first.
* `parse_by_grammar`: all of it.
-/

namespace Flotilla.FeatureGates

open Std (ExtTreeMap)
open Text (Blank)

/-! ## What a text says -/

/-- The spellings of a value. -/
def spellings : Bool → List String
  | true => ["1", "t", "T", "true", "TRUE", "True"]
  | false => ["0", "f", "F", "false", "FALSE", "False"]

/-- A text without the blanks around it. -/
def bare (cs : List Char) : String := String.ofList (Text.trimList cs)

/-- The pieces of a text between its commas. -/
def pieces (spec : String) : List (List Char) := spec.toList.splitOn ','

/-- What a piece says that is not blank. -/
inductive Says : List Char → Except GateFault (String × Bool) → Prop where
  /-- There is no equals sign in it. -/
  | noValue {piece : List Char} : '=' ∉ piece → Says piece (.error (.noValue (bare piece)))
  /-- Nothing but blanks stands before the first one. -/
  | noName {front back : List Char} : '=' ∉ front → Blank front →
      Says (front ++ '=' :: back) (.error (.noName (bare (front ++ '=' :: back))))
  /-- What stands after it is no spelling. -/
  | notBoolean {front back : List Char} : '=' ∉ front → ¬ Blank front →
      (∀ value, bare back ∉ spellings value) →
      Says (front ++ '=' :: back) (.error (.notBoolean (bare front) (bare back)))
  /-- A gate is set. -/
  | sets {front back : List Char} {value : Bool} : '=' ∉ front → ¬ Blank front →
      bare back ∈ spellings value → Says (front ++ '=' :: back) (.ok (bare front, value))

/-- Nothing is wrong with a piece. -/
def Sound (piece : List Char) : Prop := Blank piece ∨ ∃ name value, Says piece (.ok (name, value))

/-- A piece sets a gate, and none after it sets it again. -/
def LastSets (l : List (List Char)) (name : String) (value : Bool) : Prop :=
  ∃ before piece after, l = before ++ piece :: after ∧ Says piece (.ok (name, value)) ∧
    ∀ p ∈ after, ∀ v, ¬ Says p (.ok (name, v))

/-- A piece is malformed, and it is the first. -/
def FirstFault (l : List (List Char)) (fault : GateFault) : Prop :=
  ∃ before piece after, l = before ++ piece :: after ∧ (∀ p ∈ before, Sound p) ∧
    ¬ Blank piece ∧ Says piece (.error fault)

/-- A text is read as its pieces say. -/
structure AsSaid (spec : String) : Prop where
  /-- It is accepted exactly if nothing is wrong with any piece. -/
  accepted : (∃ gates, parse spec = .ok gates) ↔ ∀ piece ∈ pieces spec, Sound piece
  /-- Then the last piece for a name decides its gate.  A gate without a piece is off. -/
  decided : ∀ gates, parse spec = .ok gates → ∀ name,
    (∃ value, LastSets (pieces spec) name value ∧
      gates.values[name]? = some value ∧ gates.enabled name = value) ∨
    (∀ piece ∈ pieces spec, ∀ value, ¬ Says piece (.ok (name, value))) ∧
      gates.values[name]? = .none ∧ gates.enabled name = false
  /-- Otherwise the first malformed piece decides what is wrong. -/
  refused : ∀ fault, parse spec = .error fault ↔ FirstFault (pieces spec) fault

/-- The gates of two tables, where the second counts for what is in both. -/
def override (x y : FeatureGates) : FeatureGates := ⟨x.values ∪ y.values⟩

/-- Two texts joined by a comma are read one after the other. -/
structure Joined (a b : String) : Prop where
  /-- What is wrong with the first is wrong with both. -/
  first : ∀ fault, parse a = .error fault → parse (a ++ "," ++ b) = .error fault
  /-- What is wrong with the second only is wrong with both. -/
  second : ∀ (x : FeatureGates) fault, parse a = .ok x → parse b = .error fault →
    parse (a ++ "," ++ b) = .error fault
  /-- The gates are those of either, the second before the first. -/
  both : ∀ x y : FeatureGates, parse a = .ok x → parse b = .ok y →
    parse (a ++ "," ++ b) = .ok (x.override y) ∧
    ∀ name : String, (x.override y).values[name]? = y.values[name]?.or x.values[name]?

/-! ## A piece -/

theorem enabled_eq (gates : FeatureGates) (name : String) :
    gates.enabled name = gates.values[name]?.getD false := ExtTreeMap.getD_eq_getD_getElem?

theorem boolOfSpelling_eq_some {s : String} {value : Bool} :
    boolOfSpelling s = some value ↔ s ∈ spellings value := by
  have hdisjoint : ∀ s ∈ spellings true, s ∉ spellings false := by decide
  have heq : boolOfSpelling s = if s ∈ spellings true then some true
      else if s ∈ spellings false then some false else .none := rfl
  rw [heq]
  by_cases htrue : s ∈ spellings true
  · have hfalse := hdisjoint s htrue
    cases value <;> simp [htrue, hfalse]
  · cases value <;> simp [htrue]

theorem boolOfSpelling_eq_none {s : String} :
    boolOfSpelling s = .none ↔ ∀ value, s ∉ spellings value := by
  simp only [Option.eq_none_iff_forall_ne_some, ne_eq, boolOfSpelling_eq_some]

theorem exists_says (piece : List Char) : ∃ r, Says piece r := by
  by_cases heq : '=' ∈ piece
  · obtain ⟨front, back, rfl, hfront⟩ := List.eq_append_cons_of_mem heq
    by_cases hblank : Blank front
    · exact ⟨_, .noName hfront hblank⟩
    · cases hb : boolOfSpelling (bare back) with
      | none => exact ⟨_, .notBoolean hfront hblank (boolOfSpelling_eq_none.mp hb)⟩
      | some value => exact ⟨_, .sets hfront hblank (boolOfSpelling_eq_some.mp hb)⟩
  · exact ⟨_, .noValue heq⟩

/-- The equals sign stays, and what is trimmed on either side of it is trimmed again. -/
theorem parseEntry_trimList {front back : List Char} (h : '=' ∉ front) :
    parseEntry (Text.trimList (front ++ '=' :: back)) =
      if Blank front then .error (.noName (bare (front ++ '=' :: back)))
      else match boolOfSpelling (bare back) with
        | .none => .error (.notBoolean (bare front) (bare back))
        | some value => .ok (bare front, value) := by
  have hcut : Text.cutAt '=' (Text.trimList (front ++ '=' :: back)) =
      some (Text.trimStart front, Text.trimEnd back) := by
    rw [Text.trimList_append_cons front back (by decide)]
    exact Text.cutAt_append fun hmem => h ((List.dropWhile_suffix Text.isBlank).subset hmem)
  rw [parseEntry, hcut]
  simp only [Text.trimList_trimStart, Text.trimList_trimEnd, List.isEmpty_iff, bare]
  by_cases hblank : Blank front
  · rw [if_pos (Text.trimList_eq_nil_iff.mpr hblank), if_pos hblank]
  · have hname : ¬ Text.trimList front = [] := fun h => hblank (Text.trimList_eq_nil_iff.mp h)
    cases boolOfSpelling (String.ofList (Text.trimList back)) with
    | none => rw [if_neg hname, if_neg hblank]
    | some value => rw [if_neg hname, if_neg hblank]

variable {piece : List Char} {r : Except GateFault (String × Bool)}

theorem Says.parsed (h : Says piece r) : parseEntry (Text.trimList piece) = r := by
  cases h with
  | noValue hpiece =>
    rw [parseEntry, Text.cutAt_of_not_mem fun hmem => hpiece (Text.mem_of_mem_trimList hmem), bare]
  | noName hfront hblank => rw [parseEntry_trimList hfront, if_pos hblank]
  | notBoolean hfront hblank hback =>
    rw [parseEntry_trimList hfront, if_neg hblank, boolOfSpelling_eq_none.mpr hback]
  | sets hfront hblank hback =>
    rw [parseEntry_trimList hfront, if_neg hblank, boolOfSpelling_eq_some.mpr hback]

/-- A piece is read as what it says. -/
theorem parseEntry_eq_iff : parseEntry (Text.trimList piece) = r ↔ Says piece r := by
  refine ⟨?_, Says.parsed⟩
  rintro rfl
  obtain ⟨r, hr⟩ := exists_says piece
  rwa [hr.parsed]

theorem Says.unique {r' : Except GateFault (String × Bool)} (h : Says piece r)
    (h' : Says piece r') : r = r' := h.parsed.symm.trans h'.parsed

/-- A blank piece sets no gate. -/
theorem not_says_of_blank {name : String} {value : Bool} (h : Blank piece) :
    ¬ Says piece (.ok (name, value)) := by
  intro hsays
  generalize hr : Except.ok (name, value) = r at hsays
  cases hsays with
  | sets hfront hblank hback => exact hblank fun c hc => h c (List.mem_append_left _ hc)
  | _ => cases hr

/-! ## The pieces one after another -/

/-- The entries of a list of pieces. -/
def entriesOf (l : List (List Char)) : List (List Char) :=
  (l.map Text.trimList).filter fun entry => !entry.isEmpty

theorem parse_eq (spec : String) : parse spec = none.setAll (entriesOf (pieces spec)) := by
  rw [parse, entries, Text.splitOn_eq, entriesOf, pieces]

variable {l : List (List Char)} {gates : FeatureGates} {name : String} {value : Bool}
  {fault : GateFault}

theorem entriesOf_cons_of_blank (h : Blank piece) : entriesOf (piece :: l) = entriesOf l := by
  rw [entriesOf, List.map_cons, List.filter_cons, Text.trimList_eq_nil_iff.mpr h]
  rfl

theorem entriesOf_cons (h : ¬ Blank piece) :
    entriesOf (piece :: l) = Text.trimList piece :: entriesOf l := by
  have hne : (!(Text.trimList piece).isEmpty) = true := by
    rw [Bool.not_eq_true', ← Bool.not_eq_true, List.isEmpty_iff, Text.trimList_eq_nil_iff]
    exact h
  rw [entriesOf, List.map_cons, List.filter_cons, if_pos hne, entriesOf]

/-- What comes of a piece and those after it. -/
theorem setAll_cons (gates : FeatureGates) (piece : List Char) (l : List (List Char)) :
    (Blank piece ∧ gates.setAll (entriesOf (piece :: l)) = gates.setAll (entriesOf l)) ∨
      (∃ fault, ¬ Blank piece ∧ Says piece (.error fault) ∧
        gates.setAll (entriesOf (piece :: l)) = .error fault) ∨
      ∃ name value, Says piece (.ok (name, value)) ∧
        gates.setAll (entriesOf (piece :: l)) = (gates.set name value).setAll (entriesOf l) := by
  by_cases hblank : Blank piece
  · exact Or.inl ⟨hblank, by rw [entriesOf_cons_of_blank hblank]⟩
  · obtain ⟨r, hr⟩ := exists_says piece
    rw [entriesOf_cons hblank, setAll, hr.parsed]
    cases r with
    | error fault => exact Or.inr (Or.inl ⟨fault, hblank, hr, rfl⟩)
    | ok row => exact Or.inr (Or.inr ⟨row.1, row.2, hr, rfl⟩)

theorem Sound.not_fault (h : Sound piece) (hblank : ¬ Blank piece) :
    ¬ Says piece (.error fault) := by
  intro hfault
  obtain ⟨name, value, hsets⟩ := h.resolve_left hblank
  cases hsets.unique hfault

theorem firstFault_cons : FirstFault (piece :: l) fault ↔
    (¬ Blank piece ∧ Says piece (.error fault)) ∨ Sound piece ∧ FirstFault l fault := by
  constructor
  · rintro ⟨before, p, after, hl, hbefore, hp⟩
    cases before with
    | nil =>
      cases hl
      exact Or.inl hp
    | cons q before =>
      cases hl
      exact Or.inr ⟨hbefore _ List.mem_cons_self,
        before, p, after, rfl, fun q hq => hbefore q (List.mem_cons_of_mem _ hq), hp⟩
  · rintro (hpiece | ⟨hpiece, before, p, after, rfl, hbefore, hp⟩)
    · exact ⟨[], piece, l, rfl, nofun, hpiece⟩
    · exact ⟨piece :: before, p, after, rfl, List.forall_mem_cons.mpr ⟨hpiece, hbefore⟩, hp⟩

/-- The first malformed piece decides what is wrong. -/
theorem setAll_eq_error_iff :
    gates.setAll (entriesOf l) = .error fault ↔ FirstFault l fault := by
  induction l generalizing gates with
  | nil =>
    refine iff_of_false nofun ?_
    rintro ⟨before, p, after, hl, -⟩
    simp at hl
  | cons piece l ih =>
    rw [firstFault_cons]
    rcases setAll_cons gates piece l with
      ⟨hblank, heq⟩ | ⟨found, hblank, hfound, heq⟩ | ⟨name, value, hsets, heq⟩
    · rw [heq, ih]
      exact ⟨fun h => Or.inr ⟨Or.inl hblank, h⟩, fun h => (h.resolve_left fun h => h.1 hblank).2⟩
    · rw [heq]
      constructor
      · intro h
        cases h
        exact Or.inl ⟨hblank, hfound⟩
      · rintro (⟨-, h⟩ | ⟨hsound, -⟩)
        · cases hfound.unique h
          rfl
        · exact absurd hfound (hsound.not_fault hblank)
    · rw [heq, ih]
      have hsound : Sound piece := Or.inr ⟨name, value, hsets⟩
      exact ⟨fun h => Or.inr ⟨hsound, h⟩,
        fun h => (h.resolve_left fun h => hsound.not_fault h.1 h.2).2⟩

/-- Gates are set exactly if nothing is wrong with any piece. -/
theorem exists_setAll_iff :
    (∃ g, gates.setAll (entriesOf l) = .ok g) ↔ ∀ piece ∈ l, Sound piece := by
  induction l generalizing gates with
  | nil => exact iff_of_true ⟨gates, rfl⟩ nofun
  | cons piece l ih =>
    rw [List.forall_mem_cons]
    rcases setAll_cons gates piece l with
      ⟨hblank, heq⟩ | ⟨found, hblank, hfound, heq⟩ | ⟨name, value, hsets, heq⟩
    · rw [heq, ih]
      exact ⟨fun h => ⟨Or.inl hblank, h⟩, fun h => h.2⟩
    · rw [heq]
      refine iff_of_false nofun ?_
      rintro ⟨hsound, -⟩
      exact hsound.not_fault hblank hfound
    · rw [heq, ih]
      exact ⟨fun h => ⟨Or.inr ⟨name, value, hsets⟩, h⟩, fun h => h.2⟩

theorem LastSets.cons (h : LastSets l name value) : LastSets (piece :: l) name value := by
  obtain ⟨before, p, after, rfl, hp⟩ := h
  exact ⟨piece :: before, p, after, rfl, hp⟩

/-- The last piece for a name decides its gate.  A gate without one is kept. -/
theorem last_or_kept {g : FeatureGates} (h : gates.setAll (entriesOf l) = .ok g) (name : String) :
    (∃ value, LastSets l name value ∧ g.values[name]? = some value) ∨
      (∀ piece ∈ l, ∀ value, ¬ Says piece (.ok (name, value))) ∧
        g.values[name]? = gates.values[name]? := by
  induction l generalizing gates with
  | nil =>
    cases h
    exact Or.inr ⟨nofun, rfl⟩
  | cons piece l ih =>
    rcases setAll_cons gates piece l with
      ⟨hblank, heq⟩ | ⟨found, hblank, hfound, heq⟩ | ⟨set, value, hsets, heq⟩
    · rcases ih (heq ▸ h) with ⟨value, hlast, hg⟩ | ⟨hnone, hg⟩
      · exact Or.inl ⟨value, hlast.cons, hg⟩
      · exact Or.inr ⟨List.forall_mem_cons.mpr ⟨fun _ => not_says_of_blank hblank, hnone⟩, hg⟩
    · rw [heq] at h
      cases h
    · rcases ih (heq ▸ h) with ⟨value, hlast, hg⟩ | ⟨hnone, hg⟩
      · exact Or.inl ⟨value, hlast.cons, hg⟩
      · rw [FeatureGates.set, lookup_insert] at hg
        by_cases hname : set = name
        · subst hname
          rw [if_pos rfl] at hg
          exact Or.inl ⟨value, ⟨[], piece, l, rfl, hsets, hnone⟩, hg⟩
        · rw [if_neg hname] at hg
          refine Or.inr ⟨List.forall_mem_cons.mpr ⟨fun v hv => ?_, hnone⟩, hg⟩
          cases hsets.unique hv
          exact hname rfl

/-! ## Two texts -/

theorem override_none (x : FeatureGates) : x.override none = x := by
  refine congrArg FeatureGates.mk (ExtTreeMap.ext_getElem? fun name => ?_)
  rw [ExtTreeMap.getElem?_union, none, ExtTreeMap.getElem?_empty, Option.none_or]

theorem override_set (x y : FeatureGates) (name : String) (value : Bool) :
    (x.override y).set name value = x.override (y.set name value) := by
  rw [set, override, override, set]
  exact congrArg FeatureGates.mk
    (ExtTreeMap.union_insert_right_eq_insert_union (p := ⟨name, value⟩)).symm

/-- Entries set the same over other gates. -/
theorem setAll_override (x y : FeatureGates) (es : List (List Char)) :
    (x.override y).setAll es = (y.setAll es).map x.override := by
  induction es generalizing y with
  | nil => rfl
  | cons entry rest ih =>
    rw [setAll, setAll]
    cases parseEntry entry with
    | error fault => rfl
    | ok row =>
      show ((x.override y).set row.1 row.2).setAll rest = ((y.set row.1 row.2).setAll rest).map _
      rw [override_set, ih]

/-- The gates of two texts joined by a comma are those of the second over those of the first. -/
theorem parse_append (a b : String) :
    parse (a ++ "," ++ b) = (parse a).bind fun x => (parse b).map x.override := by
  have hlist : (a ++ "," ++ b).toList = a.toList ++ ',' :: b.toList := by simp
  rw [parse, hlist, entries_append, setAll_append, ← parse]
  refine congrArg (Except.bind (parse a)) (funext fun x => ?_)
  rw [parse, ← setAll_override, override_none]

/-- Every text is read as its pieces say, and two texts joined by a comma one after the other. -/
theorem parse_by_grammar : (∀ spec, AsSaid spec) ∧ ∀ a b, Joined a b := by
  refine ⟨fun spec => ⟨?_, ?_, ?_⟩, fun a b => ⟨?_, ?_, ?_⟩⟩
  · rw [parse_eq]
    exact exists_setAll_iff
  · intro gates h name
    rw [parse_eq] at h
    rcases last_or_kept h name with ⟨value, hlast, hvalue⟩ | ⟨hnone, hvalue⟩
    · exact Or.inl ⟨value, hlast, hvalue, by rw [enabled_eq, hvalue, Option.getD_some]⟩
    · have hempty : gates.values[name]? = .none := hvalue.trans ExtTreeMap.getElem?_empty
      exact Or.inr ⟨hnone, hempty, by rw [enabled_eq, hempty, Option.getD_none]⟩
  · intro fault
    rw [parse_eq]
    exact setAll_eq_error_iff
  · intro fault ha
    rw [parse_append, ha]
    rfl
  · intro x fault ha hb
    rw [parse_append, ha, hb]
    rfl
  · intro x y ha hb
    rw [parse_append, ha, hb]
    exact ⟨rfl, fun name => ExtTreeMap.getElem?_union⟩

end Flotilla.FeatureGates
