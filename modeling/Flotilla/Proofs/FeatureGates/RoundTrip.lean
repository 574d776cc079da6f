import Flotilla.Proofs.FeatureGates.Grammar
import Mathlib.Logic.Function.Iterate

/-!
# Feature gates written and read again

The text of a table of gates is cut back into the rows it was made of.  This rests on the names: one
that was read has no comma and no equals sign in it and no blank at either end (`Plain`), whatever
stood around it.  So the text is read as the table again (`parse_display_of_plain`), and no two
tables have the same text.
-/

namespace Flotilla.FeatureGates

open Std (ExtTreeMap)
open Text (Blank trimList)

/-- A row as it is written. -/
def written (row : String × Bool) : List Char := row.1.toList ++ '=' :: (toString row.2).toList

/-- A name that can be read again. -/
structure Plain (name : String) : Prop where
  trimmed : trimList name.toList = name.toList
  notBlank : ¬ Blank name.toList
  noComma : ',' ∉ name.toList
  noEquals : '=' ∉ name.toList

/-- The text of a table lists its gates. -/
structure Lists (gates : FeatureGates) (rows : List (String × Bool)) : Prop where
  /-- The rows are those of the table. -/
  exact : ∀ name value, (name, value) ∈ rows ↔ gates.values[name]? = some value
  /-- Every name is there once, in ascending order. -/
  ascending : (rows.map (·.1)).Pairwise (· < ·)
  /-- They can be told apart in the text. -/
  plain : ∀ row ∈ rows, Plain row.1
  /-- The text has no other pieces. -/
  text : if rows = [] then gates.display = "" else pieces gates.display = rows.map written

/-- A table of gates and its text tell the same. -/
structure RoundTrip (gates : FeatureGates) : Prop where
  /-- The text is read as the table. -/
  again : parse gates.display = .ok gates
  /-- It is the text of no other table that was read. -/
  injective : ∀ spec other, parse spec = .ok other → other.display = gates.display → other = gates
  /-- It lists every name once in ascending order. -/
  lists : ∃ rows, Lists gates rows
  /-- Writing and reading any number of times changes nothing. -/
  stable : ∀ n, (fun r : Except GateFault FeatureGates => r.bind fun g => parse g.display)^[n]
    (.ok gates) = .ok gates

/-! ## Names that were read -/

variable {gates : FeatureGates} {name : String} {value : Bool} {piece : List Char}

theorem Says.plain (h : Says piece (.ok (name, value))) (hcomma : ',' ∉ piece) : Plain name := by
  generalize hr : Except.ok (name, value) = r at h
  cases h with
  | @sets front back _ hfront hblank hback =>
    cases hr
    have hname : (bare front).toList = trimList front := String.toList_ofList
    refine ⟨?_, ?_, ?_, ?_⟩
    · rw [hname, Text.trimList_idem]
    · rwa [hname, ← Text.trimList_eq_nil_iff, Text.trimList_idem, Text.trimList_eq_nil_iff]
    · rw [hname]
      exact fun hmem => hcomma (List.mem_append_left _ (Text.mem_of_mem_trimList hmem))
    · rw [hname]
      exact fun hmem => hfront (Text.mem_of_mem_trimList hmem)
  | _ => cases hr

theorem plain_of_parse {spec : String} (h : parse spec = .ok gates)
    (hname : gates.values[name]? = some value) : Plain name := by
  rw [parse_eq] at h
  rcases last_or_kept h name with ⟨v, ⟨before, piece, after, hpieces, hsays, -⟩, -⟩ | ⟨-, hkept⟩
  · refine hsays.plain (Text.splitOn_not_mem ',' spec.toList piece ?_)
    rw [Text.splitOn_eq, ← pieces, hpieces]
    exact List.mem_append_right _ List.mem_cons_self
  · rw [hkept, none, ExtTreeMap.getElem?_empty] at hname
    cases hname

/-! ## The text -/

section

variable {row : String × Bool}

theorem says_written (h : Plain row.1) : Says (written row) (.ok row) := by
  have hvalue : ∀ value : Bool, bare (toString value).toList ∈ spellings value := by decide
  have hsets : Says (written row) (.ok (bare row.1.toList, row.2)) :=
    .sets h.noEquals h.notBlank (hvalue row.2)
  rwa [bare, h.trimmed, String.ofList_toList] at hsets

theorem trimList_written (h : Plain row.1) : trimList (written row) = written row := by
  have hvalue : ∀ value : Bool, Text.trimEnd (toString value).toList = (toString value).toList := by
    decide
  have hname : Text.trimStart row.1.toList = row.1.toList := by
    rw [← h.trimmed, Text.trimStart_trimList]
  rw [written, Text.trimList_append_cons _ _ (by decide), hname, hvalue]

theorem not_blank_written : ¬ Blank (written row) := by
  intro h
  have hequals := h '=' (List.mem_append_right _ List.mem_cons_self)
  revert hequals
  decide

theorem comma_not_mem_written (h : Plain row.1) : ',' ∉ written row := by
  have hvalue : ∀ value : Bool, ',' ∉ '=' :: (toString value).toList := by decide
  rw [written, List.mem_append]
  rintro (hmem | hmem)
  · exact h.noComma hmem
  · exact hvalue row.2 hmem

end

variable {rows : List (String × Bool)}

theorem entriesOf_written (h : ∀ row ∈ rows, Plain row.1) :
    entriesOf (rows.map written) = rows.map written := by
  induction rows with
  | nil => rfl
  | cons row rows ih =>
    obtain ⟨hrow, hrows⟩ := List.forall_mem_cons.mp h
    rw [List.map_cons, entriesOf_cons not_blank_written, trimList_written hrow, ih hrows]

/-- Rows that are written are set. -/
theorem setAll_written (gates : FeatureGates) (h : ∀ row ∈ rows, Plain row.1) :
    gates.setAll (rows.map written) = .ok ⟨gates.values.insertMany rows⟩ := by
  induction rows generalizing gates with
  | nil =>
    rw [ExtTreeMap.insertMany_nil]
    rfl
  | cons row rows ih =>
    obtain ⟨hrow, hrows⟩ := List.forall_mem_cons.mp h
    have hparse := (says_written hrow).parsed
    rw [trimList_written hrow] at hparse
    rw [List.map_cons, setAll, hparse, ExtTreeMap.insertMany_cons]
    exact ih _ hrows

theorem toList_display (gates : FeatureGates) :
    gates.display.toList = [','].intercalate (gates.values.toList.map written) := by
  rw [display, String.toList_intercalate, List.map_map]
  refine congrArg _ (List.map_congr_left fun row _ => ?_)
  show (row.1 ++ "=" ++ toString row.2).toList = _
  rw [String.toList_append, String.toList_append, List.append_assoc]
  rfl

theorem pieces_display (h : ∀ row ∈ gates.values.toList, Plain row.1)
    (hne : gates.values.toList ≠ []) : pieces gates.display = gates.values.toList.map written := by
  have hwritten : gates.values.toList.map written ≠ [] := fun h => hne (List.map_eq_nil_iff.mp h)
  rw [pieces, toList_display]
  refine List.splitOn_intercalate ',' (fun piece hpiece => ?_) hwritten
  obtain ⟨row, hrow, rfl⟩ := List.mem_map.mp hpiece
  exact comma_not_mem_written (h row hrow)

theorem display_eq_empty (h : gates.values.toList = []) : gates.display = "" := by
  rw [display, h]
  rfl

/-- The text of a table with names that can be read again is read as the table. -/
theorem parse_display_of_plain (h : ∀ row ∈ gates.values.toList, Plain row.1) :
    parse gates.display = .ok gates := by
  have hentries : entriesOf (pieces gates.display) = gates.values.toList.map written := by
    by_cases hne : gates.values.toList = []
    · rw [display_eq_empty hne, hne]
      rfl
    · rw [pieces_display h hne, entriesOf_written h]
  rw [parse_eq, hentries, setAll_written none h]
  exact congrArg (fun values => Except.ok (FeatureGates.mk values)) (insertMany_toList gates.values)

theorem plain_rows {spec : String} (h : parse spec = .ok gates) :
    ∀ row ∈ gates.values.toList, Plain row.1 := fun _ hrow =>
  plain_of_parse h (ExtTreeMap.mem_toList_iff_getElem?_eq_some.mp hrow)

theorem lists_of_plain (h : ∀ row ∈ gates.values.toList, Plain row.1) :
    Lists gates gates.values.toList where
  exact _ _ := ExtTreeMap.mem_toList_iff_getElem?_eq_some
  ascending := by
    rw [List.pairwise_map]
    exact ExtTreeMap.ordered_keys_toList.imp fun hlt => compare_eq_lt_iff.mp hlt
  plain := h
  text := by
    split
    · next hnil => exact display_eq_empty hnil
    · next hne => exact pieces_display h hne

/-- The gates that a text sets are those that their own text sets. -/
theorem parse_display {spec : String} (h : parse spec = .ok gates) : RoundTrip gates := by
  have hagain := parse_display_of_plain (plain_rows h)
  refine ⟨hagain, fun spec' other hother hdisplay => ?_, ⟨_, lists_of_plain (plain_rows h)⟩,
    fun n => Function.iterate_fixed hagain n⟩
  have hother' := parse_display_of_plain (plain_rows hother)
  rw [hdisplay, hagain] at hother'
  cases hother'
  rfl

/-- Blanks of all kinds, an entry twice and an entry without a text. -/
theorem parse_display_untidy :
    ∃ gates, parse " B = T ,,A=0,\u00a0B=f " = .ok gates ∧ gates.display = "A=false,B=false" ∧
      RoundTrip gates := by
  have hparse : parse " B = T ,,A=0,\u00a0B=f " =
      .ok (((none.set "B" true).set "A" false).set "B" false) := by rfl
  exact ⟨_, hparse, rfl, parse_display hparse⟩

end Flotilla.FeatureGates
