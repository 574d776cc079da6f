import Flotilla.Proofs.Text.Pieces
import Flotilla.Text.Lines

/-!
# The entries of a listing

A tool lists its findings one to a line, and `nonEmptyLines` reads them.  `Entry` says which words
can be found so, and `Reads` is the grammar of the texts in which they are: blank lines may stand
anywhere, and blanks may stand around an entry.  A carriage return is a blank and no line feed, so
a line may end with one.  Other characters that end a line elsewhere are blanks here too.

* `nonEmptyLines_eq_iff_reads`: the entries of a text are those of its grammar.
* `nonEmptyLines_intercalate`: entries that are joined are found again.
* `lineLaws`: these and what follows from them.
-/

namespace Flotilla.Text

/-- A word that can be found on a line. -/
structure Entry (x : String) : Prop where
  nonempty : x ≠ ""
  /-- It neither starts nor ends with a blank. -/
  first : ∀ c ∈ x.toList.head?, isBlank c = false
  last : ∀ c ∈ x.toList.getLast?, isBlank c = false
  oneLine : '\n' ∉ x.toList

/-- The entries of a text. -/
inductive Reads : List Char → List String → Prop where
  /-- Blank lines have none. -/
  | blank {cs : List Char} (blank : Blank cs) : Reads cs []
  /-- An entry may have blanks around it. -/
  | entry {front back : List Char} {x : String} (before : Blank front) (entry : Entry x)
      (after : Blank back) : Reads (front ++ x.toList ++ back) [x]
  /-- A line feed stands between lines. -/
  | feed {a b : List Char} {xs ys : List String} (upper : Reads a xs) (lower : Reads b ys) :
      Reads (a ++ '\n' :: b) (xs ++ ys)

/-! ## Entries -/

theorem trimList_eq_self {cs : List Char} (hfirst : ∀ c ∈ cs.head?, isBlank c = false)
    (hlast : ∀ c ∈ cs.getLast?, isBlank c = false) : trimList cs = cs := by
  have hstart (l : List Char) (h : ∀ c ∈ l.head?, isBlank c = false) : trimStart l = l := by
    cases l with
    | nil => rfl
    | cons c rest => exact trimStart_of_head (h c rfl)
  rw [← List.head?_reverse] at hlast
  rw [trimList, hstart cs hfirst, trimEnd, hstart _ hlast, List.reverse_reverse]

/-- An entry is a trimmed word on one line. -/
theorem entry_iff {x : String} :
    Entry x ↔ x.toList ≠ [] ∧ trimList x.toList = x.toList ∧ '\n' ∉ x.toList := by
  constructor
  · intro h
    exact ⟨mt String.toList_eq_nil_iff.mp h.nonempty, trimList_eq_self h.first h.last, h.oneLine⟩
  · rintro ⟨hne, htrim, hline⟩
    obtain ⟨hfirst, hlast⟩ := trimList_ends x.toList
    rw [htrim] at hfirst hlast
    refine ⟨mt String.toList_eq_nil_iff.mpr hne, fun c hc => ?_, fun c hc => ?_, hline⟩
    · obtain ⟨rest, hrest⟩ := List.head?_eq_some_iff.mp hc
      exact hfirst c rest hrest
    · rw [← List.head?_reverse] at hc
      obtain ⟨rest, hrest⟩ := List.head?_eq_some_iff.mp hc
      exact hlast c rest hrest

theorem entry_of_mem {text : String} {x : String} (h : x ∈ nonEmptyLines text) : Entry x := by
  obtain ⟨line, hline, rfl⟩ := List.mem_map.mp h
  rw [entry_iff, String.toList_ofList]
  exact mem_nonEmptyLineList hline

/-! ## Blanks around a text -/

/-- What holds of every line, and of two texts joined if it holds of both, holds of every text. -/
theorem text_induction {P : List Char → Prop} (line : ∀ cs, '\n' ∉ cs → P cs)
    (feed : ∀ a b, P a → P b → P (a ++ '\n' :: b)) (cs : List Char) : P cs := by
  by_cases hmem : '\n' ∈ cs
  · obtain ⟨a, b, hcs, ha⟩ := List.eq_append_cons_of_mem hmem
    have hshort : b.length < cs.length := by
      rw [hcs, List.length_append, List.length_cons]
      omega
    rw [hcs]
    exact feed a b (line a ha) (text_induction line feed b)
  · exact line cs hmem
termination_by cs.length

theorem nonEmptyLineList_of_not_mem {line : List Char} (h : '\n' ∉ line) :
    nonEmptyLineList line = if trimList line = [] then [] else [trimList line] := by
  rw [nonEmptyLineList, splitOn_of_not_mem h]
  cases ht : trimList line <;> simp [ht]

theorem nonEmptyLineList_cons_blank {c : Char} (hc : isBlank c = true) (cs : List Char) :
    nonEmptyLineList (c :: cs) = nonEmptyLineList cs := by
  by_cases hfeed : c = '\n'
  · subst hfeed
    exact nonEmptyLineList_append [] cs
  · -- the blank belongs to the first line and is trimmed away
    have htrim (line : List Char) : trimList (c :: line) = trimList line := by
      rw [trimList, trimStart, List.dropWhile_cons_of_pos hc]
      rfl
    rw [nonEmptyLineList, nonEmptyLineList, splitOn, if_neg hfeed]
    cases hs : splitOn '\n' cs with
    | nil => exact absurd hs (splitOn_ne_nil '\n' cs)
    | cons line lines => simp only [List.map_cons, htrim]

theorem nonEmptyLineList_concat_blank {c : Char} (hc : isBlank c = true) (cs : List Char) :
    nonEmptyLineList (cs ++ [c]) = nonEmptyLineList cs := by
  by_cases hfeed : c = '\n'
  · subst hfeed
    rw [nonEmptyLineList_append]
    exact List.append_nil _
  · -- the blank belongs to the last line
    induction cs using text_induction with
    | line cs hcs =>
      have hline : '\n' ∉ cs ++ [c] := by
        rw [List.mem_append, List.mem_singleton]
        exact fun h => h.elim hcs fun h => hfeed h.symm
      have htrim : trimList (cs ++ [c]) = trimList cs := by
        rw [← trimList_trimEnd, trimEnd, List.reverse_append, List.reverse_singleton,
          List.singleton_append, trimStart, List.dropWhile_cons_of_pos hc]
        exact trimList_trimEnd cs
      rw [nonEmptyLineList_of_not_mem hline, nonEmptyLineList_of_not_mem hcs, htrim]
    | feed a b _ ih =>
      rw [List.append_assoc, List.cons_append, nonEmptyLineList_append, nonEmptyLineList_append, ih]

theorem nonEmptyLineList_blank_append {front : List Char} (h : Blank front) (cs : List Char) :
    nonEmptyLineList (front ++ cs) = nonEmptyLineList cs := by
  induction front with
  | nil => rfl
  | cons c front ih =>
    rw [List.cons_append, nonEmptyLineList_cons_blank (h c List.mem_cons_self)]
    exact ih fun d hd => h d (List.mem_cons_of_mem c hd)

theorem nonEmptyLineList_append_blank {back : List Char} (h : Blank back) (cs : List Char) :
    nonEmptyLineList (cs ++ back) = nonEmptyLineList cs := by
  induction back generalizing cs with
  | nil => rw [List.append_nil]
  | cons c back ih =>
    rw [List.append_cons, ih fun d hd => h d (List.mem_cons_of_mem c hd)]
    exact nonEmptyLineList_concat_blank (h c List.mem_cons_self) cs

/-- What is trimmed away is blank. -/
theorem exists_trimmed (cs : List Char) :
    ∃ front back, Blank front ∧ Blank back ∧ cs = front ++ trimList cs ++ back := by
  obtain ⟨front, hfront, hcs⟩ := trimStart_suffix cs
  obtain ⟨back, hback, hrest⟩ := trimEnd_append_blank (trimStart cs)
  refine ⟨front, back, hfront, hback, ?_⟩
  rw [List.append_assoc, trimList, ← hrest]
  exact hcs

/-! ## The grammar -/

theorem Reads.lines {cs : List Char} {xs : List String} (h : Reads cs xs) :
    nonEmptyLineList cs = xs.map String.toList := by
  induction h with
  | blank hblank =>
    have := nonEmptyLineList_blank_append hblank []
    rwa [List.append_nil] at this
  | entry hfront hx hback =>
    obtain ⟨hne, htrim, hline⟩ := entry_iff.mp hx
    rw [nonEmptyLineList_append_blank hback, nonEmptyLineList_blank_append hfront,
      nonEmptyLineList_of_not_mem hline, htrim, if_neg hne]
    rfl
  | feed _ _ iha ihb => rw [nonEmptyLineList_append, iha, ihb, List.map_append]

/-- Every text has a reading. -/
theorem reads_lines (cs : List Char) : Reads cs ((nonEmptyLineList cs).map String.ofList) := by
  induction cs using text_induction with
  | line cs hcs =>
    rw [nonEmptyLineList_of_not_mem hcs]
    split
    · next hnil => exact .blank (trimList_eq_nil_iff.mp hnil)
    · next hne =>
      obtain ⟨front, back, hfront, hback, he⟩ := exists_trimmed cs
      have hentry : Entry (String.ofList (trimList cs)) := by
        rw [entry_iff, String.toList_ofList]
        exact ⟨hne, trimList_idem cs, fun hmem => hcs (mem_of_mem_trimList hmem)⟩
      have hreads := Reads.entry hfront hentry hback
      rwa [String.toList_ofList, ← he] at hreads
  | feed a b iha ihb =>
    rw [nonEmptyLineList_append, List.map_append]
    exact .feed iha ihb

theorem nonEmptyLines_eq_iff_reads {text : String} {xs : List String} :
    nonEmptyLines text = xs ↔ Reads text.toList xs := by
  constructor
  · rintro rfl
    exact reads_lines text.toList
  · intro h
    have hid : String.ofList ∘ String.toList = id := funext fun _ => String.ofList_toList
    rw [nonEmptyLines, h.lines, List.map_map, hid, List.map_id]

/-! ## Entries that are joined -/

/-- Each entry but the last is followed by some blanks and a line feed. -/
theorem reads_intercalate {ending : List Char} (hblank : Blank ending) {xs : List String}
    (h : ∀ x ∈ xs, Entry x) :
    Reads ((ending ++ ['\n']).intercalate (xs.map String.toList)) xs := by
  induction xs with
  | nil => exact .blank nofun
  | cons x rest ih =>
    obtain ⟨hx, hrest⟩ := List.forall_mem_cons.mp h
    cases rest with
    | nil =>
      have hreads : Reads ([] ++ x.toList ++ []) [x] := .entry nofun hx nofun
      simpa using hreads
    | cons y rest =>
      have hfirst : Reads ([] ++ x.toList ++ ending) [x] := .entry nofun hx hblank
      have hreads := hfirst.feed (ih hrest)
      simpa [List.intercalate_cons_cons] using hreads

theorem nonEmptyLines_intercalate {ending : String} (hblank : Blank ending.toList)
    {xs : List String} (h : ∀ x ∈ xs, Entry x) :
    nonEmptyLines ((ending ++ "\n").intercalate xs) = xs := by
  rw [nonEmptyLines_eq_iff_reads, String.toList_intercalate, String.toList_append]
  exact reads_intercalate hblank h

/-- How the entries of texts are found. -/
structure LineLaws : Prop where
  entries : ∀ text, ∀ x ∈ nonEmptyLines text, Entry x
  reads : ∀ text xs, nonEmptyLines text = xs ↔ Reads text.toList xs
  joined : ∀ ending ∈ ["\n", "\r\n"], ∀ xs : List String, (∀ x ∈ xs, Entry x) →
    nonEmptyLines (ending.intercalate xs) = xs
  /-- To find the entries and to join them changes nothing the second time. -/
  again : ∀ ending ∈ ["\n", "\r\n"], ∀ text,
    nonEmptyLines (ending.intercalate (nonEmptyLines text)) = nonEmptyLines text
  append : ∀ a b, nonEmptyLines (a ++ "\n" ++ b) = nonEmptyLines a ++ nonEmptyLines b

theorem lineLaws : LineLaws := by
  have hjoined : ∀ ending ∈ ["\n", "\r\n"], ∀ xs : List String, (∀ x ∈ xs, Entry x) →
      nonEmptyLines (ending.intercalate xs) = xs := by
    intro ending hending xs hxs
    simp only [List.mem_cons, List.not_mem_nil, or_false] at hending
    rcases hending with rfl | rfl
    · change nonEmptyLines (("" ++ "\n").intercalate xs) = xs
      exact nonEmptyLines_intercalate (by simp [Blank]) hxs
    · change nonEmptyLines (("\r" ++ "\n").intercalate xs) = xs
      exact nonEmptyLines_intercalate (by simp [Blank, isBlank]) hxs
  exact {
    entries := fun _ _ => entry_of_mem
    reads := fun _ _ => nonEmptyLines_eq_iff_reads
    joined := hjoined
    again := fun ending hending text => hjoined ending hending _ fun _ => entry_of_mem
    append := nonEmptyLines_append }

end Flotilla.Text
