import Flotilla.Text.Blank
import Flotilla.Text.Split
import Mathlib.Data.List.TakeWhile

/-!
# Pieces of a text and the blanks around them

Cutting a text and trimming it do not get in each other's way.  The character at which a text is cut
is not blank, so what is trimmed in front of it and what is trimmed behind it can be trimmed before
the cut or after it (`trimList_append_cons`, `trimList_trimStart`, `trimList_trimEnd`).  For the
same reason a word that neither starts nor ends with a blank is in a text exactly if it is in the
trimmed one (`infix_trimList_iff`).
-/

namespace Flotilla.Text

/-- A text with nothing but blanks. -/
def Blank (cs : List Char) : Prop := ∀ c ∈ cs, isBlank c = true

instance (cs : List Char) : Decidable (Blank cs) :=
  inferInstanceAs (Decidable (∀ c ∈ cs, isBlank c = true))

theorem allBlank_iff {s : String} : allBlank s = true ↔ Blank s.toList := List.all_eq_true

/-! ## Cutting -/

/-- The pieces are those of the standard library. -/
theorem splitOn_eq (sep : Char) (cs : List Char) : splitOn sep cs = cs.splitOn sep := by
  induction cs with
  | nil => rfl
  | cons c cs ih =>
    rw [List.splitOn_cons_eq_if_modifyHead, splitOn, ih]
    by_cases h : c = sep
    · simp [h]
    · rw [if_neg h, if_neg (by simpa using h)]
      cases hs : cs.splitOn sep with
      | nil => exact absurd hs (List.splitOn_ne_nil sep cs)
      | cons piece pieces => rfl

variable {sep : Char} {cs a b : List Char}

/-- A text without the character cannot be cut there. -/
theorem cutAt_of_not_mem (h : sep ∉ cs) : cutAt sep cs = none := by
  induction cs with
  | nil => rfl
  | cons c cs ih =>
    obtain ⟨hc, hcs⟩ := List.ne_and_not_mem_of_not_mem_cons h
    rw [cutAt, if_neg (Ne.symm hc), ih hcs, Option.map_none]

/-- A text is cut at the first place where the character stands. -/
theorem cutAt_append (h : sep ∉ a) : cutAt sep (a ++ sep :: b) = some (a, b) := by
  induction a with
  | nil => rw [List.nil_append, cutAt, if_pos rfl]
  | cons c a ih =>
    obtain ⟨hc, ha⟩ := List.ne_and_not_mem_of_not_mem_cons h
    rw [List.cons_append, cutAt, if_neg (Ne.symm hc), ih ha, Option.map_some]

/-! ## Trimming -/

theorem trimStart_eq_nil_iff : trimStart cs = [] ↔ Blank cs := List.dropWhile_eq_nil_iff

theorem trimEnd_eq_nil_iff : trimEnd cs = [] ↔ Blank cs := by
  rw [trimEnd, List.reverse_eq_nil_iff, trimStart_eq_nil_iff]
  simp only [Blank, List.mem_reverse]

theorem trimList_eq_nil_iff : trimList cs = [] ↔ Blank cs := by
  rw [trimList, trimEnd_eq_nil_iff]
  constructor
  · intro h
    refine trimStart_eq_nil_iff.mp ?_
    -- what is left in front starts with a character that is not blank
    cases hs : trimStart cs with
    | nil => rfl
    | cons c rest =>
      have hc := h c (hs ▸ List.mem_cons_self)
      rw [trimStart_head hs] at hc
      cases hc
  · intro h
    rw [trimStart_eq_nil_iff.mpr h]
    exact fun _ hc => absurd hc List.not_mem_nil

/-- Nothing is trimmed in front from a character on that is not blank. -/
theorem trimStart_append_cons (front : List Char) {c : Char} (rest : List Char)
    (hc : isBlank c = false) : trimStart (front ++ c :: rest) = trimStart front ++ c :: rest := by
  rw [trimStart, List.dropWhile_append]
  split
  · next hnil =>
    rw [trimStart, List.isEmpty_iff.mp hnil, List.nil_append]
    exact trimStart_of_head hc
  · rfl

/-- Nothing is trimmed behind up to a character that is not blank. -/
theorem trimEnd_append_cons (front : List Char) {c : Char} (rest : List Char)
    (hc : isBlank c = false) : trimEnd (front ++ c :: rest) = front ++ c :: trimEnd rest := by
  rw [trimEnd, List.reverse_append, List.reverse_cons, List.append_assoc, List.singleton_append,
    trimStart_append_cons rest.reverse front.reverse hc]
  simp [trimEnd]

/-- A text with a character that is not blank is trimmed in front of it and behind it. -/
theorem trimList_append_cons (front : List Char) {c : Char} (rest : List Char)
    (hc : isBlank c = false) :
    trimList (front ++ c :: rest) = trimStart front ++ c :: trimEnd rest := by
  rw [trimList, trimStart_append_cons front rest hc, trimEnd_append_cons _ rest hc]

theorem trimList_trimStart (cs : List Char) : trimList (trimStart cs) = trimList cs := by
  rw [trimList, trimStart_idem, trimList]

theorem trimStart_trimEnd (cs : List Char) : trimStart (trimEnd cs) = trimEnd (trimStart cs) := by
  cases hs : trimStart cs with
  | nil =>
    rw [trimEnd_eq_nil_iff.mpr (trimStart_eq_nil_iff.mp hs)]
    rfl
  | cons c rest =>
    obtain ⟨front, hblank, hcs⟩ := trimStart_suffix cs
    have hc := trimStart_head hs
    rw [hs] at hcs
    have hfront : trimStart front = [] := trimStart_eq_nil_iff.mpr hblank
    have hend := trimEnd_append_cons [] rest hc
    rw [List.nil_append, List.nil_append] at hend
    rw [hcs, trimEnd_append_cons front rest hc, trimStart_append_cons front _ hc, hfront,
      List.nil_append, hend]

theorem trimList_trimEnd (cs : List Char) : trimList (trimEnd cs) = trimList cs := by
  rw [trimList, trimStart_trimEnd, trimEnd_idem, trimList]

theorem trimStart_trimList (cs : List Char) : trimStart (trimList cs) = trimList cs := by
  rw [trimList, trimStart_trimEnd, trimStart_idem]

/-! ## Words -/

theorem hasWord_iff {word : List Char} : hasWord word cs = true ↔ word <:+: cs := by
  induction cs with
  | nil => rw [hasWord, List.isEmpty_iff, List.infix_nil]
  | cons c cs ih =>
    rw [hasWord, Bool.or_eq_true, List.isPrefixOf_iff_prefix, ih, List.infix_cons_iff]

/-- A word that does not start with a blank is not touched by trimming in front. -/
theorem infix_trimStart_iff {c : Char} {word : List Char} (hc : isBlank c = false) :
    c :: word <:+: trimStart cs ↔ c :: word <:+: cs := by
  constructor
  · intro h
    exact h.trans (List.dropWhile_suffix isBlank).isInfix
  · rintro ⟨front, back, rfl⟩
    rw [List.append_assoc, List.cons_append, trimStart_append_cons front _ hc]
    exact ⟨trimStart front, back, by simp⟩

/-- A word that neither starts nor ends with a blank is in a text exactly if it is in the trimmed
one. -/
theorem infix_trimList_iff {c d : Char} {word rest : List Char} (hc : isBlank c = false)
    (hd : isBlank d = false) (hrest : (c :: word).reverse = d :: rest) :
    c :: word <:+: trimList cs ↔ c :: word <:+: cs := by
  calc c :: word <:+: trimList cs
    _ ↔ (c :: word).reverse <:+: trimStart (trimStart cs).reverse := by
      rw [trimList, trimEnd, ← List.reverse_infix, List.reverse_reverse]
    _ ↔ (c :: word).reverse <:+: (trimStart cs).reverse := by rw [hrest, infix_trimStart_iff hd]
    _ ↔ c :: word <:+: trimStart cs := List.reverse_infix
    _ ↔ c :: word <:+: cs := infix_trimStart_iff hc

end Flotilla.Text
