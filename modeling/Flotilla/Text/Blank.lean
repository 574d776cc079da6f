/-!
# Blank characters

A character is *blank* when Unicode gives it the property White_Space.  There
are twenty-five of them.  Every setting, line and reply the fleet reads is
trimmed of blank characters at both ends, and of nothing else, so a zero width
space or a byte order mark stays.

The work is done on lists of characters.  `trim` is the same on strings.

* `trimList_ends`: a trimmed text neither starts nor ends with a blank.
* `trimList_idem`: trimming twice is trimming once.
-/

namespace Flotilla.Text

/-! ## The property -/

/-- Whether a character has the property White_Space. -/
def isBlank (c : Char) : Bool :=
  let n := c.toNat
  (0x9 ≤ n && n ≤ 0xD) || n == 0x20 || n == 0x85 || n == 0xA0 || n == 0x1680 ||
    (0x2000 ≤ n && n ≤ 0x200A) || n == 0x2028 || n == 0x2029 || n == 0x202F || n == 0x205F ||
    n == 0x3000

/-! ## Trimming -/

/-- The text without the blanks it starts with. -/
def trimStart (cs : List Char) : List Char := cs.dropWhile isBlank

/-- The text without the blanks it ends with. -/
def trimEnd (cs : List Char) : List Char := (trimStart cs.reverse).reverse

/-- The text without blanks at either end. -/
def trimList (cs : List Char) : List Char := trimEnd (trimStart cs)

/-- `trimList` on strings. -/
def trim (s : String) : String := String.ofList (trimList s.toList)

/-- A string with no character but blanks. -/
def allBlank (s : String) : Bool := s.toList.all isBlank

/-! ## What trimming leaves -/

theorem trimStart_head {cs : List Char} {c : Char} {rest : List Char}
    (h : trimStart cs = c :: rest) : isBlank c = false := by
  induction cs with
  | nil => simp [trimStart] at h
  | cons d ds ih =>
    by_cases hd : isBlank d
    · exact ih (by simpa [trimStart, List.dropWhile, hd] using h)
    · simp only [trimStart, List.dropWhile, hd] at h
      cases h
      simpa using hd

/-- A text that trims to nothing holds only blanks. -/
theorem trimStart_eq_nil {cs : List Char} (h : trimStart cs = []) : ∀ c ∈ cs, isBlank c = true := by
  induction cs with
  | nil => simp
  | cons d ds ih =>
    by_cases hd : isBlank d
    · intro c hc
      rcases List.mem_cons.mp hc with rfl | hc
      · exact hd
      · exact ih (by simpa [trimStart, List.dropWhile, hd] using h) c hc
    · simp [trimStart, List.dropWhile, hd] at h

theorem trimStart_of_head {c : Char} {rest : List Char} (h : isBlank c = false) :
    trimStart (c :: rest) = c :: rest := by
  simp [trimStart, List.dropWhile, h]

theorem trimStart_idem (cs : List Char) : trimStart (trimStart cs) = trimStart cs := by
  cases h : trimStart cs with
  | nil => rfl
  | cons c rest => exact trimStart_of_head (trimStart_head h)

theorem trimEnd_idem (cs : List Char) : trimEnd (trimEnd cs) = trimEnd cs := by
  simp [trimEnd, trimStart_idem]

/-- What is dropped in front is a part of the text and blank, so the rest is a part too. -/
theorem trimStart_suffix (cs : List Char) :
    ∃ front, (∀ c ∈ front, isBlank c = true) ∧ cs = front ++ trimStart cs :=
  ⟨cs.takeWhile isBlank, List.all_eq_true.mp List.all_takeWhile,
    List.takeWhile_append_dropWhile.symm⟩

theorem trimEnd_append_blank (cs : List Char) :
    ∃ back, (∀ c ∈ back, isBlank c = true) ∧ cs = trimEnd cs ++ back := by
  obtain ⟨front, hblank, h⟩ := trimStart_suffix cs.reverse
  refine ⟨front.reverse, fun c hc => hblank c (List.mem_reverse.mp hc), ?_⟩
  have := congrArg List.reverse h
  simpa [trimEnd] using this

/-- Trimming the end keeps the first character, if that one is not blank. -/
theorem trimStart_trimEnd_of_head {c : Char} (rest : List Char) (h : isBlank c = false) :
    ∃ rest', trimEnd (c :: rest) = c :: rest' := by
  obtain ⟨back, -, hb⟩ := trimEnd_append_blank (c :: rest)
  cases ht : trimEnd (c :: rest) with
  | nil =>
    have hempty : trimStart (rest.reverse ++ [c]) = [] := by
      simpa [trimEnd] using ht
    have hall := trimStart_eq_nil hempty c (by simp)
    simp [h] at hall
  | cons d ds =>
    rw [ht] at hb
    cases hb
    exact ⟨ds, rfl⟩

/-- Trimming twice is trimming once. -/
theorem trimList_idem (cs : List Char) : trimList (trimList cs) = trimList cs := by
  unfold trimList
  cases h : trimStart cs with
  | nil => rfl
  | cons c rest =>
    have hc := trimStart_head h
    obtain ⟨rest', he⟩ := trimStart_trimEnd_of_head rest hc
    rw [he, trimStart_of_head hc, ← he, trimEnd_idem]

/-- A trimmed text neither starts nor ends with a blank. -/
theorem trimList_ends (cs : List Char) :
    (∀ c rest, trimList cs = c :: rest → isBlank c = false) ∧
      (∀ c rest, (trimList cs).reverse = c :: rest → isBlank c = false) := by
  constructor
  · intro c rest h
    cases hs : trimStart cs with
    | nil =>
      rw [trimList, hs] at h
      simp [trimEnd, trimStart] at h
    | cons d ds =>
      have hd := trimStart_head hs
      obtain ⟨ds', he⟩ := trimStart_trimEnd_of_head ds hd
      rw [trimList, hs, he] at h
      cases h
      exact hd
  · intro c rest h
    have : trimStart (trimStart cs).reverse = c :: rest := by
      simpa [trimList, trimEnd] using h
    exact trimStart_head this

/-! ## Tests -/

example : trimList "\u00a0 ok\u3000\n".toList = "ok".toList := by decide
example : trimList "\ufeffok".toList = "\ufeffok".toList := by decide
example : trimList "\u0085\u2028".toList = [] := by decide

end Flotilla.Text
