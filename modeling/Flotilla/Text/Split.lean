/-!
# Splitting at a character

`splitOn` cuts a text at every occurrence of a character and keeps the empty
pieces.  `cutAt` cuts it at the first occurrence only.  A text with `n`
separators has `n + 1` pieces, so the empty text has one.

* `splitOn_append`: splitting at a separator commutes with joining there.
* `splitOn_not_mem`: no piece holds the separator.
-/

namespace Flotilla.Text

/-- The pieces of a text between occurrences of `sep`. -/
def splitOn (sep : Char) : List Char → List (List Char)
  | [] => [[]]
  | c :: cs =>
    if c = sep then [] :: splitOn sep cs
    else
      match splitOn sep cs with
      | [] => [[c]]
      | piece :: pieces => (c :: piece) :: pieces

/-- The text before and after the first occurrence of `sep`. -/
def cutAt (sep : Char) : List Char → Option (List Char × List Char)
  | [] => none
  | c :: cs => if c = sep then some ([], cs) else (cutAt sep cs).map fun (a, b) => (c :: a, b)

/-- The part of a text before the first occurrence of a word, or all of it. -/
def before (word : List Char) : List Char → List Char
  | [] => []
  | c :: cs => if word.isPrefixOf (c :: cs) then [] else c :: before word cs

/-- Whether a word occurs in a text. -/
def hasWord (word : List Char) : List Char → Bool
  | [] => word.isEmpty
  | c :: cs => word.isPrefixOf (c :: cs) || hasWord word cs

theorem splitOn_ne_nil (sep : Char) (cs : List Char) : splitOn sep cs ≠ [] := by
  induction cs with
  | nil => simp [splitOn]
  | cons c cs ih =>
    by_cases h : c = sep
    · simp [splitOn, h]
    · simp only [splitOn, h, if_false]
      split <;> simp

/-- Splitting at a separator commutes with joining there. -/
theorem splitOn_append (sep : Char) (a b : List Char) :
    splitOn sep (a ++ sep :: b) = splitOn sep a ++ splitOn sep b := by
  induction a with
  | nil => simp [splitOn]
  | cons c cs ih =>
    by_cases h : c = sep
    · simp [splitOn, h, ih]
    · simp only [List.cons_append, splitOn, h, if_false, ih]
      cases hs : splitOn sep cs with
      | nil => exact absurd hs (splitOn_ne_nil sep cs)
      | cons p ps => simp

/-- No piece holds the separator. -/
theorem splitOn_not_mem (sep : Char) (cs : List Char) : ∀ piece ∈ splitOn sep cs, sep ∉ piece := by
  induction cs with
  | nil => simp [splitOn]
  | cons c cs ih =>
    by_cases h : c = sep
    · intro piece hp
      simp only [splitOn, h, if_true, List.mem_cons] at hp
      rcases hp with rfl | hp
      · simp
      · exact ih piece hp
    · intro piece hp
      simp only [splitOn, h, if_false] at hp
      cases hs : splitOn sep cs with
      | nil => exact absurd hs (splitOn_ne_nil sep cs)
      | cons p ps =>
        rw [hs] at hp ih
        rcases List.mem_cons.mp hp with rfl | hp
        · have := ih p (by simp)
          simp only [List.mem_cons, not_or]
          exact ⟨fun e => h e.symm, this⟩
        · exact ih piece (by simp [hp])

/-- A text without the separator is its own only piece. -/
theorem splitOn_of_not_mem {sep : Char} {cs : List Char} (h : sep ∉ cs) :
    splitOn sep cs = [cs] := by
  induction cs with
  | nil => rfl
  | cons c cs ih =>
    simp only [List.mem_cons, not_or] at h
    have hc : ¬ c = sep := fun e => h.1 e.symm
    simp [splitOn, hc, ih h.2]

example : splitOn ',' "a,,b".toList = ["a".toList, [], "b".toList] := by decide
example : cutAt '=' "a=b=c".toList = some ("a".toList, "b=c".toList) := by decide

end Flotilla.Text
