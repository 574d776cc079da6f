import Flotilla.Text.Blank
import Flotilla.Text.Split

/-!
# The lines of a tool's output

A command line tool answers with one name per line.  `nonEmptyLines` gives the
lines of a text, each trimmed, without those that are blank.  Only a line feed
ends a line.  A carriage return before it is trimmed away with the other
blanks, and one inside a line stays.

* `nonEmptyLines_append`: the lines of two texts joined by a line feed are the
  lines of the first and then those of the second.
* `mem_nonEmptyLines`: a line is not empty, is trimmed, and holds no line feed.
-/

namespace Flotilla.Text

/-- The trimmed lines of a text that are not blank. -/
def nonEmptyLineList (text : List Char) : List (List Char) :=
  ((splitOn '\n' text).map trimList).filter fun line => !line.isEmpty

/-- `nonEmptyLineList` on strings. -/
def nonEmptyLines (text : String) : List String :=
  (nonEmptyLineList text.toList).map String.ofList

/-- The lines of two texts joined by a line feed. -/
theorem nonEmptyLineList_append (a b : List Char) :
    nonEmptyLineList (a ++ '\n' :: b) = nonEmptyLineList a ++ nonEmptyLineList b := by
  simp [nonEmptyLineList, splitOn_append]

theorem nonEmptyLines_append (a b : String) :
    nonEmptyLines (a ++ "\n" ++ b) = nonEmptyLines a ++ nonEmptyLines b := by
  simp only [nonEmptyLines, String.toList_append]
  have : a.toList ++ "\n".toList ++ b.toList = a.toList ++ '\n' :: b.toList := by simp
  rw [this, nonEmptyLineList_append, List.map_append]

/-- Trimming a text takes characters away and adds none. -/
theorem mem_of_mem_trimList {c : Char} {cs : List Char} (h : c ∈ trimList cs) : c ∈ cs := by
  have h1 : c ∈ trimStart cs := by
    obtain ⟨back, -, hb⟩ := trimEnd_append_blank (trimStart cs)
    rw [hb]
    exact List.mem_append_left _ h
  obtain ⟨front, -, hf⟩ := trimStart_suffix cs
  rw [hf]
  exact List.mem_append_right _ h1

/-- A line is not empty, is trimmed, and holds no line feed. -/
theorem mem_nonEmptyLineList {line text : List Char} (h : line ∈ nonEmptyLineList text) :
    line ≠ [] ∧ trimList line = line ∧ '\n' ∉ line := by
  simp only [nonEmptyLineList, List.mem_filter, List.mem_map] at h
  obtain ⟨⟨piece, hp, rfl⟩, hne⟩ := h
  refine ⟨by simpa using hne, trimList_idem piece, fun hm => ?_⟩
  exact splitOn_not_mem '\n' text piece hp (mem_of_mem_trimList hm)

example : nonEmptyLineList "\ra\r\n\r\r\nb c\r".toList = ["a".toList, "b c".toList] := by decide
example : nonEmptyLineList " \n\u0085\n".toList = [] := by decide

end Flotilla.Text
