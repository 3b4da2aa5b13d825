import Mathlib.Data.List.TakeWhile
import AnalysisGateway.Text.Split

/-!
# Where a text is cut

A text is cut at the first occurrence of a character, and whole if there is none.
-/

namespace AnalysisGateway.Text

/-- A character that does not occur is not any of the characters. -/
theorem bne_of_not_mem {c : Char} {s : List Char} (h : c ∉ s) : ∀ d ∈ s, (d != c) = true :=
  fun _ hd => bne_iff_ne.mpr fun heq => h (heq ▸ hd)

/-- A text is cut at the first occurrence. -/
theorem cut_append {separator : Char} {before : List Char} (h : separator ∉ before)
    (after : List Char) : cut separator (before ++ separator :: after) = (before, some after) := by
  rw [cut, List.dropWhile_append_of_pos (bne_of_not_mem h),
    List.takeWhile_append_of_pos (bne_of_not_mem h)]
  simp

/-- A text without the separator is not cut. -/
theorem cut_of_not_mem {separator : Char} {s : List Char} (h : separator ∉ s) :
    cut separator s = (s, none) := by
  rw [cut, List.dropWhile_eq_nil_iff.mpr (bne_of_not_mem h)]

/-- A separator has a first occurrence, or none. -/
theorem exists_append_or_not_mem (separator : Char) (s : List Char) :
    (∃ before after, separator ∉ before ∧ s = before ++ separator :: after) ∨ separator ∉ s := by
  by_cases h : separator ∈ s
  · obtain ⟨before, after, rfl, hbefore⟩ := List.eq_append_cons_of_mem h
    exact .inl ⟨before, after, hbefore, rfl⟩
  · exact .inr h

end AnalysisGateway.Text
