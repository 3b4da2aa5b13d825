import Mathlib.Data.List.Infix
import AnalysisGateway.Answer

/-!
# Required headings

A Markdown answer is complete if each required heading occurs in it, as a contiguous run of
characters at any place. `checkMarkdown` accepts exactly the complete answers, and gives them back
as they are; it refuses each other one for the headings that do not occur in it. More text around an
answer does no harm: what occurred in it still occurs.
-/

namespace AnalysisGateway

/-! ## Occurrences -/

/-- A text occurs in another one exactly if it is a contiguous part of it. -/
theorem occursIn_iff (part text : List Char) : occursIn part text = true ↔ part <:+: text := by
  induction text with
  | nil => simp [occursIn]
  | cons c rest ih =>
      rw [occursIn, Bool.or_eq_true, List.isPrefixOf_iff_prefix, ih, List.infix_cons_iff]

/-- Each required heading occurs in the text. -/
def HasHeadings (text : String) : Prop :=
  ∀ heading ∈ requiredHeadings, heading.toList <:+: text.toList

theorem hasRequiredHeadings_iff (text : String) :
    hasRequiredHeadings text = true ↔ HasHeadings text := by
  simp only [hasRequiredHeadings, List.all_eq_true, occursIn_iff, HasHeadings]

instance (text : String) : Decidable (HasHeadings text) :=
  decidable_of_iff _ (hasRequiredHeadings_iff text)

/-- No heading is missing exactly if all occur. -/
theorem missingHeadings_eq_nil_iff (text : String) :
    missingHeadings text = [] ↔ HasHeadings text := by
  simp only [missingHeadings, List.filter_eq_nil_iff, Bool.not_eq_true', Bool.not_eq_false,
    occursIn_iff, HasHeadings]

/-- A complete answer is not empty, since no heading is. -/
theorem HasHeadings.ne_empty {text : String} (h : HasHeadings text) : text ≠ "" := by
  intro hempty
  have hfirst := h "# Code Complexity Analysis" List.mem_cons_self
  rw [hempty] at hfirst
  exact absurd (List.infix_nil.mp hfirst) (by decide)

/-! ## The check -/

/-- A complete answer is accepted as it is. -/
theorem checkMarkdown_of_hasHeadings {text : String} (h : HasHeadings text) :
    checkMarkdown text = .ok text := by
  rw [checkMarkdown, (missingHeadings_eq_nil_iff text).mpr h]

/-- Any other answer is refused for the headings that are missing. -/
theorem checkMarkdown_eq_error {text : String} (h : ¬ HasHeadings text) :
    checkMarkdown text = .error ⟨missingHeadings text⟩ := by
  rw [checkMarkdown]
  split
  · next hnone => exact absurd ((missingHeadings_eq_nil_iff text).mp hnone) h
  · rfl

/-! ## The verdict -/

/-- The headings that do not occur in a text, in their order. -/
def headingsNotIn (text : String) : List String :=
  requiredHeadings.filter fun heading => ¬ heading.toList <:+: text.toList

theorem missingHeadings_eq (text : String) : missingHeadings text = headingsNotIn text := by
  refine List.filter_congr fun heading _ => ?_
  rw [Bool.eq_iff_iff]
  simp only [Bool.not_eq_true', ← Bool.not_eq_true, occursIn_iff, decide_eq_true_eq]

/-- What occurs in a text occurs in it with more around it. -/
theorem isInfix_append {part text : String} (h : part.toList <:+: text.toList)
    (before after : String) : part.toList <:+: (before ++ text ++ after).toList := by
  rw [String.toList_append, String.toList_append]
  exact h.trans (List.infix_append _ _ _)

/-- So a complete answer stays complete. -/
theorem HasHeadings.append {text : String} (h : HasHeadings text) (before after : String) :
    HasHeadings (before ++ text ++ after) :=
  fun heading hheading => isInfix_append (h heading hheading) before after

/-- And no answer lacks more than before. -/
theorem headingsNotIn_append_sublist (text before after : String) :
    (headingsNotIn (before ++ text ++ after)).Sublist (headingsNotIn text) := by
  refine List.monotone_filter_right _ fun heading hmissing => ?_
  rw [decide_eq_true_eq] at hmissing ⊢
  exact fun hoccurs => hmissing (isInfix_append hoccurs before after)

/-- **Which answers are complete, and what the others lack.** An answer is accepted, as it is,
exactly if all headings are found in it, that is, if each of them occurs in it. Any other answer is
refused for precisely the headings that do not occur, in their order. With more text around it, an
accepted answer is accepted, and a refused one lacks no heading that it did not lack before. -/
theorem checkMarkdown_eq_ok_iff (text : String) :
    (∀ t, checkMarkdown text = .ok t ↔ t = text ∧ hasRequiredHeadings text = true) ∧
    (hasRequiredHeadings text = true ↔
      ∀ heading ∈ requiredHeadings, heading.toList <:+: text.toList) ∧
    (hasRequiredHeadings text = false → ∃ flaw, checkMarkdown text = .error flaw ∧
      flaw.headings = headingsNotIn text ∧
      flaw.reason = "missing headings: " ++ ", ".intercalate (headingsNotIn text)) ∧
    ∀ before after,
      (checkMarkdown text = .ok text →
        checkMarkdown (before ++ text ++ after) = .ok (before ++ text ++ after)) ∧
      (headingsNotIn (before ++ text ++ after)).Sublist (headingsNotIn text) := by
  have hok (t : String) : checkMarkdown text = .ok t ↔ t = text ∧ HasHeadings text := by
    by_cases h : HasHeadings text
    · rw [checkMarkdown_of_hasHeadings h, Except.ok.injEq, eq_comm, and_iff_left h]
    · rw [checkMarkdown_eq_error h]
      exact iff_of_false nofun fun hnot => h hnot.2
  refine ⟨fun t => ?_, hasRequiredHeadings_iff text, fun hnot => ?_, fun before after => ⟨?_, ?_⟩⟩
  · exact (hok t).trans (and_congr_right' (hasRequiredHeadings_iff text).symm)
  · have hlacks : ¬ HasHeadings text := fun h =>
      Bool.false_ne_true (hnot.symm.trans ((hasRequiredHeadings_iff text).mpr h))
    refine ⟨⟨headingsNotIn text⟩, ?_, rfl, rfl⟩
    rw [checkMarkdown_eq_error hlacks, missingHeadings_eq]
  · intro hvalid
    exact checkMarkdown_of_hasHeadings (((hok text).mp hvalid).2.append before after)
  · exact headingsNotIn_append_sublist text before after

end AnalysisGateway
