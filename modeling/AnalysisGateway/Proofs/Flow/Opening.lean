import AnalysisGateway.Flow
import AnalysisGateway.Proofs.Answer.Headings

/-!
# How an analysis begins

An analysis of a snippet that passes the check begins with one call, which depends on the format and
the snippet only. A first answer that has the form of the format settles the analysis.
-/

namespace AnalysisGateway

namespace Format

/-- The first call of an analysis. -/
def firstCall (code : String) : Format → Call
  | .markdown => ⟨.markdown, Text.trimmed code⟩
  | .json => ⟨.json, fencedSnippet code⟩

/-- A first answer that settles an analysis: a text with all headings, as it is, or a text with a
report. -/
inductive Settles (text : String) : Format → Analysis → Prop where
  | document (h : HasHeadings text) : Settles text .markdown (.document ⟨text⟩)
  | report {r : Report} (h : Report.ofAnswer text = .ok r) : Settles text .json (.report r)

end Format

/-- There is no report in the empty text. -/
theorem Report.ne_empty_of_ofAnswer {text : String} {r : Report} (h : ofAnswer text = .ok r) :
    text ≠ "" := by
  rintro rfl
  have hnone : ofAnswer "" = .error .noObject := rfl
  rw [hnone] at h
  contradiction

end AnalysisGateway
