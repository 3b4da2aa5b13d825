import AnalysisGateway.Proofs.Answer.Headings
import AnalysisGateway.Proofs.Flow.Run

/-!
# How an analysis ends

What becomes of the calls decides how an analysis ends: of the first call alone, or of the first and
the second (`Format.ending`). A client that breaks off ends it at once.
-/

namespace AnalysisGateway

namespace Markdown

/-- The result of a first answer that counts after all. -/
def kept (answer : String) : Except Failure Document :=
  if answer = "" then .error .emptyResponse else .ok ⟨answer⟩

/-- The ending after a first answer without all headings, from what became of the second call. -/
def retryEnding (first : String) : Completion → Ending (Except Failure Document)
  | .crashed detail => .crashed detail
  | .failed _ => .finished (kept first)
  | .text other => .finished (if HasHeadings other then .ok ⟨other⟩ else kept first)

/-- The ending of a Markdown analysis, from what became of its calls. The second one counts only
after a first text without all headings. -/
def ending (first second : Completion) : Ending (Except Failure Document) :=
  match first with
  | .crashed detail => .crashed detail
  | .failed failure => .finished (.error failure)
  | .text text => if HasHeadings text then .finished (.ok ⟨text⟩) else retryEnding text second

/-- The answer that counts is kept. -/
theorem finishMarkdown_eq (answer : String) : finishMarkdown answer = .done (kept answer) := by
  unfold finishMarkdown kept
  simp

/-- A complete answer is kept as it is. -/
theorem kept_of_hasHeadings {answer : String} (h : HasHeadings answer) :
    kept answer = .ok ⟨answer⟩ := by
  unfold kept
  rw [if_neg h.ne_empty]

end Markdown

/-- The result that the outcome of the only call of a JSON analysis leads to. -/
def reportResult : Except Failure String → Except Failure Report
  | .error failure => .error failure.collapsed
  | .ok text =>
    if text = "" then
      .error (.internal "Error from upstream API: Empty response from upstream API")
    else
      match Report.ofAnswer text with
      | .ok report => .ok report
      | .error _ => .ok .fallback

/-- No text fails but the empty one. -/
theorem exists_reportResult_eq_ok {text : String} (h : text ≠ "") :
    ∃ report, reportResult (.ok text) = .ok report := by
  simp only [reportResult, if_neg h]
  split
  · next report _ => exact ⟨report, rfl⟩
  · exact ⟨.fallback, rfl⟩

/-- The ending of a JSON analysis, from what became of its only call. -/
def reportEnding : Completion → Ending (Except Failure Report)
  | .crashed detail => .crashed detail
  | .failed failure => .finished (reportResult (.error failure))
  | .text text => .finished (reportResult (.ok text))

/-- The ending of an analysis, from what became of its calls. -/
def Format.ending (first second : Completion) : Format → Ending (Except Failure Analysis)
  | .markdown => (Markdown.ending first second).map fun r => r.map .document
  | .json => (reportEnding first).map fun r => r.map .report

end AnalysisGateway
