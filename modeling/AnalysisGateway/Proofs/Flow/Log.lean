import AnalysisGateway.Proofs.Flow.Ending

/-!
# What an analysis reports

The answers to its calls decide what is logged of an analysis: the events of the answers themselves,
in their order, and behind those of each answer what the analysis says of it (`Format.log`). It says
nothing of an answer that settles it.
-/

namespace AnalysisGateway

variable {σ : Type}

/-- What is reported of a text without all headings: those that are missing. -/
def lack (text : String) : String := Incomplete.reason ⟨missingHeadings text⟩

/-- What a Markdown analysis says of its second completion. -/
def Markdown.retryRemarks : Completion → List Event
  | .crashed _ => []
  | .failed failure => [.retryFailed failure]
  | .text text => if HasHeadings text then [] else [.retryIncomplete (lack text)]

/-- The log of a Markdown analysis, from the answers to its calls. The second one counts only after
a first text without all headings. -/
def Markdown.log (first second : Answered σ) : List Event :=
  first.events ++ match first.completion with
    | .crashed _ => []
    | .failed failure => [.firstCallFailed failure]
    | .text text =>
      if HasHeadings text then []
      else .retrying (lack text) :: (second.events ++ retryRemarks second.completion)

/-- What a JSON analysis says of its only completion. -/
def reportRemarks : Completion → List Event
  | .crashed _ => []
  | .failed failure => [.callFailed failure]
  | .text text =>
    if text = "" then []
    else match Report.ofAnswer text with
      | .ok _ => []
      | .error flaw => [.fallbackUsed flaw.reason]

/-- The log of an analysis, from the answers to its calls. -/
def Format.log (first second : Answered σ) : Format → List Event
  | .markdown => Markdown.log first second
  | .json => first.events ++ reportRemarks first.completion

/-! ## Where events come from -/

/-- What an analysis says of an answer is reported by the analysis. -/
theorem target_of_mem_retryRemarks {event : Event} {second : Completion}
    (h : event ∈ Markdown.retryRemarks second) :
    event.target = "codecomplexity::analysis::service" := by
  cases second with
  | crashed detail => nomatch h
  | failed failure => rw [List.mem_singleton.mp h]; rfl
  | text text =>
      rw [Markdown.retryRemarks] at h
      split at h
      · nomatch h
      · rw [List.mem_singleton.mp h]; rfl

theorem target_of_mem_reportRemarks {event : Event} {first : Completion}
    (h : event ∈ reportRemarks first) : event.target = "codecomplexity::analysis::service" := by
  cases first with
  | crashed detail => nomatch h
  | failed failure => rw [List.mem_singleton.mp h]; rfl
  | text text =>
      rw [reportRemarks] at h
      split at h
      · nomatch h
      split at h
      · nomatch h
      · rw [List.mem_singleton.mp h]; rfl

/-- An event of a log comes from one of the answers, or from the analysis. -/
theorem Format.mem_log {first second : Answered σ} {event : Event} {f : Format}
    (h : event ∈ f.log first second) : event ∈ first.events ∨ event ∈ second.events ∨
      event.target = "codecomplexity::analysis::service" := by
  cases f with
  | json =>
      obtain hfirst | hremark := List.mem_append.mp h
      · exact .inl hfirst
      · exact .inr (.inr (target_of_mem_reportRemarks hremark))
  | markdown =>
      obtain hfirst | hmore := List.mem_append.mp h
      · exact .inl hfirst
      right
      split at hmore
      · nomatch hmore
      · rw [List.mem_singleton.mp hmore]
        exact .inr rfl
      split at hmore
      · nomatch hmore
      obtain rfl | hmore := List.mem_cons.mp hmore
      · exact .inr rfl
      · exact (List.mem_append.mp hmore).imp id target_of_mem_retryRemarks

end AnalysisGateway
