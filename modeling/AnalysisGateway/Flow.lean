import AnalysisGateway.Answer
import AnalysisGateway.Dialogue
import AnalysisGateway.Snippet

/-!
# Analysis

From a snippet to its analysis, as a dialogue with the provider.

* Both formats check the snippet first, and ask nobody if it is refused.
* Markdown: the trimmed snippet is sent. A failure is the result. An answer without all headings is
  followed by one stricter request; its answer counts if it has all headings, and the first answer
  counts in every other case. An empty answer is a failure.
* JSON: the snippet is sent as submitted, once. A failure of the provider, or an empty answer, is an
  internal failure; an answer that holds no report gives the fallback report.
-/

namespace AnalysisGateway

/-- The answer that counts after a first one without all headings. -/
def retryMarkdown (code first : String) (next : String → Dialogue α) : Dialogue α :=
  .ask ⟨.markdownRetry, code⟩ fun
    | .ok second =>
      match checkMarkdown second with
      | .ok text => next text
      | .error flaw => .report (.retryIncomplete flaw.reason) (next first)
    | .error failure => .report (.retryFailed failure) (next first)

/-- The result of the answer that counts. -/
def finishMarkdown (text : String) : Dialogue (Except Failure Document) :=
  .done (if text.isEmpty then .error .emptyResponse else .ok ⟨text⟩)

/-- Analyses a snippet as Markdown. -/
def analyzeMarkdown (settings : AnalysisSettings) (code : String) :
    Dialogue (Except Failure Document) :=
  match settings.checkSnippet code with
  | .error failure => .done (.error failure)
  | .ok trimmed =>
    .ask ⟨.markdown, trimmed⟩ fun
      | .error failure => .report (.firstCallFailed failure) (.done (.error failure))
      | .ok first =>
        match checkMarkdown first with
        | .ok text => finishMarkdown text
        | .error flaw =>
          .report (.retrying flaw.reason) (retryMarkdown trimmed first finishMarkdown)

/-- The result of a JSON answer. -/
def finishJson (text : String) : Dialogue (Except Failure Report) :=
  if text.isEmpty then .done (.error (Failure.collapsed .emptyResponse))
  else match Report.ofAnswer text with
    | .ok report => .done (.ok report)
    | .error flaw => .report (.fallbackUsed flaw.reason) (.done (.ok .fallback))

/-- Analyses a snippet as a JSON report. -/
def analyzeJson (settings : AnalysisSettings) (code : String) :
    Dialogue (Except Failure Report) :=
  match settings.checkSnippet code with
  | .error failure => .done (.error failure)
  | .ok _ =>
    .ask ⟨.json, fencedSnippet code⟩ fun
      | .error failure => .report (.callFailed failure) (.done (.error failure.collapsed))
      | .ok text => finishJson text

/-- A dialogue with its result changed. -/
def Dialogue.map (f : α → β) : Dialogue α → Dialogue β
  | .done a => .done (f a)
  | .report event next => .report event (next.map f)
  | .ask call next => .ask call fun outcome => (next outcome).map f

/-- Analyses a snippet in the format of the settings. -/
def analyze (settings : AnalysisSettings) (code : String) :
    Dialogue (Except Failure Analysis) :=
  match settings.format with
  | .markdown => (analyzeMarkdown settings code).map fun r => r.map .document
  | .json => (analyzeJson settings code).map fun r => r.map .report

end AnalysisGateway
