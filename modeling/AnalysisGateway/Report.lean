import AnalysisGateway.Json.Record
import AnalysisGateway.Json.Writer

/-!
# Analyses

The two shapes of a result: a report of four fields, and a Markdown document. Each is read from
JSON and written to it under fixed member names; a text of one shape never reads as the other.
-/

namespace AnalysisGateway

/-- A structured analysis. -/
structure Report where
  timeComplexity : String
  spaceComplexity : String
  improvements : List String
  explanation : String
  deriving DecidableEq, Repr

/-- A Markdown analysis. -/
structure Document where
  analysis : String
  deriving DecidableEq, Repr

/-- A result in the shape that the deployment serves. -/
inductive Analysis where
  | report (r : Report)
  | document (d : Document)
  deriving DecidableEq, Repr

namespace Report

/-- The report that stands for an answer that cannot be read. -/
def fallback : Report where
  timeComplexity := "Unable to determine"
  spaceComplexity := "Unable to determine"
  improvements := ["Unable to analyze code"]
  explanation := "The system encountered an error while analyzing your code. " ++
    "Please try again with a clearer code snippet."

/-- The report as JSON. -/
def written (r : Report) : List Char :=
  Json.writtenObject [
    ("time_complexity", Json.writtenString r.timeComplexity),
    ("space_complexity", Json.writtenString r.spaceComplexity),
    ("improvements", Json.writtenList (r.improvements.map Json.writtenString)),
    ("explanation", Json.writtenString r.explanation)]

/-- A report of which some fields have been read. -/
structure Draft where
  timeComplexity : Option String := none
  spaceComplexity : Option String := none
  improvements : Option (List String) := none
  explanation : Option String := none

/-- How a report is read. -/
def shape : Json.Record Draft Report where
  name := "struct ComplexityReport"
  fields := [
    Json.field "time_complexity" Json.readText (·.timeComplexity)
      fun v d => { d with timeComplexity := some v },
    Json.field "space_complexity" Json.readText (·.spaceComplexity)
      fun v d => { d with spaceComplexity := some v },
    Json.field "improvements" (Json.readList Json.readText) (·.improvements)
      fun v d => { d with improvements := some v },
    Json.field "explanation" Json.readText (·.explanation)
      fun v d => { d with explanation := some v }]
  blank := {}
  finish d := do
    let timeComplexity ← Json.required "time_complexity" d.timeComplexity
    let spaceComplexity ← Json.required "space_complexity" d.spaceComplexity
    let improvements ← Json.required "improvements" d.improvements
    let explanation ← Json.required "explanation" d.explanation
    return { timeComplexity, spaceComplexity, improvements, explanation }

end Report

namespace Document

/-- The document as JSON. -/
def written (d : Document) : List Char :=
  Json.writtenObject [("analysis", Json.writtenString d.analysis)]

/-- How a document is read. -/
def shape : Json.Record (Option String) Document where
  name := "struct MarkdownAnalysis"
  fields := [Json.field "analysis" Json.readText id fun v _ => some v]
  blank := none
  finish d := (Json.required "analysis" d).map Document.mk

end Document

/-- A result as JSON, without a mark of its shape. -/
def Analysis.written : Analysis → List Char
  | .report r => r.written
  | .document d => d.written

/-- The body of an analysis request. -/
structure Submission where
  code : String
  deriving DecidableEq, Repr

namespace Submission

/-- How a request body is read. -/
def shape : Json.Record (Option String) Submission where
  name := "struct AnalysisRequest"
  fields := [Json.field "code" Json.readText id fun v _ => some v]
  blank := none
  finish d := (Json.required "code" d).map Submission.mk

end Submission

end AnalysisGateway
