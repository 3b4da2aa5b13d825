import AnalysisGateway.Instruction
import AnalysisGateway.Json.Value
import AnalysisGateway.Report

/-!
# Checking answers

Whether a provider's answer has the form that the format promises; whether it is right is not
judged.

* A Markdown answer must contain the required headings, anywhere and in any order.
* A JSON answer must hold an object between its first opening and its last closing brace, so prose
  around the object does no harm. The object must have the four fields, the last binding of each
  must be of the right kind, and other members do not matter. The flaws come in that order: no
  object, not JSON, fields that are missing, a field of the wrong kind.
-/

namespace AnalysisGateway

/-! ## Markdown -/

/-- Whether a text occurs in another one. -/
def occursIn (part : List Char) : List Char → Bool
  | [] => part.isEmpty
  | c :: rest => part.isPrefixOf (c :: rest) || occursIn part rest

/-- The required headings that do not occur in a text. -/
def missingHeadings (text : String) : List String :=
  requiredHeadings.filter fun heading => !occursIn heading.toList text.toList

/-- Whether all required headings occur in a text. -/
def hasRequiredHeadings (text : String) : Bool :=
  requiredHeadings.all fun heading => occursIn heading.toList text.toList

/-- The headings that an answer lacks. -/
structure Incomplete where
  headings : List String
  deriving DecidableEq, Repr

/-- The wording of the flaw. -/
def Incomplete.reason (i : Incomplete) : String :=
  "missing headings: " ++ ", ".intercalate i.headings

/-- The text itself, if it has all required headings. -/
def checkMarkdown (text : String) : Except Incomplete String :=
  match missingHeadings text with
  | [] => .ok text
  | missing => .error ⟨missing⟩

/-! ## JSON -/

/-- The part of a text from its first opening to its last closing brace. -/
def braceSpan? (text : List Char) : Option (List Char) :=
  let fromFirst := text.dropWhile (· != '\x7b')
  let span := (fromFirst.reverse.dropWhile (· != '\x7d')).reverse
  if span.isEmpty then none else some span

/-- Why an answer is no report. -/
inductive ReportFlaw where
  | noObject
  /-- The span between the braces is not one JSON object. -/
  | notJson (span : Bytes) (fault : Json.Fault)
  | missingFields (names : List String)
  | wrongKind (found : Json.Found) (expected : String)
  deriving DecidableEq, Repr

/-- The wording of a flaw. -/
def ReportFlaw.reason : ReportFlaw → String
  | .noObject => "no JSON object found in response"
  | .notJson span fault => "JSON decode error: " ++ fault.message span
  | .missingFields names => "missing fields: " ++ ", ".intercalate names
  | .wrongKind found expected =>
    "fields have unexpected types: " ++ (Json.Cause.wrongKind found expected).message

namespace Report

/-- Reads one object. -/
def readObject : Json.Reader (List (String × Json.Value)) := fun s =>
  match Json.readValue Json.greatestDepth s with
  | .error f => .error f
  | .ok (.object members, rest) => .ok (members, rest)
  | .ok (v, rest) => .error (.here (.wrongKind v.found "a map") rest)

/-- A value that must be a text. -/
def asText (v : Json.Value) : Except ReportFlaw String :=
  match v with
  | .text s => .ok s
  | v => .error (.wrongKind v.found "a string")

/-- A value that must be a list of texts. -/
def asTexts (v : Json.Value) : Except ReportFlaw (List String) :=
  match v with
  | .list items => items.mapM asText
  | v => .error (.wrongKind v.found "a sequence")

/-- The report that an object's members give. Fields are looked at in the order of their names. -/
def ofMembers (members : List (String × Json.Value)) : Except ReportFlaw Report :=
  match Json.lookup? members "time_complexity", Json.lookup? members "space_complexity",
      Json.lookup? members "improvements", Json.lookup? members "explanation" with
  | some time, some space, some improvements, some explanation => do
    let explanation ← asText explanation
    let improvements ← asTexts improvements
    let spaceComplexity ← asText space
    let timeComplexity ← asText time
    return { timeComplexity, spaceComplexity, improvements, explanation }
  | _, _, _, _ =>
    .error (.missingFields (requiredFields.filter fun name => (Json.lookup? members name).isNone))

/-- The report that an answer holds. -/
def ofAnswer (text : String) : Except ReportFlaw Report :=
  match braceSpan? text.toList with
  | none => .error .noObject
  | some span =>
    let bytes := Text.encode span
    match Json.readWhole readObject bytes with
    | .error fault => .error (.notJson bytes fault)
    | .ok members => ofMembers members

end Report

end AnalysisGateway
