import AnalysisGateway.Text.Blank
import AnalysisGateway.Text.Lowercase

/-!
# Response formats

A deployment answers either with a Markdown document of five fixed sections or with a JSON report
of four fields, and never with both. The format decides the route of the analysis endpoint and the
defaults of the settings.
-/

namespace AnalysisGateway

/-- The contract of a deployment's answers. -/
inductive Format where
  /-- Five fixed sections; one stricter retry; the first answer otherwise. -/
  | markdown
  /-- An object of four fields; a constant report otherwise. -/
  | json
  deriving DecidableEq, Repr

namespace Format

/-- The name of a format. -/
def name : Format → String
  | .markdown => "markdown"
  | .json => "json"

/-- The route of the analysis endpoint. -/
def endpoint : Format → String
  | .markdown => "/analyze-code"
  | .json => "/analyze"

/-- The model asked for unless one is configured. -/
def defaultModel : Format → String
  | .markdown => "llama-3.3-70b-versatile"
  | .json => "mixtral-8x7b-32768"

/-- The temperature unless one is configured, as the pattern of a single: 0 or 0.2. -/
def defaultTemperature : Format → Nat
  | .markdown => 0
  | .json => 0x3E4CCCCD

/-- The bound on the answer's tokens unless one is configured. -/
def defaultMaxTokens : Format → Option Nat
  | .markdown => none
  | .json => some 1000

/-- The seconds to wait for an answer unless they are configured. -/
def defaultTimeout : Format → Nat
  | .markdown => 25
  | .json => 30

/-- The least length of a snippet unless it is configured. -/
def defaultMinLength : Format → Nat
  | .markdown => 50
  | .json => 1

/-- Formats by the words that name them. -/
def byWord : List (List Char × Format) :=
  [("markdown".toList, .markdown), ("md".toList, .markdown), ("json".toList, .json)]

/-- A text that names no format, trimmed and in lower case. -/
structure Unknown where
  word : String
  deriving DecidableEq, Repr

/-- The wording of the fault. -/
def Unknown.message (u : Unknown) : String :=
  "unknown analysis format '" ++ u.word ++ "', expected 'markdown' or 'json'"

/-- The format that a text names, up to surrounding blanks and letter case. -/
def read (s : String) : Except Unknown Format :=
  let word := Text.lowercase (Text.trim s.toList)
  match byWord.find? (·.1 == word) with
  | some (_, f) => .ok f
  | none => .error ⟨String.ofList word⟩

end Format

end AnalysisGateway
