import AnalysisGateway.Json.Writer

/-!
# Documentation

The description of the service for other programs, as an OpenAPI document, and the page that shows
it. The document lists both analysis endpoints, of which a deployment serves one.
-/

namespace AnalysisGateway.Http

/-- The version of the service. -/
def serviceVersion : String := "0.2.0"

namespace Documentation

open Json (writtenObject writtenString writtenList)

/-- A described thing. -/
def description (text : String) : String × List Char := ("description", writtenString text)

/-! ## Operations -/

/-- A schema that the components hold. -/
def reference (schema : String) : List Char :=
  writtenObject [("$ref", writtenString ("#/components/schemas/" ++ schema))]

/-- A JSON content of a schema. -/
def content (schema : String) : String × List Char :=
  ("content", writtenObject [("application/json", writtenObject [("schema", reference schema)])])

/-- A response: its status, what it means, and the schema of its body. -/
structure Answer where
  status : Nat
  meaning : String
  schema : String

/-- A response as a member. -/
def Answer.member (a : Answer) : String × List Char :=
  (toString a.status, writtenObject [description a.meaning, content a.schema])

/-- A response that reports a failure. -/
def failure (status : Nat) (meaning : String) : Answer := ⟨status, meaning, "ErrorBody"⟩

/-- An operation. -/
structure Operation where
  path : String
  method : String
  tag : String
  summary : String
  text : String
  id : String
  request : Option String
  answers : List Answer

/-- An operation as a member. -/
def Operation.member (o : Operation) : String × List Char :=
  (o.path, writtenObject [(o.method, writtenObject
    ([("tags", writtenList [writtenString o.tag]), ("summary", writtenString o.summary),
      description o.text, ("operationId", writtenString o.id)]
      ++ (match o.request with
        | some schema =>
          [("requestBody", writtenObject [content schema, ("required", "true".toList)])]
        | none => [])
      ++ [("responses", writtenObject (o.answers.map Answer.member))]))])

/-- The operations. -/
def operations : List Operation := [
  { path := "/analyze", method := "post", tag := "analysis", summary := "`POST /analyze`"
    text := "Structured analysis. Unparseable model output yields a constant fallback\n" ++
      "report; upstream failures are reported as 500."
    id := "analyze", request := some "AnalysisRequest"
    answers := [
      ⟨200, "Complexity report (or the fallback report)", "ComplexityReport"⟩,
      failure 400 "Code missing",
      failure 413 "Code too large",
      failure 500 "Missing credential or upstream failure"] },
  { path := "/analyze-code", method := "post", tag := "analysis"
    summary := "`POST /analyze-code`"
    text := "Markdown analysis with five fixed sections. Missing sections trigger one\n" ++
      "stricter retry; if that also fails the first answer is returned as-is."
    id := "analyze_code", request := some "AnalysisRequest"
    answers := [
      ⟨200, "Markdown analysis", "MarkdownAnalysis"⟩,
      failure 400 "Code missing or too short",
      failure 413 "Code too large",
      failure 500 "Provider credential not configured",
      failure 502 "Upstream error or empty response",
      failure 504 "Upstream timeout"] },
  { path := "/health", method := "get", tag := "health", summary := "`GET /health`"
    text := "Reports configuration only; the upstream provider is never contacted."
    id := "health_check", request := none
    answers := [⟨200, "Service health status", "HealthData"⟩] }]

/-! ## Schemas -/

/-- The schema of a text, with or without a description. -/
def textSchema (about : Option String) : List Char :=
  writtenObject ([("type", writtenString "string")] ++ (about.map description).toList)

/-- The schema of an object. -/
structure Schema where
  name : String
  about : Option String
  required : List String
  properties : List (String × List Char)

/-- A schema as a member. -/
def Schema.member (s : Schema) : String × List Char :=
  (s.name, writtenObject
    ([("type", writtenString "object")] ++ (s.about.map description).toList
      ++ [("required", writtenList (s.required.map writtenString)),
        ("properties", writtenObject s.properties)]))

/-- The schemas, in the order of their names. -/
def schemas : List Schema := [
  { name := "AnalysisRequest", about := some "Body of the analysis endpoint."
    required := ["code"]
    properties := [
      ("code", textSchema (some "Source code to analyze. Must not be blank."))] },
  { name := "ComplexityReport"
    about := some "Structured analysis returned by the JSON deployment."
    required := ["time_complexity", "space_complexity", "improvements", "explanation"]
    properties := [
      ("explanation", textSchema none),
      ("improvements",
        writtenObject [("type", writtenString "array"), ("items", textSchema none)]),
      ("space_complexity", textSchema none),
      ("time_complexity", textSchema none)] },
  { name := "ErrorBody", about := some "Body of every non-2xx response."
    required := ["error", "code"]
    properties := [
      ("code", writtenObject [
        ("type", writtenString "integer"), ("format", writtenString "int32"),
        description "HTTP status code, repeated for clients that only see the body.",
        ("minimum", Json.writtenNatural 0)]),
      ("error", textSchema (some "Human-readable description of the failure."))] },
  { name := "HealthData", about := none
    required := ["status", "version", "format", "llm"]
    properties := [
      ("format", textSchema
        (some "Response format served by the analysis endpoint (`markdown` or `json`).")),
      ("llm", reference "LlmStatus"),
      ("status", textSchema none),
      ("version", textSchema none)] },
  { name := "LlmStatus", about := none
    required := ["status"]
    properties := [
      ("model", writtenObject [
        ("type", writtenList [writtenString "string", writtenString "null"])]),
      ("status", textSchema none)] },
  { name := "MarkdownAnalysis"
    about := some "Markdown document returned by the Markdown deployment."
    required := ["analysis"]
    properties := [("analysis", textSchema none)] }]

/-! ## The document -/

/-- What the document says of the service. -/
def information : List Char :=
  writtenObject [
    ("title", writtenString "CodeComplexity API"),
    description ("Big-O complexity analysis of code snippets, delegated to an LLM and " ++
      "structurally validated."),
    ("contact", writtenObject [("name", writtenString "CodeComplexity Contributors")]),
    ("license", writtenObject [
      ("name", writtenString "MIT"), ("identifier", writtenString "MIT")]),
    ("version", writtenString serviceVersion)]

/-- A tag and its meaning. -/
def tag (name meaning : String) : List Char :=
  writtenObject [("name", writtenString name), description meaning]

/-- The OpenAPI document. -/
def document : List Char :=
  writtenObject [
    ("openapi", writtenString "3.1.0"),
    ("info", information),
    ("paths", writtenObject (operations.map Operation.member)),
    ("components", writtenObject [("schemas", writtenObject (schemas.map Schema.member))]),
    ("tags", writtenList [
      tag "health" "Health check",
      tag "analysis" "Code complexity analysis (one endpoint per deployment format)"])]

/-- The page that shows the document. -/
def page : List Char :=
  "<!DOCTYPE html><html><head><title>CodeComplexity API</title></head><body><pre>".toList
    ++ document ++ "</pre></body></html>".toList

end Documentation

end AnalysisGateway.Http
