import AnalysisGateway.Http.MediaType
import AnalysisGateway.Http.Message
import AnalysisGateway.Report

/-!
# Bodies of analysis requests

A body is refused for the first of these reasons: its content type is not JSON; it is longer than
allowed, even if it could not be read to its end; it cannot be read to its end; it is no submission.
-/

namespace AnalysisGateway.Http

/-- The text after the first occurrence of a part. -/
def textAfter? (part : List Char) : List Char → Option (List Char)
  | [] => if part.isEmpty then some [] else none
  | c :: rest =>
    if part.isPrefixOf (c :: rest) then some ((c :: rest).drop part.length)
    else textAfter? part rest

/-- The field that a text calls missing. -/
def missingField? (text : List Char) : Option (List Char) := do
  let after ← textAfter? "missing field `".toList text
  let (name, rest) := Text.cut '\x60' after
  if rest.isSome then some name else none

/-- The message for a body that is no submission. -/
def describeFault (body : Bytes) (fault : Json.Fault) : String :=
  let text := fault.messageWithPath body
  if fault.cause.isContent then
    let text := "Failed to deserialize the JSON body into the target type: " ++ text
    match missingField? text.toList with
    | some name => "Missing required field: " ++ String.ofList name
    | none => "Invalid JSON: " ++ text
  else "JSON syntax error: Failed to parse the request body as JSON: " ++ text

/-- Reads a submission from bytes. -/
def readSubmission (body : Bytes) : Except Failure Submission :=
  (Json.readWhole Submission.shape.read body).mapError fun fault =>
    .validation (describeFault body fault)

/-- The submission of a request whose body may have `limit` bytes. -/
def Request.submission (r : Request) (limit : Nat) : Except Failure Submission :=
  if !(r.header? "content-type").any saysJson then
    .error (.validation "Missing `Content-Type: application/json` header")
  else if limit < r.body.length then .error (.payloadTooLarge "Request body too large")
  else if r.bodyFails then .error (.internal "Failed to read request body")
  else readSubmission r.body

end AnalysisGateway.Http
