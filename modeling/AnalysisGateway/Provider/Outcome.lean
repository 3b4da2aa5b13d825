import AnalysisGateway.Event
import AnalysisGateway.Provider.Completion
import AnalysisGateway.Provider.Line
import AnalysisGateway.Url.Basic

/-!
# Outcomes of requests

What a reply means for the one who asked. Only a whole body counts. A status from 500 to 599 makes
an error of the whole body; another one outside 200 to 299 needs an error in the body; and a
completion is the text of its first choice, where no text counts as the empty one. An error that
the provider reports is logged with the beginning of its message, a completion with its length.
-/

namespace AnalysisGateway

/-- What became of a request whose reply has been read, with the events on the way. -/
structure Outcome where
  result : Except Failure String
  events : List Event := []

namespace Outcome

/-- How many characters of an error are logged. -/
def previewLength : Nat := 300

/-- An outcome without events. -/
def failed (f : Failure) : Outcome := { result := .error f }

/-- A request that failed by itself. -/
def requestFailed (reason : String) : Failure := .provider ("LLM request failed: " ++ reason)

/-- A request to a URL that found no one. -/
def notSent (url : Url) : Failure :=
  requestFailed ("error sending request for url (" ++ url.text ++ ")")

/-- A body that cannot be read. -/
def unreadable (body : Bytes) (fault : Json.Fault) : Outcome :=
  failed (.provider ("Failed to parse LLM response: " ++ fault.message body))

/-- The outcome of an error that the provider reports. -/
def ofError (error : ProviderError) : Outcome where
  result := .error (.provider error.message)
  events := [.providerRefused (error.kind.getD "unknown") (error.code.getD "unknown")
    (String.ofList (error.message.toList.take previewLength))]

/-- The outcome of a completion. -/
def ofCompletion (c : Completed) : Outcome :=
  match c.choices with
  | [] => failed (.provider "LLM response contained no choices")
  | choice :: _ =>
    let text := choice.getD ""
    { result := .ok text, events := [.replyReceived text.utf8ByteSize] }

/-- The outcome of a whole body. -/
def ofBody (status : Nat) (body : Bytes) : Outcome :=
  if 500 ≤ status ∧ status < 600 then
    ofError (.ofMessage (String.ofList (Text.decodeLossy body)))
  else if 200 ≤ status ∧ status < 300 then
    match Completed.read body with
    | .ok c => ofCompletion c
    | .error fault => unreadable body fault
  else
    match ProviderError.read body with
    | .ok error => ofError error
    | .error fault => unreadable body fault

/-- Whether a status is one whose answers have no body. -/
def isBodiless (status : Nat) : Bool := status == 204 || status == 304

/-- The outcome of a reply to a request to a URL. -/
def ofReply (url : Url) : Reply → Outcome
  | .closed => failed (notSent url)
  | .silence => failed .providerTimeout
  | .answer status body whole =>
    if isBodiless status then ofBody status []
    else if whole then ofBody status body
    else failed (requestFailed "error decoding response body")

end Outcome

end AnalysisGateway
