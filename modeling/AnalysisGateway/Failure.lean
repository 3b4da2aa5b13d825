import AnalysisGateway.Text.Quoted

/-!
# Failures

Why an analysis has no result. Each failure has an HTTP status, a description for the log and a
message for the client; the two differ in the words that tell the kind. Failures of the provider
can be collapsed into an internal one that keeps the message.
-/

namespace AnalysisGateway

/-- Why an analysis has no result. -/
inductive Failure where
  | validation (text : String)
  | payloadTooLarge (text : String)
  | configuration (text : String)
  | providerTimeout
  | provider (text : String)
  | emptyResponse
  | internal (text : String)
  deriving DecidableEq, Repr

namespace Failure

/-- The HTTP status of a failure. -/
def status : Failure → Nat
  | .validation _ => 400
  | .payloadTooLarge _ => 413
  | .configuration _ => 500
  | .providerTimeout => 504
  | .provider _ => 502
  | .emptyResponse => 502
  | .internal _ => 500

/-- The description of a failure, with its kind. -/
def describe : Failure → String
  | .validation t => "Validation error: " ++ t
  | .payloadTooLarge t => "Payload too large: " ++ t
  | .configuration t => "Configuration error: " ++ t
  | .providerTimeout => "Upstream API timeout"
  | .provider t => "Upstream API error: " ++ t
  | .emptyResponse => "Empty response from upstream API"
  | .internal t => "Internal server error: " ++ t

/-- The message for the client: the text alone, or the description of a failure without one. -/
def message : Failure → String
  | .validation t | .payloadTooLarge t | .configuration t | .provider t | .internal t => t
  | .providerTimeout => describe .providerTimeout
  | .emptyResponse => describe .emptyResponse

/-- A failure of the provider. -/
def isOfProvider : Failure → Bool
  | .providerTimeout | .provider _ | .emptyResponse => true
  | _ => false

/-- A failure of the provider as an internal one; other failures stay as they are. -/
def collapsed (f : Failure) : Failure :=
  if f.isOfProvider then .internal ("Error from upstream API: " ++ f.message) else f

/-- The name of a failure's kind. -/
def kind : Failure → String
  | .validation _ => "Validation"
  | .payloadTooLarge _ => "PayloadTooLarge"
  | .configuration _ => "Config"
  | .providerTimeout => "UpstreamTimeout"
  | .provider _ => "Upstream"
  | .emptyResponse => "EmptyResponse"
  | .internal _ => "Internal"

/-- The text of a failure, if it has one. -/
def text? : Failure → Option String
  | .validation t | .payloadTooLarge t | .configuration t | .provider t | .internal t => some t
  | .providerTimeout | .emptyResponse => none

/-- A failure as its kind and its quoted text. -/
def quoted (f : Failure) : String :=
  match f.text? with
  | some t => f.kind ++ "(" ++ Text.quoted t ++ ")"
  | none => f.kind

end Failure

end AnalysisGateway
