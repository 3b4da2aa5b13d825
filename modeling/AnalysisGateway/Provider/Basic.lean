import AnalysisGateway.Dialogue
import AnalysisGateway.Provider.Outcome
import AnalysisGateway.Provider.Request

/-!
# Providers

A provider is available when there is a credential for it. A call to an available one sends at most
one request:

1. a credential that no header can hold breaks the call off;
2. an address that is no URL over HTTP is refused before anything is sent;
3. without any time to wait, the call has timed out before anything is sent;
4. a line on which no connection for the address can be made takes no request;
5. otherwise the request is sent and its reply is read.
-/

namespace AnalysisGateway

/-- Whom completions are asked of. -/
inductive Provider where
  | available (settings : ProviderSettings) (key : String)
  | unavailable (reason : String)
  deriving DecidableEq, Repr

/-- The answer to a call that was not sent. -/
def Answered.unsent (failure : Failure) (line : Line) : Answered Line :=
  ⟨.failed failure, [], line⟩

/-- The answer to a call that was sent, from its outcome. -/
def Answered.ofOutcome (outcome : Outcome) (line : Line) : Answered Line where
  completion := match outcome.result with
    | .ok text => .text text
    | .error failure => .failed failure
  events := outcome.events
  state := line

/-- Asks a provider for a completion. -/
def ProviderSettings.ask (p : ProviderSettings) (key system user : String) (line : Line) :
    Answered Line :=
  if !fitsHeader key then
    ⟨.crashed "called `Result::unwrap()` on an `Err` value: InvalidHeaderValue", [], line⟩
  else match p.url? with
    | none => .unsent (Outcome.requestFailed "builder error") line
    | some url =>
      if !url.isRequestable then
        .unsent (Outcome.requestFailed ("builder error for url (" ++ url.text ++ ")")) line
      else if p.timeout = 0 then .unsent .providerTimeout line
      else if !line.takes url then .unsent (Outcome.notSent url) line
      else
        let (reply, line) := line.exchange (p.request key url system user)
        .ofOutcome (.ofReply url reply) line

namespace Provider

/-- The reason why there is no provider without a credential. -/
def keyMissing : String := "GROQ_API_KEY is not configured"

/-- The provider of the settings. -/
def ofSettings (p : ProviderSettings) : Provider :=
  match p.apiKey with
  | some key => .available p key
  | none => .unavailable keyMissing

/-- Whether a provider is available. -/
def isAvailable : Provider → Bool
  | available .. => true
  | unavailable _ => false

/-- The model that an available provider is asked for. -/
def model? : Provider → Option String
  | available settings _ => some settings.model
  | unavailable _ => none

/-- What a provider tells of itself: its address as it is configured, or why there is none. -/
inductive Backend where
  | compatible (baseUrl : String)
  | unavailable (reason : String)
  deriving DecidableEq, Repr

/-- The backend of a provider. -/
def backend : Provider → Backend
  | available settings _ => .compatible settings.baseUrl
  | unavailable reason => .unavailable reason

/-- Asks for a completion. -/
def complete (provider : Provider) (system user : String) (line : Line) : Answered Line :=
  match provider with
  | available settings key => settings.ask key system user line
  | unavailable reason => .unsent (.configuration reason) line

/-- Asks for completions one after another, each by its instruction's text and its user's; the sends
of each are in its line. -/
def completeAll (provider : Provider) : List (String × String) → Line → List (Answered Line)
  | [], _ => []
  | (system, user) :: more, line =>
    let a := provider.complete system user line.quiet
    a :: completeAll provider more a.state

/-- A provider as the client of a dialogue. -/
def client (provider : Provider) : Client Line := fun call line =>
  provider.complete call.instruction.text call.user line

end Provider

end AnalysisGateway
