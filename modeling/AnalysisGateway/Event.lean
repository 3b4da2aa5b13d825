import AnalysisGateway.Failure
import AnalysisGateway.Format

/-!
# Log events

What the service reports while it runs. An event has a level, the part of the service that reports
it, a message and named fields; nothing of a submitted snippet and no credential is ever in it.
-/

namespace AnalysisGateway

/-- How urgent an event is. -/
inductive Level where
  | error
  | warn
  | info
  | debug
  | trace
  deriving DecidableEq, Repr

/-- The name of a level. -/
def Level.name : Level → String
  | .error => "ERROR"
  | .warn => "WARN"
  | .info => "INFO"
  | .debug => "DEBUG"
  | .trace => "TRACE"

/-- The rank of a level: the higher, the more detailed. -/
def Level.rank : Level → Nat
  | .error => 1
  | .warn => 2
  | .info => 3
  | .debug => 4
  | .trace => 5

/-- What is used in place of a setting that cannot be read. -/
inductive Substitute where
  | byDefault
  | nothing
  deriving DecidableEq, Repr

/-- The wording of a substitute. -/
def Substitute.message : Substitute → String
  | .byDefault => "Using default."
  | .nothing => "Ignoring."

/-- A log event. -/
inductive Event where
  /-- A variable of the environment could not be read. -/
  | settingIgnored (name value reason : String) (substitute : Substitute)
  /-- The first Markdown call failed. -/
  | firstCallFailed (failure : Failure)
  /-- The first Markdown answer lacks sections. -/
  | retrying (reason : String)
  /-- The second Markdown answer lacks sections as well. -/
  | retryIncomplete (reason : String)
  /-- The second Markdown call failed. -/
  | retryFailed (failure : Failure)
  /-- The JSON call failed. -/
  | callFailed (failure : Failure)
  /-- The JSON answer is not a report. -/
  | fallbackUsed (reason : String)
  /-- The provider answered with an error. -/
  | providerRefused (errorType code preview : String)
  /-- The provider answered with a text of so many bytes. -/
  | replyReceived (length : Nat)
  /-- A request was answered with a server error. -/
  | requestFailed (failure : Failure)
  /-- A handler broke off. -/
  | handlerPanicked (detail : String)
  /-- The service sets up its client. -/
  | initializing (model : String) (format : Format) (timeout : Nat)
  /-- There is no credential. -/
  | keyMissing
  /-- The service starts on an address. -/
  | starting (address : String)
  /-- Where the service tells its health. -/
  | healthAt (address : String)
  /-- Where the service analyses. -/
  | analysisAt (address endpoint : String)
  /-- Where the service is documented. -/
  | documentationAt (address : String)
  /-- The service was told to stop. -/
  | stopping
  deriving DecidableEq, Repr

namespace Event

/-- The level of an event. -/
def level : Event → Level
  | .settingIgnored .. | .retryIncomplete _ | .fallbackUsed _ | .keyMissing => .warn
  | .firstCallFailed _ | .retryFailed _ | .callFailed _ | .providerRefused .. | .requestFailed _
  | .handlerPanicked _ => .error
  | .replyReceived _ => .debug
  | .retrying _ | .initializing .. | .starting _ | .healthAt _ | .analysisAt .. | .documentationAt _
  | .stopping => .info

/-- The part of the service that reports an event. -/
def target : Event → String
  | .settingIgnored .. => "codecomplexity::config"
  | .firstCallFailed _ | .retrying _ | .retryIncomplete _ | .retryFailed _ | .callFailed _
  | .fallbackUsed _ => "codecomplexity::analysis::service"
  | .providerRefused .. | .replyReceived _ => "codecomplexity::llm::api"
  | .requestFailed _ => "codecomplexity::error"
  | .handlerPanicked _ => "codecomplexity::api::routes"
  | .initializing .. | .keyMissing | .starting _ | .healthAt _ | .analysisAt .. | .documentationAt _
  | .stopping => "codecomplexity"

/-- The message of an event. -/
def message : Event → String
  | .settingIgnored name value reason substitute =>
    "Invalid value '" ++ value ++ "' for " ++ name ++ ": " ++ reason ++ ". "
      ++ substitute.message
  | .firstCallFailed _ => "LLM call failed on first attempt"
  | .retrying _ => "Retrying completion with stricter prompt due to missing sections"
  | .retryIncomplete _ => "Retry still missing sections; keeping first answer"
  | .retryFailed _ => "LLM call failed on retry; keeping first answer"
  | .callFailed _ => "LLM call failed"
  | .fallbackUsed _ => "Failed to parse valid JSON from LLM response; using fallback"
  | .providerRefused .. => "LLM API returned an error"
  | .replyReceived _ => "LLM response received"
  | .requestFailed _ => "Request failed"
  | .handlerPanicked _ => "Handler panicked"
  | .initializing model format timeout =>
    "Initializing LLM client: " ++ model ++ " (format=" ++ format.name ++ ", timeout="
      ++ toString timeout ++ "s)..."
  | .keyMissing => "GROQ_API_KEY not found in environment variables. " ++
    "Analysis requests will fail until it is set."
  | .starting address => "CodeComplexity starting on http://" ++ address
  | .healthAt address => "  Health check: http://" ++ address ++ "/health"
  | .analysisAt address endpoint => "  Analysis:     POST http://" ++ address ++ endpoint
  | .documentationAt address => "  API docs:     http://" ++ address ++ "/docs"
  | .stopping => "Shutdown signal received, draining in-flight requests..."

/-- The fields of an event besides its message. -/
def fields : Event → List (String × String)
  | .firstCallFailed f | .retryFailed f | .callFailed f => [("error", f.describe)]
  | .retrying reason | .retryIncomplete reason | .fallbackUsed reason => [("reason", reason)]
  | .providerRefused errorType code preview =>
    [("error_type", errorType), ("code", code), ("body_preview", preview)]
  | .replyReceived n => [("response_len", toString n)]
  | .requestFailed f => [("status", toString f.status), ("error", f.describe)]
  | .handlerPanicked detail => [("panic", detail)]
  | _ => []

end Event

end AnalysisGateway
