import AnalysisGateway.Flow
import AnalysisGateway.Http.Body
import AnalysisGateway.Http.Documentation
import AnalysisGateway.Provider.Basic

/-!
# The service

Requests are answered one after another, over one line to the provider.

* There are four routes: health, the analysis endpoint of the deployment's format, the OpenAPI
  document, and the page that shows it. A path is a route only if it is spelled exactly like it.
* Every `OPTIONS` request is answered by the rules for foreign origins. Any other method that a
  route does not know is refused with the methods that it knows; `HEAD` is answered as `GET`,
  without the body. An unknown path is not found.
* Only a `POST` to the analysis endpoint can reach the provider.
* Responses are open to every origin, except the one for a handler that broke off.
-/

namespace AnalysisGateway.Http

/-- A deployment: its settings, and whom it asks. -/
structure Service where
  settings : Settings
  provider : Provider
  deriving DecidableEq, Repr

/-- The service of the settings. -/
def Service.ofSettings (s : Settings) : Service := ⟨s, .ofSettings s.provider⟩

/-! ## Routes -/

/-- The routes of a service. -/
inductive Route where
  | health
  | analysis
  | document
  | page
  deriving DecidableEq, Repr

/-- The route of a path. -/
def Service.route? (service : Service) (path : String) : Option Route :=
  if path = service.settings.analysis.format.endpoint then some .analysis
  else if path = "/health" then some .health
  else if path = "/openapi.json" then some .document
  else if path = "/docs" then some .page
  else none

/-- The methods of a route. -/
def Route.methods : Route → List String
  | .analysis => ["POST"]
  | .health | .document | .page => ["GET", "HEAD"]

/-- The header that lists the methods of a route. -/
def Route.allow (r : Route) : String × String := ("allow", ",".intercalate r.methods)

/-! ## Responses -/

/-- What every response says of origins. -/
def originHeaders : List (String × String) := [
  ("access-control-allow-origin", "*"),
  ("vary", "origin, access-control-request-method, access-control-request-headers")]

/-- What the answer to an `OPTIONS` request says besides. -/
def permissionHeaders : List (String × String) :=
  [("access-control-allow-headers", "*"), ("access-control-allow-methods", "*")]

/-- The state of a service, as JSON. -/
def Service.healthBody (service : Service) : List Char :=
  Json.writtenObject [
    ("status", Json.writtenString "ok"),
    ("version", Json.writtenString serviceVersion),
    ("format", Json.writtenString service.settings.analysis.format.name),
    ("llm", Json.writtenObject
      (("status", Json.writtenString
          (if service.provider.isAvailable then "configured" else "unconfigured"))
        :: (match service.provider.model? with
          | some model => [("model", Json.writtenString model)]
          | none => [])))]

/-- The response of a route that only tells something. -/
def Service.reading (service : Service) : Route → Response
  | .page => ⟨200, [("content-type", "text/html; charset=utf-8")], Documentation.page⟩
  | .document => .json 200 Documentation.document
  | .health | .analysis => .json 200 service.healthBody

/-- A response with its events and the line after it. The events are those of the service itself:
what its libraries report of a request, as a tracing layer does, is not among them. -/
structure Exchange where
  response : Response
  events : List Event
  line : Line
  deriving DecidableEq, Repr

/-- The response that reports a failure, and what is logged of it. -/
def reportFailure (f : Failure) (events : List Event) (line : Line) : Exchange :=
  ⟨(Response.ofFailure f).measured.withHeaders originHeaders, events ++ failureEvents f, line⟩

/-- The failure that is reported for a handler that broke off. -/
def crashFailure : Failure := .internal "An unexpected error occurred"

/-- The response for a handler that broke off. -/
def reportCrash (detail : String) (events : List Event) (line : Line) : Exchange :=
  ⟨(Response.ofFailure crashFailure).measured,
    events ++ .handlerPanicked detail :: failureEvents crashFailure, line⟩

/-- The response of an analysis that has ended. -/
def ofTranscript (t : Transcript (Except Failure Analysis) Line) : Exchange :=
  match t.ending with
  | .finished (.ok a) =>
    ⟨(Response.json 200 a.written).measured.withHeaders originHeaders, t.events, t.state⟩
  | .finished (.error f) => reportFailure f t.events t.state
  | .crashed detail => reportCrash detail t.events t.state

/-- Answers an analysis request. -/
def Service.analysis (service : Service) (r : Request) (line : Line) : Exchange :=
  match r.submission service.settings.server.maxBodyBytes with
  | .error f => reportFailure f [] line
  | .ok submission =>
    ofTranscript
      ((analyze service.settings.analysis submission.code).run service.provider.client line)

/-- Answers a request without asking the provider. -/
def Service.answerLocally (service : Service) (method : String) (route : Option Route) : Response :=
  match route with
  | none =>
    if method = "OPTIONS" then (Response.empty 200).withHeaders (permissionHeaders ++ originHeaders)
    else (Response.empty 404).withHeaders originHeaders
  | some route =>
    if method = "OPTIONS" then
      (Response.empty 200).measured.withHeaders (route.allow :: permissionHeaders ++ originHeaders)
    else if route.methods.contains method then
      let response := (service.reading route).measured.withHeaders originHeaders
      if method = "HEAD" then response.withoutBody else response
    else (Response.empty 405).measured.withHeaders (route.allow :: originHeaders)

/-- Answers a request. -/
def Service.respond (service : Service) (r : Request) (line : Line) : Exchange :=
  let route := service.route? r.path
  if route = some .analysis ∧ r.method = "POST" then service.analysis r line
  else ⟨service.answerLocally r.method route, [], line⟩

/-- Answers requests one after another; the sends of each are in its line. -/
def Service.respondAll (service : Service) : List Request → Line → List Exchange
  | [], _ => []
  | r :: more, line =>
    let e := service.respond r line.quiet
    e :: service.respondAll more e.line

end AnalysisGateway.Http
