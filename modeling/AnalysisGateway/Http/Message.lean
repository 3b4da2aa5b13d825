import AnalysisGateway.Event
import AnalysisGateway.Json.Writer
import AnalysisGateway.Text.Utf8

/-!
# Requests and responses

What comes in over HTTP and what goes out. A response that reports a failure has a JSON body of two
members, the message and the status, and a failure of the service's own is logged.
-/

namespace AnalysisGateway.Http

/-- A request. `bodyFails` says that reading fails after the bytes of the body. -/
structure Request where
  method : String
  target : String
  headers : List (String × Bytes)
  body : Bytes
  bodyFails : Bool := false
  deriving DecidableEq, Repr

namespace Request

/-- The value of the first header of a name, which is in lower case. -/
def header? (r : Request) (name : String) : Option Bytes :=
  (r.headers.find? fun h => h.1.toLower == name).map (·.2)

/-- A text before the first `?` or `#`. -/
def beforeQuery (s : List Char) : List Char := s.takeWhile fun c => c != '?' && c != '#'

/-- The path after scheme and authority, if there are any. -/
def pathAfterAuthority (s : List Char) : List Char :=
  match s with
  | '/' :: _ => s
  | _ =>
    match s.dropWhile (· != ':') with
    | ':' :: '/' :: '/' :: rest =>
      let path := rest.dropWhile (· != '/')
      if path.isEmpty then ['/'] else path
    | _ => s

/-- The path that a request asks for, as it is spelled. -/
def path (r : Request) : String :=
  String.ofList (pathAfterAuthority (beforeQuery r.target.toList))

end Request

/-- A response. The order of its headers has no meaning. -/
structure Response where
  status : Nat
  headers : List (String × String)
  body : List Char
  deriving DecidableEq, Repr

namespace Response

/-- A response with a JSON body. -/
def json (status : Nat) (body : List Char) : Response :=
  ⟨status, [("content-type", "application/json")], body⟩

/-- A response without body and headers. -/
def empty (status : Nat) : Response := ⟨status, [], []⟩

/-- The response with further headers. -/
def withHeaders (r : Response) (headers : List (String × String)) : Response :=
  { r with headers := r.headers ++ headers }

/-- The response with the length of its body in a header. -/
def measured (r : Response) : Response :=
  r.withHeaders [("content-length", toString (Text.encode r.body).length)]

/-- The response without its body. -/
def withoutBody (r : Response) : Response := { r with body := [] }

/-- The body of a failure. -/
def failureBody (f : Failure) : List Char :=
  Json.writtenObject [
    ("error", Json.writtenString f.message), ("code", Json.writtenNatural f.status)]

/-- The response that reports a failure. -/
def ofFailure (f : Failure) : Response := json f.status (failureBody f)

end Response

/-- What is logged when a failure is reported: those of the service itself, by their status. -/
def failureEvents (f : Failure) : List Event :=
  if 500 ≤ f.status then [.requestFailed f] else []

end AnalysisGateway.Http
