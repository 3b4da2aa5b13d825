import AnalysisGateway.Json.Writer
import AnalysisGateway.Provider.Line
import AnalysisGateway.Settings
import AnalysisGateway.Url.Basic

/-!
# Requests to a provider

Where a request goes, and what it says. Slashes at the end of the configured address do not matter.
The body holds two messages, the instruction and the user's text; as JSON texts they cannot reach
into any other part of it.
-/

namespace AnalysisGateway

/-- A text without the slashes at its end. -/
def withoutSlashes (s : List Char) : List Char := (s.reverse.dropWhile (· == '/')).reverse

namespace ProviderSettings

/-- The address that completions are asked at, as it is put together. -/
def address (p : ProviderSettings) : List Char :=
  withoutSlashes p.baseUrl.toList ++ "/chat/completions".toList

/-- The body of a request. -/
def requestBody (p : ProviderSettings) (system user : String) : List Char :=
  let message (role content : String) : List Char := Json.writtenObject [
    ("role", Json.writtenString role), ("content", Json.writtenString content)]
  Json.writtenObject
    ([("messages", Json.writtenList [message "system" system, message "user" user]),
      ("model", Json.writtenString p.model)]
      ++ (match p.maxTokens with
        | some n => [("max_tokens", Json.writtenNatural n)]
        | none => [])
      ++ [("temperature", Json.writtenSingle p.temperature)])

end ProviderSettings

namespace Url

/-- Whether a user's part of a URL is UTF-8 when decoded. -/
def isText (part : List Char) : Bool := (Text.decode? (percentDecode (Text.encode part))).isSome

/-- The URL without credentials, which have no place in a request. Credentials that are not UTF-8
stay where they are. -/
def withoutCredentials (u : Url) : Url :=
  let hasPassword := u.credentials.password.any isText
  if isText u.credentials.user && (!u.credentials.user.isEmpty || hasPassword) then
    { u with credentials := .absent }
  else u

/-- Whether a request can be sent to a URL: over HTTP, to a host of plain characters, in at most
65534 characters. -/
def isRequestable (u : Url) : Bool :=
  (u.scheme == "http".toList || u.scheme == "https".toList)
    && (match u.host with
      | some host => !host.text.any ['"', '\x60', '\x7b', '\x7d'].contains
      | none => false)
    && u.chars.length ≤ 65534

/-- The URL as a request carries it. -/
def requested (u : Url) : Url := { u with credentials := .absent, fragment := none }

end Url

/-- The URL that completions are asked at, if the address is one. -/
def ProviderSettings.url? (p : ProviderSettings) : Option Url :=
  (Url.readChars p.address).map Url.withoutCredentials

/-- Whether a header can hold a text: no controls but for the tab. -/
def fitsHeader (s : String) : Bool :=
  s.toList.all fun c => c == '\t' || (' ' ≤ c && c != '\x7f')

/-- A request that asks for a completion. -/
def ProviderSettings.request (p : ProviderSettings) (key : String) (url : Url)
    (system user : String) : Sent where
  url := url.requested.text
  authorization := "Bearer " ++ key
  contentType := "application/json"
  body := String.ofList (p.requestBody system user)

end AnalysisGateway
