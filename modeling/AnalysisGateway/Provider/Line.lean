import AnalysisGateway.Text.Utf8
import AnalysisGateway.Url.Basic

/-!
# The line to a provider

A request goes over the line and comes back as a reply, or as none. A line that cannot be reached
takes no request, and one that is not secured takes none to a URL over HTTPS. On one that takes it,
each request takes the next reply; where there is none left, the connection is closed without an
answer.
-/

namespace AnalysisGateway

/-- A request as the provider receives it. Its method is always `POST`. -/
structure Sent where
  url : String
  authorization : String
  contentType : String
  body : String
  deriving DecidableEq, Repr

/-- What comes back for a request. A reply has no headers, since nothing is read from one: so no
reply sends a request on to another address. Nor does a body stall half way: it ends, with the
connection or before it, or no answer comes at all. -/
inductive Reply where
  /-- An answer; `whole` says whether the connection lasts until the end of the body. -/
  | answer (status : Nat) (body : Bytes) (whole : Bool)
  /-- The connection is closed without an answer. -/
  | closed
  /-- No answer ever comes. -/
  | silence
  deriving DecidableEq, Repr

/-- A line: whether a connection can be made, the replies to come, the requests so far, and whether
a connection can be a secured one. -/
structure Line where
  reachable : Bool
  replies : List Reply
  sent : List Sent := []
  secured : Bool := false
  deriving DecidableEq, Repr

namespace Line

/-- Whether a connection for a URL can be made: over HTTPS it must be a secured one. -/
def takes (line : Line) (url : Url) : Bool :=
  line.reachable && (line.secured || url.scheme != "https".toList)

/-- The line after a request, and its reply. -/
def exchange (line : Line) (request : Sent) : Reply × Line :=
  (line.replies.headD .closed,
    { line with replies := line.replies.tail, sent := line.sent ++ [request] })

/-- The line with its requests forgotten. -/
def quiet (line : Line) : Line := { line with sent := [] }

end Line

end AnalysisGateway
