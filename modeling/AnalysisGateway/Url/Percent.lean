import AnalysisGateway.Json.Text

/-!
# Percent encoding

A character that must not stand in a part of a URL is written as its UTF-8 bytes, each as `%` and
two hexadecimal digits. Controls and characters beyond ASCII never stand for themselves; which other
characters do not depends on the part.
-/

namespace AnalysisGateway.Url

/-- A byte as `%` and two upper-case hexadecimal digits. -/
def percentByte (b : UInt8) : List Char :=
  ['%', (Nat.digitChar (b.toNat / 16)).toUpper, (Nat.digitChar (b.toNat % 16)).toUpper]

/-- A text with every character encoded that is reserved or no printable ASCII character. -/
def percentEncode (reserved : List Char) (s : List Char) : List Char :=
  s.flatMap fun c =>
    if ' ' ≤ c ∧ c ≤ '~' ∧ ¬ reserved.contains c then [c]
    else (String.utf8EncodeChar c).flatMap percentByte

/-- The bytes of a percent-encoded text; a `%` without two digits stands for itself. -/
def percentDecode : Bytes → Bytes
  | [] => []
  | 0x25 :: a :: b :: rest =>
    match Json.hexValue? a, Json.hexValue? b with
    | some x, some y => UInt8.ofNat (16 * x + y) :: percentDecode rest
    | _, _ => 0x25 :: percentDecode (a :: b :: rest)
  | b :: rest => b :: percentDecode rest

/-- What is reserved in a fragment. -/
def reservedInFragment : List Char := [' ', '"', '<', '>', '\x60']

/-- What is reserved in a query; in the query of a special scheme, the apostrophe as well. -/
def reservedInQuery (special : Bool) : List Char :=
  [' ', '"', '#', '<', '>'] ++ (if special then ['\x27'] else [])

/-- What is reserved in a segment of a path. -/
def reservedInPath : List Char := reservedInFragment ++ ['#', '?', '\x7b', '\x7d']

/-- What is reserved in a user's name or password. -/
def reservedInCredentials : List Char :=
  reservedInPath ++ ['/', ':', ';', '=', '@', '[', '\\', ']', '^', '|']

end AnalysisGateway.Url
