import AnalysisGateway.Text.Utf8
import AnalysisGateway.Url.Address
import AnalysisGateway.Url.Domain
import AnalysisGateway.Url.Percent

/-!
# URLs

A URL in its normal form, and reading it from any of its spellings:

1. controls and spaces around it are dropped, and tabs and line ends anywhere;
2. the scheme is in lower case;
3. for a special scheme (`http`, `https`, `ws`, `wss`, `ftp`) any number of slashes of either kind
   leads to the host, the host must not be empty and is in its normal form, and a backslash is a
   slash; the port number is dropped if it is the scheme's own;
4. segments `.` and `..` of the path are resolved;
5. characters that must not stand in a part are percent-encoded.
-/

namespace AnalysisGateway

namespace Url

/-- A host in its normal form. -/
inductive Host where
  /-- A name, perhaps empty where the scheme is not special. -/
  | name (text : List Char)
  | short (n : Nat)
  | long (groups : List Nat)
  deriving DecidableEq, Repr

/-- The text of a host. -/
def Host.text : Host → List Char
  | .name t => t
  | .short n => shortText n
  | .long groups => '[' :: longText groups ++ [']']

/-- A user's name and perhaps a password, percent-encoded. -/
structure Credentials where
  user : List Char
  password : Option (List Char)
  deriving DecidableEq, Repr

/-- No user. -/
def Credentials.absent : Credentials := ⟨[], none⟩

/-- The text of credentials with its `@`, if there are any. -/
def Credentials.text (c : Credentials) : List Char :=
  if c = .absent then []
  else c.user ++ (match c.password with
    | some p => ':' :: p
    | none => []) ++ ['@']

end Url

/-- A URL in its normal form; the path with its leading slash, if it has one. -/
structure Url where
  scheme : List Char
  credentials : Url.Credentials
  host : Option Url.Host
  portNumber : Option Nat
  path : List Char
  query : Option (List Char)
  fragment : Option (List Char)
  deriving DecidableEq, Repr

namespace Url

/-! ## Text -/

/-- A part with the character before it, if there is the part. -/
def withMark (mark : Char) : Option (List Char) → List Char
  | some part => mark :: part
  | none => []

/-- The text of a URL. Where there is no host, a path that would read as one is kept apart. -/
def chars (u : Url) : List Char :=
  u.scheme ++ [':']
    ++ (match u.host with
      | some host => ['/', '/'] ++ u.credentials.text ++ host.text
          ++ withMark ':' (u.portNumber.map (Nat.toDigits 10))
      | none => if ['/', '/'].isPrefixOf u.path then ['/', '.'] else [])
    ++ u.path ++ withMark '?' u.query ++ withMark '#' u.fragment

/-- `chars` as a string. -/
def text (u : Url) : String := String.ofList u.chars

/-! ## Schemes -/

/-- The special schemes but for `file`, with their ports. -/
def specialPorts : List (List Char × Nat) :=
  [("http".toList, 80), ("https".toList, 443), ("ws".toList, 80), ("wss".toList, 443),
   ("ftp".toList, 21)]

/-- The port number of a scheme. -/
def defaultPort? (scheme : List Char) : Option Nat :=
  (specialPorts.find? (·.1 == scheme)).map (·.2)

/-- Reads a scheme and its colon. -/
def readScheme (s : List Char) : Option (List Char × List Char) :=
  let name := s.takeWhile fun c => c.isAlphanum || c == '+' || c == '-' || c == '.'
  match name, s.drop name.length with
  | c :: _, ':' :: rest => if c.isAlpha then some (name.map Char.toLower, rest) else none
  | _, _ => none

/-! ## Hosts -/

/-- Reads a host of a special scheme. -/
def readHost (s : List Char) : Option Host :=
  match s with
  | '[' :: inner =>
    if inner.getLast? = some ']' then (readLong inner.dropLast).map .long else none
  | s => do
    let name ← asciiName (← Text.decode? (percentDecode (Text.encode s)))
    if name.isEmpty then none
    else if endsInNumber name then (readShort name).map .short
    else some (.name name)

/-- The ASCII characters that no host contains where the scheme is not special. -/
def forbiddenInHost : List Char :=
  ['\x00', ' ', '#', '/', ':', '<', '>', '?', '@', '[', '\\', ']', '^', '|']

/-- Reads a host where the scheme is not special; it may be empty. -/
def readPlainHost (s : List Char) : Option Host :=
  match s with
  | '[' :: inner =>
    if inner.getLast? = some ']' then (readLong inner.dropLast).map .long else none
  | s => if s.any forbiddenInHost.contains then none else some (.name (percentEncode [] s))

/-- Splits a host from the port number behind it; a colon between square brackets is the host's. -/
def splitPort (inside : Bool) : List Char → List Char × Option (List Char)
  | [] => ([], none)
  | c :: rest =>
    if c = ':' ∧ ¬ inside then ([], some rest)
    else
      let inside := if c = '[' then true else if c = ']' then false else inside
      let (host, portNumber) := splitPort inside rest
      (c :: host, portNumber)

/-- Reads a port number, which may be absent, and gives what follows it: nothing, or a backslash
and what is behind it. -/
def readPort (s : List Char) : Option (Option Nat × List Char) :=
  let digits := s.takeWhile Char.isDigit
  let rest := s.drop digits.length
  if rest.isEmpty ∨ rest.head? = some '\\' then
    if digits.isEmpty then some (none, rest)
    else (readBase 10 digits).bind fun n => if n < Nat.pow 2 16 then some (some n, rest) else none
  else none

/-- Reads credentials. -/
def readCredentials (s : List Char) : Credentials :=
  let (user, password) := Text.cut ':' s
  ⟨percentEncode reservedInCredentials user,
    (password.filter (!·.isEmpty)).map (percentEncode reservedInCredentials)⟩

/-- Splits credentials from the host behind the last `@`. -/
def splitCredentials (s : List Char) : Option (List Char) × List Char :=
  if s.contains '@' then
    (some ((s.reverse.dropWhile (· != '@')).drop 1).reverse,
      (s.reverse.takeWhile (· != '@')).reverse)
  else (none, s)

/-- What stands between the scheme and the path. -/
structure Authority where
  credentials : Credentials
  host : Host
  portNumber : Option Nat
  /-- What was read already and belongs to the path. -/
  rest : List Char

/-- Reads an authority. Without a host there must be no colon of a port number, and no `@` but after
a lone colon. -/
def readAuthority (scheme : List Char) (s : List Char) : Option Authority := do
  let default := defaultPort? scheme
  let (user, s) := splitCredentials s
  let (hostText, portText) := splitPort false s
  let host ← if default.isSome then readHost hostText else readPlainHost hostText
  let (portNumber, rest) ← readPort (portText.getD [])
  let credentials := readCredentials (user.getD [])
  if host = .name [] ∧ (portText.isSome ∨ credentials ≠ .absent ∨ user = some []) then none
  else return { credentials, host, rest,
                portNumber := if portNumber = default then none else portNumber }

/-! ## Paths -/

/-- The spellings of a segment that is one point, and of one that is two. -/
def isPoint (segment : List Char) : Bool :=
  ["." , "%2e"].contains (String.ofList (segment.map Char.toLower))

/-- The spellings of a segment of two points. -/
def isTwoPoints (segment : List Char) : Bool :=
  ["..", ".%2e", "%2e.", "%2e%2e"].contains (String.ofList (segment.map Char.toLower))

/-- Resolves points, after the segments `done`, latest first. -/
def resolveAfter (done : List (List Char)) : List (List Char) → List (List Char)
  | [] => done.reverse
  | s :: more =>
    let done := if isTwoPoints s then done.tail else if isPoint s then done else s :: done
    if more.isEmpty ∧ (isTwoPoints s ∨ isPoint s) then ([] :: done).reverse
    else resolveAfter done more

/-- The normal form of a path after its leading slash. -/
def normalPath (isSlash : Char → Bool) (s : List Char) : List Char :=
  let segments := (Text.splitBy isSlash s).map (percentEncode reservedInPath)
  (resolveAfter [] segments).flatMap ('/' :: ·)

/-! ## Paths of files -/

/-- A segment that names a drive: a letter, and a colon or a bar. -/
def isDrive : List Char → Bool
  | [c, mark] => c.isAlpha && (mark == ':' || mark == '|')
  | _ => false

/-- The segments of a file's path, latest first, and whether a drive takes the place of the host. -/
structure FilePath where
  done : List (List Char) := []
  hasDrive : Bool := false

namespace FilePath

/-- The path without its last segment; a drive is never left. -/
def leave (p : FilePath) : FilePath :=
  match p.done with
  | s :: more => if isDrive s then p else { p with done := more }
  | [] => p

/-- Adds a segment. A drive in front is written with a colon, and what follows such a drive is a
segment of its own. -/
def enter (p : FilePath) (s : List Char) : FilePath :=
  match p.done, s with
  | [], c :: mark :: more =>
    if isDrive [c, mark] then
      if more.isEmpty then ⟨[[c, ':']], true⟩
      else if mark = ':' then { p with done := [more, [c, ':']] }
      else { p with done := [s] }
    else { p with done := [s] }
  | done, s => { p with done := s :: done }

/-- Follows segments; points at the end leave an empty one. -/
def follow (p : FilePath) : List (List Char) → FilePath
  | [] => p
  | s :: more =>
    let points := isTwoPoints s || isPoint s
    let p := if isTwoPoints s then p.leave else if isPoint s then p else p.enter s
    if more.isEmpty && points then { p with done := [] :: p.done } else p.follow more

/-- The text of a path, with one slash in front. -/
def text (p : FilePath) : List Char :=
  '/' :: (p.done.reverse.flatMap ('/' :: ·)).dropWhile (· == '/')

end FilePath

/-! ## Reading -/

/-- Drops controls and spaces around a text. -/
def trimControls (s : List Char) : List Char :=
  ((s.dropWhile (· ≤ ' ')).reverse.dropWhile (· ≤ ' ')).reverse

/-- A text cut before the first character of a class. -/
def breakAt (stop : Char → Bool) (s : List Char) : List Char × List Char :=
  (s.takeWhile fun c => !stop c, s.dropWhile fun c => !stop c)

/-- The end of an authority. -/
def endsAuthority (isSlash : Char → Bool) (c : Char) : Bool := isSlash c || c == '?' || c == '#'

/-- Reads what follows the path: query and fragment. -/
def readTail (special : Bool) (s : List Char) : Option (List Char) × Option (List Char) :=
  let (before, fragment) := Text.cut '#' s
  (match before with
    | '?' :: query => some (percentEncode (reservedInQuery special) query)
    | _ => none,
   fragment.map (percentEncode reservedInFragment))

/-- Reads what follows the colon of a special scheme. -/
def readSpecial (scheme : List Char) (s : List Char) : Option Url := do
  let isSlash (c : Char) := c == '/' || c == '\\'
  let (authority, s) := breakAt (endsAuthority isSlash) (s.dropWhile isSlash)
  let a ← readAuthority scheme authority
  let (path, s) := breakAt (fun c => c == '?' || c == '#') s
  let (query, fragment) := readTail true s
  return { scheme, credentials := a.credentials, host := some a.host, portNumber := a.portNumber,
           path := normalPath isSlash (path.drop 1), query, fragment }

/-- Splits the host of a file from its path. A drive is no host, and then the path begins with it.
Where there is no host the path keeps its slash, and so begins with an empty segment. -/
def splitFileHost (isSlash : Char → Bool) (s : List Char) : List Char × List Char :=
  match s with
  | a :: b :: rest =>
    if isSlash a ∧ isSlash b then
      let (host, path) := breakAt (endsAuthority isSlash) rest
      if isDrive host then ([], rest) else (host, path)
    else if isSlash a then ([], b :: rest) else ([], s)
  | [a] => if isSlash a then ([], []) else ([], [a])
  | [] => ([], [])

/-- Reads what follows the colon of `file`. -/
def readFile (s : List Char) : Option Url := do
  let isSlash (c : Char) := c == '/' || c == '\\'
  let (authority, s) := splitFileHost isSlash s
  let host ← if authority.isEmpty then some (.name []) else readHost authority
  let host := if host = .name "localhost".toList then .name [] else host
  let (path, s) := breakAt (fun c => c == '?' || c == '#') s
  let path := if host = .name [] then path else path.drop 1
  let segments := (Text.splitBy isSlash path).map (percentEncode reservedInPath)
  let path := ({} : FilePath).follow segments
  let (query, fragment) := readTail true s
  return { scheme := "file".toList, credentials := .absent,
           host := some (if path.hasDrive then .name [] else host), portNumber := none,
           path := path.text, query, fragment }

/-- Reads what follows the colon of any other scheme. -/
def readPlain (scheme : List Char) (s : List Char) : Option Url := do
  let isSlash (c : Char) := c == '/'
  let endsPath (c : Char) := c == '?' || c == '#'
  match s with
  | '/' :: '/' :: s =>
    let (authority, s) := breakAt (endsAuthority isSlash) s
    let a ← readAuthority scheme authority
    let (path, s) := breakAt endsPath (a.rest ++ s)
    let (query, fragment) := readTail false s
    let path := match path with
      | [] => []
      | '/' :: rest => normalPath isSlash rest
      | path => normalPath isSlash path
    return { scheme, credentials := a.credentials, host := some a.host, portNumber := a.portNumber,
             path, query, fragment }
  | s =>
    let (path, s) := breakAt endsPath s
    let (query, fragment) := readTail false s
    let path := match path with
      | '/' :: rest => normalPath isSlash rest
      | path => percentEncode [] path
    return { scheme, credentials := .absent, host := none, portNumber := none, path, query,
             fragment }

/-- Reads a URL. -/
def readChars (s : List Char) : Option Url := do
  let s := (trimControls s).filter fun c => c != '\t' && c != '\n' && c != '\r'
  let (scheme, rest) ← readScheme s
  if scheme = "file".toList then readFile rest
  else if (defaultPort? scheme).isSome then readSpecial scheme rest
  else readPlain scheme rest

end Url

end AnalysisGateway
