import AnalysisGateway.Text.Split
import AnalysisGateway.Text.Utf8

/-!
# Media types

The value of a content type: a type, a slash, a subtype, and parameters after semicolons. Type,
subtype and the names of parameters are tokens; the value of a parameter is a token or stands
between double quotes. What follows the last plus sign of a subtype is a suffix, unless the subtype
begins with that sign.
-/

namespace AnalysisGateway.Http

/-- The characters of tokens besides letters and digits. -/
def tokenMarks : List Char :=
  ['!', '#', '$', '%', '&', '\x27', '+', '-', '.', '^', '_', '\x60', '|', '~']

/-- A character of a token. -/
def isTokenChar (c : Char) : Bool := c.isAlphanum || tokenMarks.contains c

/-- A type, a subtype and its suffix, in lower case. -/
structure MediaType where
  main : List Char
  sub : List Char
  suffix : Option (List Char)
  deriving DecidableEq, Repr

namespace MediaType

/-- Whether the text after a quoted value is blanks up to a semicolon; gives what follows it. -/
def afterQuoted (s : List Char) : Option (List Char) :=
  match s.dropWhile (· == ' ') with
  | [] => some []
  | ';' :: rest => some rest
  | _ => none

/-- A value between double quotes, after the first one: at least one character, and no controls.
Gives what follows the semicolon after it. -/
def skipQuoted (s : List Char) : Option (List Char) :=
  match s with
  | [] => none
  | c :: rest =>
    let isAllowed (c : Char) := ' ' ≤ c && c != '\x7f'
    let value := rest.takeWhile fun c => c != '"' && isAllowed c
    match rest.drop value.length with
    | '"' :: after => if isAllowed c then afterQuoted after else none
    | _ => none

/-- A value that is a token, not empty unless it ends the text. Gives what follows the semicolon
after it. -/
def skipPlain (s : List Char) : Option (List Char) :=
  let value := s.takeWhile isTokenChar
  match s.drop value.length with
  | [] => some []
  | ';' :: rest => if value.isEmpty then none else some rest
  | _ => none

/-- A quotation mark only opens a value at its start. -/
def skipValue : List Char → Option (List Char)
  | '"' :: rest => skipQuoted rest
  | s => skipPlain s

/-- Whether parameters are well-formed. Each turn takes at least one character. -/
def hasParameters : (bound : List Char) → List Char → Bool
  | _, [] => true
  | [], _ => false
  | _ :: bound, ' ' :: rest => hasParameters bound rest
  | _ :: bound, s =>
    let name := s.takeWhile isTokenChar
    match s.drop name.length with
    | '=' :: rest =>
      !name.isEmpty && match skipValue rest with
        | some rest => hasParameters bound rest
        | none => false
    | _ => false

/-- A subtype cut at its last plus sign. -/
def cutSuffix (s : List Char) : List Char × Option (List Char) :=
  let suffix := (s.reverse.takeWhile (· != '+')).reverse
  let before := s.take (s.length - suffix.length - 1)
  if before.isEmpty then (s, none) else (before, some suffix)

/-- The media type of tokens. -/
def ofTokens (main sub : List Char) : MediaType :=
  let (sub, suffix) := cutSuffix (sub.map Char.toLower)
  ⟨main.map Char.toLower, sub, suffix⟩

/-- Reads a media type. -/
def read? (s : List Char) : Option MediaType :=
  match Text.cut '/' s with
  | (_, none) => none
  | (main, some rest) =>
    let (sub, parameters) := Text.cut ';' rest
    if main.isEmpty || !main.all isTokenChar || !sub.all isTokenChar then none
    else match parameters with
      | none => some (ofTokens main sub)
      | some parameters =>
        if sub.isEmpty || !hasParameters parameters parameters then none
        else some (ofTokens main sub)

/-- Whether a media type is JSON, or is based on it. -/
def isJson (m : MediaType) : Bool :=
  m.main == "application".toList
    && (m.sub == "json".toList || m.suffix == some "json".toList)

end MediaType

/-- Whether the value of a header says that a body is JSON. -/
def saysJson (value : Bytes) : Bool :=
  value.all (fun b => b == 0x09 || (0x20 ≤ b && b < 0x7F))
    && ((Text.decode? value).bind MediaType.read?).any MediaType.isJson

end AnalysisGateway.Http
