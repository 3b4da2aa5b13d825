import AnalysisGateway.Number.Decimal
import AnalysisGateway.Text.Quoted
import AnalysisGateway.Text.Utf8

/-!
# Faults of JSON texts

Why a text is refused, and where. A fault of *form* says that the text is not JSON; a fault of
*content* says that a value is not of the kind that was asked for. The place of a fault is kept as
the number of bytes that were still to be read, so readers need not count; lines and columns are
worked out from the whole text when the fault is worded. Columns count bytes.
-/

namespace AnalysisGateway.Json

/-- How JSON writes a double: positional from 1e-5 and below 1e16, and a sign before every
exponent. -/
def doubleStyle : Decimal.RealStyle := ⟨-5, 16, true, .even⟩

/-- How JSON writes a single: positional from 1e-6 and below 1e13. -/
def singleStyle : Decimal.RealStyle := ⟨-6, 13, true, .even⟩

/-- The text of a finite pattern with its sign. -/
def realChars (l : Binary.Layout) (style : Decimal.RealStyle) (bits : Nat) : List Char :=
  match l.magnitude bits with
  | .finite m q =>
    (if l.isNegative bits then ['-'] else []) ++ Decimal.magnitudeChars l style m q
  | _ => "null".toList

/-- A value found where another kind was asked for. -/
inductive Found where
  | null
  | boolean (b : Bool)
  | natural (n : Nat)
  /-- The number `-n`. -/
  | negative (n : Nat)
  /-- A double, as its pattern. -/
  | real (bits : Nat)
  | text (s : String)
  | sequence
  | map
  deriving DecidableEq, Repr

/-- The wording of a found value. -/
def Found.describe : Found → String
  | .null => "null"
  | .boolean b => "boolean `" ++ (if b then "true" else "false") ++ "`"
  | .natural n => "integer `" ++ toString n ++ "`"
  | .negative n => "integer `-" ++ toString n ++ "`"
  | .real bits =>
    "floating point `" ++ String.ofList (realChars Binary.double doubleStyle bits) ++ "`"
  | .text s => "string " ++ Text.quoted s
  | .sequence => "sequence"
  | .map => "map"

/-- Why a text is refused. -/
inductive Cause where
  | endInList
  | endInObject
  | endInText
  | endInValue
  | expectedColon
  | expectedListCommaOrEnd
  | expectedObjectCommaOrEnd
  | expectedWord
  | expectedValue
  | badEscape
  | badNumber
  | numberOutOfRange
  | badUnicode
  | controlCharacter
  | keyNotText
  | loneSurrogate
  | trailingComma
  | trailingCharacters
  | unpairedSurrogate
  | tooDeep
  /-- A value of another kind. -/
  | wrongKind (found : Found) (expected : String)
  /-- A value of the right kind, but not among those allowed. -/
  | wrongValue (found : Found) (expected : String)
  /-- A list of the wrong length. -/
  | wrongLength (length : Nat) (expected : String)
  | missingField (name : String)
  | duplicateField (name : String)
  /-- A name that is none of the choices. -/
  | unknownVariant (name : String) (choices : List String)
  deriving DecidableEq, Repr

/-- The wording of a list of choices. -/
def describeChoices : List String → String
  | [] => "there are no variants"
  | [a] => "expected `" ++ a ++ "`"
  | [a, b] => "expected `" ++ a ++ "` or `" ++ b ++ "`"
  | choices => "expected one of " ++ ", ".intercalate (choices.map fun c => "`" ++ c ++ "`")

/-- The wording of a cause. -/
def Cause.message : Cause → String
  | .endInList => "EOF while parsing a list"
  | .endInObject => "EOF while parsing an object"
  | .endInText => "EOF while parsing a string"
  | .endInValue => "EOF while parsing a value"
  | .expectedColon => "expected `:`"
  | .expectedListCommaOrEnd => "expected `,` or `]`"
  | .expectedObjectCommaOrEnd => "expected `,` or `\x7d`"
  | .expectedWord => "expected ident"
  | .expectedValue => "expected value"
  | .badEscape => "invalid escape"
  | .badNumber => "invalid number"
  | .numberOutOfRange => "number out of range"
  | .badUnicode => "invalid unicode code point"
  | .controlCharacter =>
    "control character (\\u0000-\\u001F) found while parsing a string"
  | .keyNotText => "key must be a string"
  | .loneSurrogate => "lone leading surrogate in hex escape"
  | .trailingComma => "trailing comma"
  | .trailingCharacters => "trailing characters"
  | .unpairedSurrogate => "unexpected end of hex escape"
  | .tooDeep => "recursion limit exceeded"
  | .wrongKind found expected => "invalid type: " ++ found.describe ++ ", expected " ++ expected
  | .wrongValue found expected => "invalid value: " ++ found.describe ++ ", expected " ++ expected
  | .wrongLength n expected => "invalid length " ++ toString n ++ ", expected " ++ expected
  | .missingField name => "missing field `" ++ name ++ "`"
  | .duplicateField name => "duplicate field `" ++ name ++ "`"
  | .unknownVariant name choices =>
    "unknown variant `" ++ name ++ "`, " ++ describeChoices choices

/-- Whether the text is JSON up to the fault, and only a value is not what was asked for. -/
def Cause.isContent : Cause → Bool
  | .wrongKind .. | .wrongValue .. | .wrongLength .. | .missingField _ | .duplicateField _
  | .unknownVariant .. => true
  | _ => false

/-- A step from a value to one of its parts. -/
inductive Step where
  | key (name : String)
  | index (i : Nat)
  deriving DecidableEq, Repr

/-- A fault: its cause, the number of bytes still to be read there, and the steps from the whole
value to the part at fault. -/
structure Fault where
  cause : Cause
  left : Nat
  path : List Step := []
  deriving DecidableEq, Repr

namespace Fault

/-- A fault just before `rest`. -/
def here (cause : Cause) (rest : Bytes) : Fault := { cause, left := rest.length }

/-- A fault at the first byte of `rest`, or at its end if it is empty. -/
def peek (cause : Cause) (rest : Bytes) : Fault := { cause, left := rest.length - 1 }

/-- The fault seen from a value that holds the part at fault. -/
def under (step : Step) (f : Fault) : Fault := { f with path := step :: f.path }

/-- The line of a place, from 1, and its column: the bytes read since the line began. -/
def position (whole : Bytes) (left : Nat) : Nat × Nat :=
  let read := whole.take (whole.length - left)
  (read.count 0x0A + 1, (read.reverse.takeWhile (· != 0x0A)).length)

/-- The wording of a fault, with its place. -/
def message (whole : Bytes) (f : Fault) : String :=
  let (line, column) := position whole f.left
  f.cause.message ++ " at line " ++ toString line ++ " column " ++ toString column

/-- The wording of a path after the steps before it. -/
def pathText (first : Bool) : List Step → String
  | [] => ""
  | .key name :: rest => (if first then "" else ".") ++ name ++ pathText false rest
  | .index i :: rest => "[" ++ toString i ++ "]" ++ pathText false rest

/-- The wording of a fault with its path in front, if it has one. -/
def messageWithPath (whole : Bytes) (f : Fault) : String :=
  (if f.path.isEmpty then "" else pathText true f.path ++ ": ") ++ message whole f

end Fault

/-- Reads a value from the front of a text and gives what follows it. -/
abbrev Reader (α : Type) := Bytes → Except Fault (α × Bytes)

/-- JSON white space: space, tab, line feed, carriage return. -/
def isBlankByte (b : UInt8) : Bool := b == 0x20 || b == 0x09 || b == 0x0A || b == 0x0D

/-- The text without the white space in front. -/
def skipBlank (s : Bytes) : Bytes := s.dropWhile isBlankByte

/-- Reads a whole text: a value, and nothing after it but white space. -/
def readWhole (read : Reader α) (whole : Bytes) : Except Fault α :=
  match read whole with
  | .error f => .error f
  | .ok (a, rest) =>
    match skipBlank rest with
    | [] => .ok a
    | after => .error (.peek .trailingCharacters after)

/-- Reads the bytes of a word, one by one. -/
def readWord : (word : Bytes) → Reader Unit
  | [], s => .ok ((), s)
  | _ :: _, [] => .error (.here .endInValue [])
  | w :: word, b :: s => if b = w then readWord word s else .error (.here .expectedWord s)

end AnalysisGateway.Json
