import AnalysisGateway.Json.Fault

/-!
# JSON texts

Strings between double quotes. Reading accepts every legal spelling of a text: a character as
itself, by its short escape, or by `\u` and four hexadecimal digits, where a character beyond
U+FFFF takes two such escapes, a surrogate pair. Writing uses one spelling for each character: the
short escape if there is one, `\u` for the other control characters below U+0020, and itself
otherwise.
-/

namespace AnalysisGateway.Json

/-! ## Writing -/

/-- A hexadecimal digit in lower case. -/
def hexDigit (n : Nat) : Char := Nat.digitChar n

/-- How a character is written. -/
def writtenChar (c : Char) : List Char :=
  match c with
  | '"' => ['\\', '"']
  | '\\' => ['\\', '\\']
  | '\x08' => ['\\', 'b']
  | '\x0c' => ['\\', 'f']
  | '\n' => ['\\', 'n']
  | '\r' => ['\\', 'r']
  | '\t' => ['\\', 't']
  | c => if c.toNat < 0x20 then
      ['\\', 'u', '0', '0', hexDigit (c.toNat / 16), hexDigit (c.toNat % 16)]
    else [c]

/-- A text as JSON. -/
def writtenText (s : List Char) : List Char := '"' :: s.flatMap writtenChar ++ ['"']

/-! ## Reading -/

/-- The value of a hexadecimal digit. -/
def hexValue? (b : UInt8) : Option Nat :=
  if 0x30 ≤ b ∧ b ≤ 0x39 then some (b.toNat - 0x30)
  else if 0x41 ≤ b ∧ b ≤ 0x46 then some (b.toNat - 0x41 + 10)
  else if 0x61 ≤ b ∧ b ≤ 0x66 then some (b.toNat - 0x61 + 10)
  else none

/-- The value of four hexadecimal digits. -/
def hexQuad? (a b c d : UInt8) : Option Nat :=
  match hexValue? a, hexValue? b, hexValue? c, hexValue? d with
  | some a, some b, some c, some d => some (((a * 16 + b) * 16 + c) * 16 + d)
  | _, _, _, _ => none

/-- Reads four hexadecimal digits. -/
def readQuad : Reader Nat
  | a :: b :: c :: d :: rest =>
    match hexQuad? a b c d with
    | some n => .ok (n, rest)
    | none => .error (.here .badEscape rest)
  | _ => .error (.here .endInText [])

/-- Whether a code unit is the first of a surrogate pair. -/
def isHighSurrogate (n : Nat) : Bool := 0xD800 ≤ n && n ≤ 0xDBFF

/-- Whether a code unit is the second of a surrogate pair. -/
def isLowSurrogate (n : Nat) : Bool := 0xDC00 ≤ n && n ≤ 0xDFFF

/-- Reads the second half of a surrogate pair, after the digits of the first. -/
def readPaired (high : Nat) : Reader Char
  | [] => .error (.here .endInText [])
  | 0x5C :: [] => .error (.here .endInText [])
  | 0x5C :: 0x75 :: rest =>
    match readQuad rest with
    | .error f => .error f
    | .ok (low, rest) =>
      if isLowSurrogate low then
        .ok (Char.ofNat (0x10000 + (high - 0xD800) * 0x400 + (low - 0xDC00)), rest)
      else .error (.here .loneSurrogate rest)
  | 0x5C :: _ :: rest => .error (.here .unpairedSurrogate rest)
  | _ :: rest => .error (.here .unpairedSurrogate rest)

/-- Reads an escape after its `\u`. -/
def readUnicodeEscape (s : Bytes) : Except Fault (Char × Bytes) :=
  match readQuad s with
  | .error f => .error f
  | .ok (n, rest) =>
    if isLowSurrogate n then .error (.here .loneSurrogate rest)
    else if isHighSurrogate n then readPaired n rest
    else .ok (Char.ofNat n, rest)

/-- The character of a short escape. -/
def shortEscape? (b : UInt8) : Option Char :=
  if b = 0x22 then some '"'
  else if b = 0x5C then some '\\'
  else if b = 0x2F then some '/'
  else if b = 0x62 then some '\x08'
  else if b = 0x66 then some '\x0c'
  else if b = 0x6E then some '\n'
  else if b = 0x72 then some '\r'
  else if b = 0x74 then some '\t'
  else none

/-- Reads an escape after its backslash. -/
def readEscape : Reader Char
  | [] => .error (.here .endInText [])
  | b :: rest =>
    if b = 0x75 then readUnicodeEscape rest
    else match shortEscape? b with
      | some c => .ok (c, rest)
      | none => .error (.here .badEscape rest)

/-- Reads up to the closing quote, after the bytes `done`, latest first. Each turn takes at least
one byte, so a text bounds the turns by itself. -/
def readTextBytes (done : Bytes) : (bound : Bytes) → Reader Bytes
  | _, [] => .error (.here .endInText [])
  | [], _ => .error (.here .endInText [])
  | _ :: bound, b :: rest =>
    if b = 0x22 then .ok (done.reverse, rest)
    else if b = 0x5C then
      match readEscape rest with
      | .error f => .error f
      | .ok (c, rest) => readTextBytes ((String.utf8EncodeChar c).reverse ++ done) bound rest
    else if b < 0x20 then .error (.here .controlCharacter rest)
    else readTextBytes (b :: done) bound rest

/-- Reads a text after its opening quote. What is not UTF-8 is refused once the closing quote has
been found; the place of the fault is counted back from there, by the bytes of the text from the
first one at fault on. An escape counts as the bytes of its character. -/
def readTextTail (s : Bytes) : Except Fault (String × Bytes) :=
  match readTextBytes [] s s with
  | .error f => .error f
  | .ok (bytes, rest) =>
    match Text.ofBytes? bytes with
    | some t => .ok (t, rest)
    | none =>
      .error { cause := .badUnicode, left := rest.length + (bytes.length - Text.validLength bytes) }

/-! ## Passing over a text -/

/-- Passes over an escape after its backslash; surrogates need not be paired. -/
def skipEscape : Bytes → Except Fault Bytes
  | [] => .error (.here .endInText [])
  | b :: rest =>
    if b = 0x75 then (readQuad rest).map (·.2)
    else if (shortEscape? b).isSome then .ok rest
    else .error (.here .badEscape rest)

/-- Passes over a text after its opening quote; it need not be UTF-8. -/
def skipText : (bound : Bytes) → Bytes → Except Fault Bytes
  | _, [] => .error (.here .endInText [])
  | [], _ => .error (.here .endInText [])
  | _ :: bound, b :: rest =>
    if b = 0x22 then .ok rest
    else if b = 0x5C then
      match skipEscape rest with
      | .error f => .error f
      | .ok rest => skipText bound rest
    else if b < 0x20 then .error (.here .controlCharacter (b :: rest))
    else skipText bound rest

end AnalysisGateway.Json
