import AnalysisGateway.Event
import AnalysisGateway.Json.Writer

/-!
# Log lines

An event as a line of text, without the time: as JSON, or plainly. In plain text, controls that a
terminal would obey are made visible.
-/

namespace AnalysisGateway.Log

/-- An event as JSON. -/
def jsonLine (e : Event) : List Char :=
  Json.writtenObject [
    ("level", Json.writtenString e.level.name),
    ("fields", Json.writtenObject
      ((("message", e.message) :: e.fields).map fun (name, value) =>
        (name, Json.writtenString value))),
    ("target", Json.writtenString e.target)]

/-- The controls below U+0080 that are made visible. -/
def shownControls : List Char := ['\x07', '\x08', '\x0c', '\x1b', '\x7f']

/-- A character of a plain line. -/
def shownChar (c : Char) : List Char :=
  if shownControls.contains c then
    ['\\', 'x', Nat.digitChar (c.toNat / 16), Nat.digitChar (c.toNat % 16)]
  else if 0x80 ≤ c.toNat ∧ c.toNat < 0xA0 then
    ['\\', 'u', '\x7b'] ++ Nat.toDigits 16 c.toNat ++ ['\x7d']
  else [c]

/-- An event as plain text. -/
def plainLine (e : Event) : List Char :=
  e.level.name.toList ++ ' ' :: e.target.toList ++ [':', ' ']
    ++ e.message.toList.flatMap shownChar
    ++ e.fields.flatMap fun (name, value) =>
      ' ' :: name.toList ++ '=' :: value.toList.flatMap shownChar

/-- An event as a line. -/
def line (json : Bool) (e : Event) : List Char := if json then jsonLine e else plainLine e

end AnalysisGateway.Log
