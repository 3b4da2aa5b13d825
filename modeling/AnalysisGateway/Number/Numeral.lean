/-!
# Unsigned numerals

Reading a number of a fixed width from its decimal text. The rule:

1. one `+` may stand in front, and then at least one digit `0` to `9` follows, and nothing else;
2. the value is below `2 ^ width`; leading zeros are free.

A text is read from left to right, so of two faults the earlier one is reported; a character that
is no digit comes before an overflow at the same place.

Powers are written `Nat.pow`, here and in the other definitions: what `^` stands for between numbers
depends on what is imported.
-/

namespace AnalysisGateway

/-- Why a text is no numeral of the width asked for. -/
inductive NumeralFault where
  | empty
  | badDigit
  | tooLarge
  deriving DecidableEq, Repr

/-- The wording of a fault. -/
def NumeralFault.message : NumeralFault → String
  | .empty => "cannot parse integer from empty string"
  | .badDigit => "invalid digit found in string"
  | .tooLarge => "number too large to fit in target type"

namespace Numeral

/-- The value of a decimal digit. -/
def digit? (c : Char) : Option Nat :=
  if '0' ≤ c ∧ c ≤ '9' then some (c.toNat - '0'.toNat) else none

/-- Reads digits after those that gave `value`, keeping the value below `limit`. -/
def readDigits (limit : Nat) (value : Nat) : List Char → Except NumeralFault Nat
  | [] => .ok value
  | c :: rest =>
    match digit? c with
    | none => .error .badDigit
    | some d => if value * 10 + d < limit then readDigits limit (value * 10 + d) rest
      else .error .tooLarge

/-- The number below `2 ^ width` that a text writes. -/
def readChars (width : Nat) (s : List Char) : Except NumeralFault Nat :=
  match s with
  | [] => .error .empty
  | ['+'] => .error .badDigit
  | '+' :: rest => readDigits (Nat.pow 2 width) 0 rest
  | _ => readDigits (Nat.pow 2 width) 0 s

/-- `readChars` on strings. -/
def read (width : Nat) (s : String) : Except NumeralFault Nat := readChars width s.toList

end Numeral

end AnalysisGateway
