import AnalysisGateway.Text.Printable

/-!
# Quoted texts

A text between double quotes, on one line and without invisible characters: NUL, tab, line feed,
carriage return, the backslash and the double quote have a short escape, and every other character
that is not printable is written as its code point in hexadecimal, `\u{…}`.
-/

namespace AnalysisGateway.Text

/-- The hexadecimal digits of a number, in lower case and without leading zeros. -/
def hexDigits (n : Nat) : List Char := Nat.toDigits 16 n

/-- How a character is written between quotes. -/
def quotedChar (c : Char) : List Char :=
  match c with
  | '\x00' => ['\\', '0']
  | '\t' => ['\\', 't']
  | '\n' => ['\\', 'n']
  | '\r' => ['\\', 'r']
  | '\\' => ['\\', '\\']
  | '"' => ['\\', '"']
  | c => if isPrintable c then [c] else ['\\', 'u', '\x7b'] ++ hexDigits c.toNat ++ ['\x7d']

/-- The quoted form of a text. -/
def quotedChars (s : List Char) : List Char := '"' :: s.flatMap quotedChar ++ ['"']

/-- `quotedChars` on strings. -/
def quoted (s : String) : String := String.ofList (quotedChars s.toList)

end AnalysisGateway.Text
