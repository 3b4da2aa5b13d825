import AnalysisGateway.Json.Text

/-!
# Writing JSON

Compact texts: no white space, members in the order given. A part is written first and then put
into the whole, so every function here takes written parts.
-/

namespace AnalysisGateway.Json

/-- Written parts with commas between them. -/
def separated : List (List Char) → List Char
  | [] => []
  | [part] => part
  | part :: parts => part ++ ',' :: separated parts

/-- A list of written elements. -/
def writtenList (items : List (List Char)) : List Char := '[' :: separated items ++ [']']

/-- An object of named, written members. -/
def writtenObject (members : List (String × List Char)) : List Char :=
  '\x7b' :: separated (members.map fun (name, value) =>
    writtenText name.toList ++ ':' :: value) ++ ['\x7d']

/-- A string. -/
def writtenString (s : String) : List Char := writtenText s.toList

/-- A natural number. -/
def writtenNatural (n : Nat) : List Char := Nat.toDigits 10 n

/-- A single, or null if it is infinite or not a number. -/
def writtenSingle (bits : Nat) : List Char := realChars Binary.single singleStyle bits

end AnalysisGateway.Json
