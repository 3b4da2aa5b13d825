import AnalysisGateway.Text.Split

/-!
# Tables of characters

Tables that give a text for each of many characters, and a compact notation for them. A row is a
hexadecimal code point and items after it, with spaces between them; an item speaks of the next
character in turn. It names its text by code points with points between them. An item `t*n` gives
the same text for `n` characters, and `t+n` gives single characters that rise from `t` on. Rows may
stand on one line with semicolons between them.
-/

namespace AnalysisGateway.Text

/-- Consecutive characters that have the same text, or single characters in the same order. -/
structure Run where
  first : Nat
  count : Nat
  /-- Whether the text of each next character is the next character. -/
  rising : Bool
  target : List Nat
  deriving DecidableEq, Repr

namespace Run

/-- Whether a code point is one of the run. -/
def covers (r : Run) (n : Nat) : Bool := r.first ≤ n && n < r.first + r.count

/-- The text of a code point of the run. -/
def image (r : Run) (n : Nat) : List Char :=
  r.target.map fun t => Char.ofNat (if r.rising then t + (n - r.first) else t)

end Run

/-- A table, as runs in the order of their characters, none of which is in two runs. -/
abbrev CharTable := List Run

namespace CharTable

/-- The text of a character. The runs from the first one beyond the character on are not looked
at. -/
def find? (table : CharTable) (c : Char) : Option (List Char) :=
  match table with
  | [] => none
  | r :: more =>
    if r.covers c.toNat then some (r.image c.toNat)
    else if c.toNat < r.first then none
    else find? more c

/-- The first character that has this text. -/
def preimage? (table : CharTable) (text : List Char) : Option Char :=
  let target := text.map Char.toNat
  (List.find? (·.target == target) table).map fun r => Char.ofNat r.first

/-! ## Notation -/

/-- The number that hexadecimal digits write. -/
def readHex (s : List Char) : Nat :=
  let digit (c : Char) := if c ≤ '9' then c.toNat - '0'.toNat else c.toNat - 'a'.toNat + 10
  s.foldl (fun n c => 16 * n + digit c) 0

/-- Reads an item for characters from `first` on. -/
def readItem (first : Nat) (s : List Char) : Run :=
  let target (s : List Char) := (split '.' s).map readHex
  match cut '*' s, cut '+' s with
  | (t, some n), _ => ⟨first, readHex n, false, target t⟩
  | _, (t, some n) => ⟨first, readHex n, true, target t⟩
  | _, _ => ⟨first, 1, false, target s⟩

/-- Reads the items of a row. -/
def readItems (first : Nat) : List (List Char) → List Run
  | [] => []
  | item :: more =>
    let run := readItem first item
    run :: readItems (first + run.count) more

/-- Reads a row. -/
def readRow (s : List Char) : List Run :=
  match split ' ' s with
  | [] => []
  | first :: items => readItems (readHex first) items

/-- Reads lines of rows. -/
def read (lines : List String) : CharTable :=
  lines.flatMap fun line => (split ';' line.toList).flatMap readRow

end CharTable

end AnalysisGateway.Text
