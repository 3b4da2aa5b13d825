import AnalysisGateway.Number.Numeral

/-!
# Punycode

Texts as ASCII: the ASCII characters, a hyphen, and for the others, in the order of their code
points, how many insertions are passed over before each of them, as numbers with variable digits.
-/

namespace AnalysisGateway.Url

namespace Punycode

/-- A digit of base 36: a letter or, from 26 on, a decimal digit. -/
def digitChar (d : Nat) : Char :=
  if d < 26 then Char.ofNat ('a'.toNat + d) else Char.ofNat ('0'.toNat + (d - 26))

/-- The value of a digit. -/
def digitValue? (c : Char) : Option Nat :=
  if 'a' ≤ c ∧ c ≤ 'z' then some (c.toNat - 'a'.toNat)
  else if '0' ≤ c ∧ c ≤ '9' then some (c.toNat - '0'.toNat + 26)
  else none

/-- The least digit that is not the last one, at the place `k` of a number. -/
def threshold (bias k : Nat) : Nat := min 26 (max 1 (k - bias))

/-- Divides by 35 until a number is at most 455; counts places by 36. -/
def shrink (delta k : Nat) : Nat × Nat :=
  if h : 455 < delta then shrink (delta / 35) (k + 36) else (delta, k)
termination_by delta
decreasing_by omega

/-- The bias after the number `delta`, when `count` characters are placed. -/
def adapt (delta count : Nat) (first : Bool) : Nat :=
  let delta := if first then delta / 700 else delta / 2
  let (delta, k) := shrink (delta + delta / count) 0
  k + 36 * delta / (delta + 38)

/-- A number with variable digits. There are no more digits than bits. -/
def writeNumber (bias : Nat) : (fuel : Nat) → (k n : Nat) → List Char
  | 0, _, _ => []
  | fuel + 1, k, n =>
    let t := threshold bias k
    if n < t then [digitChar n]
    else digitChar (t + (n - t) % (36 - t)) :: writeNumber bias fuel (k + 36) ((n - t) / (36 - t))

/-- How far a label has been written: insertions passed over, bias, characters placed. -/
structure Progress where
  written : List Char
  delta : Nat
  bias : Nat
  placed : Nat

/-- Passes a character of the label while those of code point `n` are placed. -/
def pass (ascii n : Nat) (p : Progress) (c : Char) : Progress :=
  if c.toNat < n then { p with delta := p.delta + 1 }
  else if c.toNat = n then
    { written := p.written ++ writeNumber p.bias (p.delta + 2).log2.succ 36 p.delta
      delta := 0
      bias := adapt p.delta (p.placed + 1) (p.placed == ascii)
      placed := p.placed + 1 }
  else p

/-- Places the characters of each code point in turn; `next` is the least one not yet passed. -/
def placeAll (label : List Char) (ascii : Nat) : (next : Nat) → List Nat → Progress → Progress
  | _, [], p => p
  | next, n :: more, p =>
    let p := { p with delta := p.delta + (n - next) * (p.placed + 1) }
    let p := label.foldl (pass ascii n) p
    placeAll label ascii (n + 1) more { p with delta := p.delta + 1 }

/-- The Punycode form of a label. -/
def encode (label : List Char) : List Char :=
  let ascii := label.filter (·.toNat < 0x80)
  let others := ((label.filter (0x80 ≤ ·.toNat)).map Char.toNat).mergeSort.eraseDups
  (if ascii.isEmpty then [] else ascii ++ ['-'])
    ++ (placeAll label ascii.length 0x80 others ⟨[], 0, 72, ascii.length⟩).written

/-- Reads a number with variable digits and adds it to `n`. The sum and the weights of all digits
must stay below `2 ^ 32`. -/
def readNumber (bias : Nat) : (k weight n : Nat) → List Char → Option (Nat × List Char)
  | _, _, _, [] => none
  | k, weight, n, c :: rest => do
    let d ← digitValue? c
    let t := threshold bias k
    let n := n + d * weight
    if Nat.pow 2 32 ≤ n ∨ Nat.pow 2 32 ≤ weight then none
    else if d < t then return (n, rest)
    else readNumber bias (k + 36) (weight * (36 - t)) n rest

/-- Inserts characters into `label`, as long as there are numbers. -/
def insertAll (label : List Char) (n i bias : Nat) (first : Bool) : (bound : List Char) →
    List Char → Option (List Char)
  | _, [] => some label
  | [], _ => none
  | _ :: bound, s => do
    let (j, rest) ← readNumber bias 36 1 i s
    let count := label.length + 1
    let n := n + j / count
    let place := j % count
    if 0x10FFFF < n ∨ (0xD800 ≤ n ∧ n ≤ 0xDFFF) then none
    else
      let label := label.take place ++ Char.ofNat n :: label.drop place
      insertAll label n (place + 1) (adapt (j - i) count first) false bound rest

/-- The label of a Punycode form. -/
def decode (s : List Char) : Option (List Char) :=
  let reversed := s.reverse
  let ascii := ((reversed.dropWhile (· != '-')).drop 1).reverse
  let numbers := (reversed.takeWhile (· != '-')).reverse
  insertAll ascii 0x80 0 72 true numbers numbers

end Punycode

end AnalysisGateway.Url
