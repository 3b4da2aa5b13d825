import AnalysisGateway.Number.Numeral
import AnalysisGateway.Text.Split

/-!
# Numeric hosts

Addresses of 32 and of 128 bits.

* A short address has one to four numbers between points, in base 10, 8 (after `0`) or 16 (after
  `0x`). The last number fills all the bytes that the others leave. It is written as four numbers in
  base 10.
* A long address has eight groups of up to four hexadecimal digits between colons. Once, `::` stands
  for one or more groups of zero, and the last two groups may be a short address in base 10. It is
  written with `::` for the longest run of two or more zeros, the first of equally long ones.
-/

namespace AnalysisGateway.Url

/-- The value of a digit in a base up to 16. -/
def digitValue? (base : Nat) (c : Char) : Option Nat :=
  let value :=
    if '0' ≤ c ∧ c ≤ '9' then c.toNat - '0'.toNat
    else if 'a' ≤ c ∧ c ≤ 'f' then c.toNat - 'a'.toNat + 10
    else if 'A' ≤ c ∧ c ≤ 'F' then c.toNat - 'A'.toNat + 10
    else base
  if value < base then some value else none

/-- The number that digits write. -/
def readBase (base : Nat) (s : List Char) : Option Nat :=
  s.foldl (fun value? c => do return (← value?) * base + (← digitValue? base c)) (some 0)

/-! ## Short addresses -/

/-- The number that a part of a short address writes. -/
def readPart : List Char → Option Nat
  | [] => none
  | '0' :: 'x' :: digits | '0' :: 'X' :: digits => readBase 16 digits
  | ['0'] => some 0
  | '0' :: digits => readBase 8 digits
  | digits => readBase 10 digits

/-- The parts between the points; one point may stand at the end. -/
def addressParts (s : List Char) : List (List Char) :=
  let parts := Text.split '.' s
  if parts.length > 1 ∧ parts.getLast? = some [] then parts.dropLast else parts

/-- Whether a host must be a short address because its last part is a number. -/
def endsInNumber (s : List Char) : Bool :=
  match (addressParts s).getLast? with
  | some part => !part.isEmpty && (part.all Char.isDigit || (readPart part).isSome)
  | none => false

/-- The value of numbers that stand for the bytes of a short address, the last for all the rest. -/
def combineParts : (bytes : Nat) → List Nat → Option Nat
  | bytes, [last] => if last < Nat.pow 256 bytes then some last else none
  | bytes + 1, n :: more => do
    if n < 256 then return n * Nat.pow 256 bytes + (← combineParts bytes more) else none
  | _, _ => none

/-- Reads a short address. -/
def readShort (s : List Char) : Option Nat := do
  combineParts 4 (← (addressParts s).mapM readPart)

/-- The text of a short address. -/
def shortText (n : Nat) : List Char :=
  ['.'].intercalate ([3, 2, 1, 0].map fun i => Nat.toDigits 10 (n / Nat.pow 256 i % 256))

/-! ## Long addresses -/

/-- A byte in base 10 without leading zeros. -/
def readByte (s : List Char) : Option Nat :=
  match s with
  | [] => none
  | '0' :: _ :: _ => none
  | digits => (readBase 10 digits).filter (· < 256)

/-- The two groups that four bytes between points stand for. -/
def readByteGroups (s : List Char) : Option (List Nat) := do
  match ← (Text.split '.' s).mapM readByte with
  | [a, b, c, d] => return [c * 256 + d, a * 256 + b]
  | _ => none

/-- Reads groups after those in `done`, latest first, where `::` counts as a group of zero and `gap`
is the number of groups up to it. -/
def readGroups (done : List Nat) (gap : Option Nat) : (room : Nat) → List Char →
    Option (List Nat × Option Nat)
  | _, [] => some (done, gap)
  | 0, _ => none
  | room + 1, ':' :: rest =>
    if gap.isSome then none else readGroups (0 :: done) (some (done.length + 1)) room rest
  | room + 1, s =>
    let digits := (s.take 4).takeWhile fun c => (digitValue? 16 c).isSome
    let value := (readBase 16 digits).getD 0
    match s.drop digits.length with
    | [] => some (value :: done, gap)
    | ':' :: c :: rest => readGroups (value :: done) gap room (c :: rest)
    | '.' :: _ =>
      if digits.isEmpty ∨ room = 0 then none
      else (readByteGroups s).map fun groups => (groups ++ done, gap)
    | _ => none

/-- Reads a long address. -/
def readLong (s : List Char) : Option (List Nat) := do
  let (done, gap) ← match s with
    | ':' :: ':' :: rest => readGroups [0] (some 1) 7 rest
    | ':' :: _ => none
    | s => readGroups [] none 8 s
  match gap with
  | none => if done.length = 8 then some done.reverse else none
  | some n =>
    let groups := done.reverse
    some (groups.take n ++ List.replicate (8 - groups.length) 0 ++ groups.drop n)

/-- The number of zeros at the front. -/
def leadingZeros (groups : List Nat) : Nat := (groups.takeWhile (· == 0)).length

/-- Where the longest run of zeros begins, and its length; the first of equally long ones. -/
def longestZeros (groups : List Nat) : Nat × Nat :=
  (List.range groups.length).foldl (fun best i =>
    let n := leadingZeros (groups.drop i)
    if best.2 < n then (i, n) else best) (0, 0)

/-- Groups in hexadecimal with colons between them. -/
def groupsText (groups : List Nat) : List Char := [':'].intercalate (groups.map (Nat.toDigits 16))

/-- The text of a long address. -/
def longText (groups : List Nat) : List Char :=
  let (start, length) := longestZeros groups
  if length < 2 then groupsText groups
  else groupsText (groups.take start) ++ [':', ':'] ++ groupsText (groups.drop (start + length))

end AnalysisGateway.Url
