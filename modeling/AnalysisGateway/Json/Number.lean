import AnalysisGateway.Json.Fault

/-!
# JSON numbers

A number without point and exponent is an integer as long as it fits 64 bits: below `2 ^ 64`, or
down to `-2 ^ 63`. Every other number, and `-0`, is a double. A double is not the nearest one to the
decimal: the leading digits, as many as stay below `2 ^ 64`, are rounded to a double, which is then
multiplied or divided by a power of ten.
-/

namespace AnalysisGateway.Json

/-- A number as it was written. -/
inductive Number where
  | natural (n : Nat)
  /-- The number `-n`. -/
  | negative (n : Nat)
  /-- A double, as its pattern. -/
  | real (bits : Nat)
  deriving DecidableEq, Repr

/-- The number as a found value. -/
def Number.found : Number → Found
  | .natural n => .natural n
  | .negative n => .negative n
  | .real bits => .real bits

/-- The value of an ASCII digit. -/
def digit? (b : UInt8) : Option Nat :=
  if 0x30 ≤ b ∧ b ≤ 0x39 then some (b.toNat - 0x30) else none

/-- Whether a byte is an ASCII digit. -/
def isDigit (b : UInt8) : Bool := (digit? b).isSome

/-- The text without the digits in front. -/
def skipDigits (s : Bytes) : Bytes := s.dropWhile isDigit

namespace Number

/-- The digits of an integer: their value as long as it stays below `2 ^ 64`, and how many more
there are. -/
def wholeDigits (significand dropped : Nat) : Bytes → Nat × Nat × Bytes
  | [] => (significand, dropped, [])
  | b :: rest =>
    match digit? b with
    | some d =>
      if dropped = 0 ∧ significand * 10 + d < Nat.pow 2 64 then
        wholeDigits (significand * 10 + d) 0 rest
      else wholeDigits significand (dropped + 1) rest
    | none => (significand, dropped, b :: rest)

/-- The digits of a fraction: those that keep the value below `2 ^ 64`, with their count. -/
def fractionDigits (significand taken : Nat) : Bytes → Nat × Nat × Bytes
  | [] => (significand, taken, [])
  | b :: rest =>
    match digit? b with
    | some d =>
      if significand * 10 + d < Nat.pow 2 64 then
        fractionDigits (significand * 10 + d) (taken + 1) rest
      else (significand, taken, skipDigits rest)
    | none => (significand, taken, b :: rest)

/-- `f · 10 ^ e` in doubles, where powers beyond 308 are divided out in steps; none above the
greatest double. -/
def scale : (fuel : Nat) → (f : Nat) → (e : Int) → Option Nat
  | 0, f, _ => some f
  | fuel + 1, f, e =>
    if e.natAbs ≤ 308 then
      let power := Binary.double.ofNat (Nat.pow 10 e.natAbs)
      if 0 ≤ e then
        let g := Binary.double.mul f power
        if g = Binary.double.infinity then none else some g
      else some (Binary.double.div f power)
    else if f = 0 then some 0
    else if 0 ≤ e then none
    else scale fuel (Binary.double.div f (Binary.double.ofNat (Nat.pow 10 308))) (e + 308)

/-- The double of a significand and an exponent; three steps bring any significand to zero. -/
def ofParts (negative : Bool) (significand : Nat) (exponent : Int) (rest : Bytes) :
    Except Fault (Number × Bytes) :=
  match scale 4 (Binary.double.ofNat significand) exponent with
  | some bits => .ok (.real (Binary.double.withSign negative bits), rest)
  | none => .error (.here .numberOutOfRange rest)

/-- The greatest exponent that is read. -/
def greatestExponent : Nat := Nat.pow 2 31 - 1

/-- The digits of an exponent after those that gave `value`; beyond the greatest exponent `none`
and the text after the digit that went too far. -/
def exponentDigits (value : Nat) : Bytes → Option Nat × Bytes
  | [] => (some value, [])
  | b :: rest =>
    match digit? b with
    | some d =>
      if value * 10 + d ≤ greatestExponent then exponentDigits (value * 10 + d) rest
      else (none, rest)
    | none => (some value, b :: rest)

/-- An exponent, after its `e`. -/
def readExponent (negative : Bool) (significand : Nat) (start : Int) (s : Bytes) :
    Except Fault (Number × Bytes) :=
  let (down, s) := match s with
    | 0x2B :: rest => (false, rest)
    | 0x2D :: rest => (true, rest)
    | rest => (false, rest)
  match s with
  | [] => .error (.here .endInValue [])
  | b :: rest =>
    match digit? b with
    | none => .error (.here .badNumber rest)
    | some d =>
      match exponentDigits d rest with
      | (some e, rest) => ofParts negative significand (if down then start - e else start + e) rest
      | (none, rest) =>
        if significand ≠ 0 ∧ !down then .error (.here .numberOutOfRange rest)
        else .ok (.real (Binary.double.withSign negative 0), skipDigits rest)

/-- A fraction, after its point. -/
def readFraction (negative : Bool) (significand : Nat) (start : Int) (s : Bytes) :
    Except Fault (Number × Bytes) :=
  match s with
  | [] => .error (.peek .endInValue [])
  | b :: _ =>
    if isDigit b then
      let (significand, taken, rest) := fractionDigits significand 0 s
      let exponent := start - taken
      match rest with
      | 0x65 :: rest | 0x45 :: rest => readExponent negative significand exponent rest
      | rest => ofParts negative significand exponent rest
    else .error (.peek .badNumber s)

/-- An integer of 64 bits, or the double nearest to it. -/
def ofWhole (negative : Bool) (n : Nat) : Number :=
  if !negative then .natural n
  else if n = 0 ∨ Nat.pow 2 63 < n then
    .real (Binary.double.withSign true (Binary.double.ofNat n))
  else .negative n

/-- What follows the integer digits. -/
def readTail (negative : Bool) (significand dropped : Nat) : Bytes → Except Fault (Number × Bytes)
  | 0x2E :: rest => readFraction negative significand dropped rest
  | 0x65 :: rest | 0x45 :: rest => readExponent negative significand dropped rest
  | rest =>
    if dropped = 0 then .ok (ofWhole negative significand, rest)
    else ofParts negative significand dropped rest

/-- Reads a number after its sign. -/
def read (negative : Bool) : Reader Number
  | [] => .error (.here .endInValue [])
  | b :: rest =>
    match digit? b with
    | none => .error (.here .badNumber rest)
    | some 0 =>
      match rest with
      | c :: _ => if isDigit c then .error (.peek .badNumber rest) else readTail negative 0 0 rest
      | [] => readTail negative 0 0 []
    | some d =>
      let (significand, dropped, rest) := wholeDigits d 0 rest
      readTail negative significand dropped rest

/-! ## Passing over a number -/

/-- Passes over an exponent, after its `e`. -/
def skipExponent (s : Bytes) : Except Fault Bytes :=
  let s := match s with
    | 0x2B :: rest | 0x2D :: rest => rest
    | rest => rest
  match s with
  | [] => .error (.here .badNumber [])
  | b :: rest => if isDigit b then .ok (skipDigits rest) else .error (.here .badNumber rest)

/-- Passes over what follows the digits before a possible exponent. -/
def skipTail : Bytes → Except Fault Bytes
  | 0x65 :: rest | 0x45 :: rest => skipExponent rest
  | rest => .ok rest

/-- Passes over what follows the integer digits. -/
def skipFraction : Bytes → Except Fault Bytes
  | 0x2E :: rest =>
    match rest with
    | b :: _ => if isDigit b then skipTail (skipDigits rest) else .error (.peek .badNumber rest)
    | [] => .error (.peek .badNumber [])
  | rest => skipTail rest

/-- Passes over a number after its sign. -/
def skip : Bytes → Except Fault Bytes
  | [] => .error (.here .badNumber [])
  | 0x30 :: rest =>
    match rest with
    | c :: _ => if isDigit c then .error (.peek .badNumber rest) else skipFraction rest
    | [] => .ok []
  | b :: rest =>
    if isDigit b then skipFraction (skipDigits rest) else .error (.here .badNumber rest)

end Number

end AnalysisGateway.Json
