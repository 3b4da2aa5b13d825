import AnalysisGateway.Number.Numeral

/-!
# Binary floating-point numbers

Numbers of the interchange layouts, as bit patterns, with exact arithmetic behind them: a finite
pattern stands for `m · 2 ^ q`, and the pattern of a ratio is the nearest one, the even one of two
equally near. Patterns of non-negative numbers grow with the numbers, so the pattern of `m · 2 ^ q`
is `m` plus `q`'s distance from the least power in units of `2 ^ fraction`, for normal and
subnormal numbers alike.
-/

namespace AnalysisGateway.Binary

/-- A layout: the bits of the fraction and the bits of the exponent. -/
structure Layout where
  fraction : Nat
  exponent : Nat
  deriving DecidableEq, Repr

/-- 32 bits. -/
def single : Layout := ⟨23, 8⟩

/-- 64 bits. -/
def double : Layout := ⟨52, 11⟩

/-- What a pattern without its sign stands for. -/
inductive Magnitude where
  /-- `significand · 2 ^ power` -/
  | finite (significand : Nat) (power : Int)
  | infinite
  | notANumber
  deriving DecidableEq, Repr

/-- The quotient rounded to the nearest number, a half to the even neighbour. -/
def roundDiv (num den : Nat) : Nat :=
  let low := num / den
  let twice := 2 * (num % den)
  if den < twice ∨ (twice = den ∧ low % 2 = 1) then low + 1 else low

/-- `num / den · 2 ^ shift` as a ratio. -/
def shiftRatio (num den : Nat) (shift : Int) : Nat × Nat :=
  if 0 ≤ shift then (num * Nat.pow 2 shift.toNat, den) else (num, den * Nat.pow 2 (-shift).toNat)

namespace Layout

variable (l : Layout)

/-- The power of two in the last place of the smallest numbers. -/
def leastPower : Int := 2 - Nat.pow 2 (l.exponent - 1) - (l.fraction : Int)

/-- The pattern of infinity. -/
def infinity : Nat := (Nat.pow 2 l.exponent - 1) * Nat.pow 2 l.fraction

/-- The pattern used for all results that are not a number. -/
def notANumber : Nat := l.infinity + Nat.pow 2 (l.fraction - 1)

/-- The value of the sign bit. -/
def signBit : Nat := Nat.pow 2 (l.fraction + l.exponent)

/-- A pattern with a sign. -/
def withSign (negative : Bool) (magnitude : Nat) : Nat :=
  if negative then l.signBit + magnitude else magnitude

/-- Whether the sign bit is set. -/
def isNegative (bits : Nat) : Bool := l.signBit ≤ bits

/-- The pattern without its sign. -/
def magnitudeBits (bits : Nat) : Nat := bits % l.signBit

/-- What a pattern stands for, apart from its sign. -/
def magnitude (bits : Nat) : Magnitude :=
  let b := l.magnitudeBits bits
  let e := b / Nat.pow 2 l.fraction
  let f := b % Nat.pow 2 l.fraction
  if e = 0 then .finite f l.leastPower
  else if e = Nat.pow 2 l.exponent - 1 then (if f = 0 then .infinite else .notANumber)
  else .finite (f + Nat.pow 2 l.fraction) (l.leastPower + e - 1)

/-- The exponent of the greatest power of two that is at most `num / den`, both positive. -/
def log2Ratio (num den : Nat) : Int :=
  let k : Int := (num.log2 : Int) - den.log2
  let (n, d) := shiftRatio num den (-k)
  if n < d then k - 1 else k

/-- The pattern nearest to `num / den`, for a positive `den`. -/
def ofRatio (num den : Nat) : Nat :=
  if num = 0 then 0
  else
    let power := max (log2Ratio num den - l.fraction) l.leastPower
    let (n, d) := shiftRatio num den (-power)
    min (roundDiv n d + (power - l.leastPower).toNat * Nat.pow 2 l.fraction) l.infinity

/-- The pattern nearest to a natural number. -/
def ofNat (n : Nat) : Nat := l.ofRatio n 1

/-- The ratio that a finite magnitude stands for. -/
def ratio (significand : Nat) (power : Int) : Nat × Nat := shiftRatio significand 1 power

/-- The pattern nearest to the sum of two magnitudes; infinite if one of them is. -/
def add (a b : Nat) : Nat :=
  match l.magnitude a, l.magnitude b with
  | .finite m p, .finite n q =>
    let least := min p q
    let (x, y) := ratio (m * Nat.pow 2 (p - least).toNat + n * Nat.pow 2 (q - least).toNat) least
    l.ofRatio x y
  | _, _ => l.infinity

/-- The pattern nearest to the product of two magnitudes; infinite if one of them is. -/
def mul (a b : Nat) : Nat :=
  match l.magnitude a, l.magnitude b with
  | .finite m p, .finite n q =>
    let (x, y) := ratio (m * n) (p + q)
    l.ofRatio x y
  | _, _ => l.infinity

/-- The pattern nearest to the quotient of two finite magnitudes, the second positive. -/
def div (a b : Nat) : Nat :=
  match l.magnitude a, l.magnitude b with
  | .finite m p, .finite n q =>
    let (x, y) := ratio m (p - q)
    l.ofRatio x (y * n)
  | _, _ => l.infinity

/-- The pattern in layout `l` nearest to a number of another layout. -/
def convert (source : Layout) (bits : Nat) : Nat :=
  l.withSign (source.isNegative bits) <|
    match source.magnitude bits with
    | .finite m p =>
      let (x, y) := ratio m p
      l.ofRatio x y
    | .infinite => l.infinity
    | .notANumber => l.notANumber

end Layout

end AnalysisGateway.Binary
