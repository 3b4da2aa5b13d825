import AnalysisGateway.Number.Binary
import AnalysisGateway.Number.Numeral

/-!
# Decimal texts of binary numbers

Writing and reading binary floating-point numbers as decimals.

* A number is written with the fewest digits that read back as the same number; of the decimals
  with that many digits the nearest one, and of two equally near the one that a `Tie` says.
* A decimal is read as the number nearest to it. Besides digits with an optional point and an
  optional exponent, the words `inf`, `infinity` and `nan` are read in any case.

Where the point stands, when an exponent is written and which of two equally near decimals is taken
is a matter of style: a `RealStyle` says it.
-/

namespace AnalysisGateway

/-- The number `digits · 10 ^ exponent`. -/
structure Decimal where
  digits : Nat
  exponent : Int
  deriving DecidableEq, Repr

namespace Decimal

/-! ## Fewest digits -/

/-- The numbers that round to a binary number, in quarters of its last place `2 ^ power`: from
`low` to `high` around `value`, ends included or not. -/
structure Interval where
  low : Nat
  value : Nat
  high : Nat
  closed : Bool
  power : Int

/-- The interval of `m · 2 ^ q`. Below a power of two the numbers lie twice as dense. -/
def interval (l : Binary.Layout) (m : Nat) (q : Int) : Interval :=
  let denser := m = Nat.pow 2 l.fraction ∧ l.leastPower < q
  ⟨4 * m - (if denser then 1 else 2), 4 * m, 4 * m + 2, m % 2 = 0, q - 2⟩

/-- Whether `d · 10 ^ e` lies in the interval. -/
def Interval.holds (i : Interval) (d : Nat) (e : Int) : Bool :=
  let (n, k) := if 0 ≤ e then (d * Nat.pow 10 e.toNat, 1) else (d, Nat.pow 10 (-e).toNat)
  -- compare `n / k` with `x · 2 ^ power`
  let (a, b) := Binary.shiftRatio n k (-i.power)
  if i.closed then i.low * b ≤ a && a ≤ i.high * b else i.low * b < a && a < i.high * b

/-- The value of the interval in units of `10 ^ e`, as a ratio. -/
def Interval.scaled (i : Interval) (e : Int) : Nat × Nat :=
  let (n, k) := Binary.shiftRatio i.value 1 i.power
  if 0 ≤ e then (n, k * Nat.pow 10 e.toNat) else (n * Nat.pow 10 (-e).toNat, k)

/-- Which of two equally near neighbours is taken. -/
inductive Tie where
  | even
  | upper
  deriving DecidableEq, Repr

/-- Whether the lower neighbour `d` is taken. -/
def Tie.takesLower (tie : Tie) (d : Nat) : Bool := tie = .even && d % 2 = 0

/-- The decimal of the interval on the grid of `10 ^ e`, if one of the value's two neighbours on
that grid lies in it; of both, the nearer. -/
def Interval.onGrid? (tie : Tie) (i : Interval) (e : Int) : Option Decimal :=
  let (n, k) := i.scaled e
  let d := n / k
  match i.holds d e && d != 0, i.holds (d + 1) e with
  | true, true =>
    let twice := 2 * (n % k)
    some ⟨if twice < k ∨ (twice = k ∧ tie.takesLower d) then d else d + 1, e⟩
  | true, false => some ⟨d, e⟩
  | false, true => some ⟨d + 1, e⟩
  | false, false => none

/-- The exponent of the first digit of a positive ratio: the greatest `k` with
`10 ^ k ≤ num / den`, searched downward from `start`. -/
def leadingExponent (num den : Nat) : Nat → Int → Int
  | 0, start => start
  | fuel + 1, start =>
    let (n, d) := if 0 ≤ start then (num, den * Nat.pow 10 start.toNat)
      else (num * Nat.pow 10 (-start).toNat, den)
    if d ≤ n then start else leadingExponent num den fuel (start - 1)

/-- The first grid that holds a decimal of the interval, from coarse to fine. -/
def Interval.search (tie : Tie) (i : Interval) : Nat → Int → Decimal
  | 0, e => ⟨((i.scaled e).1 / (i.scaled e).2), e⟩
  | fuel + 1, e =>
    match i.onGrid? tie e with
    | some d => d
    | none => i.search tie fuel (e - 1)

/-- A decimal without trailing zeros. -/
def normalize : Nat → Decimal → Decimal
  | 0, d => d
  | fuel + 1, d =>
    if d.digits % 10 = 0 ∧ d.digits ≠ 0 then normalize fuel ⟨d.digits / 10, d.exponent + 1⟩ else d

/-- The decimal with the fewest digits that reads back as `m · 2 ^ q`, for a positive `m`. -/
def shortest (l : Binary.Layout) (tie : Tie) (m : Nat) (q : Int) : Decimal :=
  let i := interval l m q
  let (num, den) := Binary.shiftRatio m 1 q
  -- `n.log2 · 0.30103` is at least the decimal exponent less one
  let guess : Int := ((num.log2 : Int) - den.log2) * 30103 / 100000 + 1
  let first := leadingExponent num den 4 guess
  normalize 20 (i.search tie 17 first)

/-! ## Style -/

/-- How a number is written, and when with an exponent. -/
structure RealStyle where
  /-- The least exponent of the first digit that is written without an exponent. -/
  leastPositional : Int
  /-- The least exponent of the first digit that is written with one again. -/
  leastScientific : Int
  /-- Whether a positive exponent has a sign. -/
  plusSign : Bool
  tie : Tie
  deriving DecidableEq, Repr

/-- The decimal digits of a number. -/
def digitChars (n : Nat) : List Char := Nat.toDigits 10 n

/-- The text of an exponent. -/
def exponentChars (style : RealStyle) (e : Int) : List Char :=
  'e' :: (if e < 0 then ['-'] else if style.plusSign then ['+'] else []) ++ digitChars e.natAbs

/-- A decimal with a point, and at least one digit on both sides of it. -/
def positional (d : Decimal) : List Char :=
  let ds := digitChars d.digits
  let count : Int := ds.length
  if 0 ≤ d.exponent then ds ++ List.replicate d.exponent.toNat '0' ++ ['.', '0']
  else if 0 < count + d.exponent then
    let whole := (count + d.exponent).toNat
    ds.take whole ++ ['.'] ++ ds.drop whole
  else ['0', '.'] ++ List.replicate (-(count + d.exponent)).toNat '0' ++ ds

/-- A decimal with one digit before the point, if there are more, and an exponent. -/
def scientific (style : RealStyle) (d : Decimal) : List Char :=
  match digitChars d.digits with
  | [] => []
  | c :: more =>
    c :: (if more.isEmpty then [] else '.' :: more)
      ++ exponentChars style (d.exponent + more.length)

/-- The text of a positive decimal. -/
def chars (style : RealStyle) (d : Decimal) : List Char :=
  let first := d.exponent + (digitChars d.digits).length - 1
  if style.leastPositional ≤ first ∧ first < style.leastScientific then positional d
  else scientific style d

/-- The text of a finite magnitude. -/
def magnitudeChars (l : Binary.Layout) (style : RealStyle) (m : Nat) (q : Int) : List Char :=
  if m = 0 then ['0', '.', '0'] else chars style (shortest l style.tie m q)

/-! ## Reading -/

/-- Why a text is no number. -/
inductive Fault where
  | empty
  | invalid
  deriving DecidableEq, Repr

/-- The wording of a fault. -/
def Fault.message : Fault → String
  | .empty => "cannot parse float from empty string"
  | .invalid => "invalid float literal"

/-- The digits at the front of a text, as a number after `value`, with their count, and the
rest. -/
def takeDigits (value count : Nat) : List Char → Nat × Nat × List Char
  | [] => (value, count, [])
  | c :: rest =>
    match Numeral.digit? c with
    | some d => takeDigits (value * 10 + d) (count + 1) rest
    | none => (value, count, c :: rest)

/-- The exponent that a text writes, if it writes nothing else. -/
def exponent? : List Char → Option Int
  | [] => some 0
  | c :: rest =>
    if c = 'e' ∨ c = 'E' then
      let (negative, ds) := match rest with
        | '-' :: ds => (true, ds)
        | '+' :: ds => (false, ds)
        | ds => (false, ds)
      match takeDigits 0 0 ds with
      | (_, 0, _) => none
      | (e, _, []) => some (if negative then -(e : Int) else e)
      | _ => none
    else none

/-- The decimal that an unsigned text writes, and the count of its digits. -/
def unsigned? (s : List Char) : Option (Decimal × Nat) :=
  let (whole, count, rest) := takeDigits 0 0 s
  let (digits, total, rest) := match rest with
    | '.' :: fraction => takeDigits whole count fraction
    | _ => (whole, count, rest)
  if total = 0 then none
  else (exponent? rest).map fun e => (⟨digits, e - (total - count : Nat)⟩, total)

/-- The pattern nearest to a decimal of at most `count` digits. Beyond the layout's reach in
either direction the value is settled without writing out the power of ten. -/
def toBits (l : Binary.Layout) (d : Decimal) (count : Nat) : Nat :=
  if d.digits = 0 then 0
  else if Nat.pow 2 l.exponent < d.exponent then l.infinity
  else if d.exponent + count < -(Nat.pow 2 l.exponent : Int) then 0
  else if 0 ≤ d.exponent then l.ofNat (d.digits * Nat.pow 10 d.exponent.toNat)
  else l.ofRatio d.digits (Nat.pow 10 (-d.exponent).toNat)

/-- The pattern that an unsigned text writes, words included. -/
def unsignedBits? (l : Binary.Layout) (s : List Char) : Option Nat :=
  let word := s.map Char.toLower
  if word = "nan".toList then some l.notANumber
  else if word = "inf".toList ∨ word = "infinity".toList then some l.infinity
  else (unsigned? s).map fun (d, count) => toBits l d count

/-- The pattern that a text writes. -/
def read (l : Binary.Layout) (s : String) : Except Fault Nat :=
  let (negative, rest) := match s.toList with
    | '-' :: rest => (true, rest)
    | '+' :: rest => (false, rest)
    | rest => (false, rest)
  if s.isEmpty then .error .empty
  else match unsignedBits? l rest with
    | some bits => .ok (l.withSign negative bits)
    | none => .error .invalid

end Decimal

end AnalysisGateway
