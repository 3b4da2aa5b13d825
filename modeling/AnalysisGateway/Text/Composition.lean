import AnalysisGateway.Text.CompositionTable

/-!
# Canonical composition

The composed form of a text: of all texts that mean the same, the one that spells a letter with its
marks as one character where there is one. A text is taken apart as far as possible, the marks after
each letter are put in the order of their classes, and then every mark joins the letter before it if
the two have a composite and no mark of the same class or of a higher one stands between them.

The syllables of Hangul are composed of their letters by arithmetic.
-/

namespace AnalysisGateway.Text

/-- The class of a combining mark; 0 for characters that are none. -/
def markClass (c : Char) : Nat :=
  match markClasses.find? fun (low, high, _) => low ≤ c.toNat ∧ c.toNat ≤ high with
  | some (_, _, n) => n
  | none => 0

/-! ## Hangul -/

namespace Hangul

/-- The first leading consonant. -/
def leading : Nat := 0x1100

/-- The first vowel. -/
def vowel : Nat := 0x1161

/-- The code point before the first trailing consonant. -/
def trailing : Nat := 0x11A7

/-- The first syllable. -/
def syllable : Nat := 0xAC00

/-- The letters of a syllable. -/
def letters? (c : Char) : Option (List Char) :=
  let n := c.toNat - syllable
  if syllable ≤ c.toNat ∧ n < 19 * 588 then
    let last := if n % 28 = 0 then [] else [Char.ofNat (trailing + n % 28)]
    some (Char.ofNat (leading + n / 588) :: Char.ofNat (vowel + n % 588 / 28) :: last)
  else none

/-- The syllable of two letters, or of a syllable and a trailing consonant. -/
def compose? (a b : Char) : Option Char :=
  let (m, n) := (a.toNat, b.toNat)
  if leading ≤ m ∧ m < leading + 19 ∧ vowel ≤ n ∧ n < vowel + 21 then
    some (Char.ofNat (syllable + (m - leading) * 588 + (n - vowel) * 28))
  else if syllable ≤ m ∧ m < syllable + 19 * 588 ∧ (m - syllable) % 28 = 0
      ∧ trailing < n ∧ n < trailing + 28 then
    some (Char.ofNat (m + (n - trailing)))
  else none

end Hangul

/-! ## Taking apart -/

/-- The spelling of a composite, where `depth` bounds how often its first character is a composite
again. -/
def takeApart : (depth : Nat) → Char → List Char
  | 0, c => [c]
  | depth + 1, c =>
    match composites.find? c with
    | some (first :: more) => takeApart depth first ++ more
    | _ => (respelled.find? c).getD [c]

/-- A character as far apart as possible; at most three marks are taken off. -/
def decomposed (c : Char) : List Char :=
  if c.toNat < 0xC0 then [c] else (Hangul.letters? c).getD (takeApart 4 c)

/-! ## Order -/

/-- Marks in the order of their classes, and as they were within a class. -/
def sortMarks (marks : List Char) : List Char :=
  marks.mergeSort fun c d => markClass c ≤ markClass d

/-- Puts the marks in order; `marks` are the ones just before, the latest one first. -/
def orderFrom (marks : List Char) : List Char → List Char
  | [] => sortMarks marks.reverse
  | c :: rest =>
    if markClass c = 0 then sortMarks marks.reverse ++ c :: orderFrom [] rest
    else orderFrom (c :: marks) rest

/-! ## Putting together -/

/-- The composite of two characters. -/
def compose? (a b : Char) : Option Char := (Hangul.compose? a b).or (composites.preimage? [a, b])

/-- Whether a mark of class `n` cannot reach the letter before the marks in between, the latest one
first. -/
def isBlocked (n : Nat) : (between : List Char) → Bool
  | [] => false
  | d :: _ => n ≤ markClass d

/-- Puts together what follows `letter` and the marks after it that have not joined it, the latest
one first. -/
def joinFrom (letter : Char) (between : List Char) : List Char → List Char
  | [] => letter :: between.reverse
  | c :: rest =>
    let n := markClass c
    match if isBlocked n between then none else compose? letter c with
    | some d => joinFrom d between rest
    | none =>
      if n = 0 then letter :: between.reverse ++ joinFrom c [] rest
      else joinFrom letter (c :: between) rest

/-- Puts a text together; marks without a letter before them stay as they are. -/
def join : List Char → List Char
  | [] => []
  | c :: rest => if markClass c = 0 then joinFrom c [] rest else c :: join rest

/-- The composed form of a text. Below U+0300 there are no marks and nothing to compose. -/
def composed (s : List Char) : List Char :=
  if s.all (·.toNat < 0x300) then s else join (orderFrom [] (s.flatMap decomposed))

end AnalysisGateway.Text
