import AnalysisGateway.Number.Binary

/-!
# Similarity of words

How alike two words are, by the measure of Jaro: characters match if they are equal and not too far
apart, at most half the longer word's length less one; each character matches at most once. The
measure is the mean of three shares: the matching characters of either word, and those of the
matching characters that are in the same order in both. It is 1 for equal words and 0 for words
without a match.

The measure is a double, rounded after every step, so that a mean of exactly seven tenths may come
out above the double nearest to seven tenths.
-/

namespace AnalysisGateway.Text

/-- A number between 0 and 1, as the pattern of a double. -/
structure Share where
  bits : Nat
  deriving DecidableEq, Repr

/-- Whether a share is greater than another one; patterns grow with the numbers. -/
def Share.exceeds (a b : Share) : Bool := b.bits < a.bits

/-- The share of `part` in `whole`. -/
def Share.of (part whole : Nat) : Share := ⟨Binary.double.ofRatio part whole⟩

/-- The mean of three shares, added up from the left. -/
def Share.mean (a b c : Share) : Share :=
  ⟨Binary.double.div (Binary.double.add (Binary.double.add a.bits b.bits) c.bits)
    (Binary.double.ofNat 3)⟩

/-- The first place from `low` on, and before `high`, where `c` stands in `word`, unless it is among
the `taken` ones. -/
def matchPlace? (c : Char) (word : List Char) (taken : List Nat) (low high : Nat) : Option Nat :=
  (List.range (min high word.length)).find? fun j =>
    low ≤ j && word[j]? == some c && !taken.contains j

/-- The matches of the characters from place `i` on: the characters themselves, and their places in
the other word after those in `taken`. -/
def matchesFrom (range : Nat) (other : List Char) (i : Nat) (taken : List Nat) :
    List Char → List Char × List Nat
  | [] => ([], taken)
  | c :: rest =>
    match matchPlace? c other taken (i - range) (i + range + 1) with
    | some j =>
      let (cs, taken) := matchesFrom range other (i + 1) (j :: taken) rest
      (c :: cs, taken)
    | none => matchesFrom range other (i + 1) taken rest

/-- How alike two words are. -/
def similarity (a b : List Char) : Share :=
  if a.isEmpty && b.isEmpty then .of 1 1
  else
    let range := max a.length b.length / 2 - 1
    let (here, places) := matchesFrom range b 0 [] a
    let there := (List.range b.length).filterMap fun j => if places.contains j then b[j]? else none
    let m := here.length
    let swapped := ((here.zip there).filter fun (x, y) => x != y).length / 2
    if m = 0 then .of 0 1
    else .mean (.of m a.length) (.of m b.length) (.of (m - swapped) m)

end AnalysisGateway.Text
