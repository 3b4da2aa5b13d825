import Mathlib.Algebra.Group.Nat.Defs
import AnalysisGateway.Number.Numeral

/-!
# What a numeral writes

A text writes a natural number if it consists of decimal digits, at least one, perhaps after a plus
sign. The number is the value of the digits, however many zeros they begin with (`Writes`).

Reading goes digit by digit and stops as soon as the value so far reaches the limit. A value never
falls again (`le_ofDigitChars`), so this refuses exactly the digits whose value is too large: what
is read is what is written, and everything that is written below the limit is read
(`readChars_eq_ok_iff`).
-/

namespace AnalysisGateway.Numeral

/-! ## Digits -/

/-- Digits only raise a value. -/
theorem le_ofDigitChars (digits : List Char) (value : Nat) :
    value ≤ Nat.ofDigitChars 10 digits value := by
  induction digits generalizing value with
  | nil => simp
  | cons c digits ih =>
      rw [Nat.ofDigitChars_cons]
      have h := ih (10 * value + (c.toNat - '0'.toNat))
      omega

/-- A character is read as a digit exactly if it is one. -/
theorem digit?_eq (c : Char) :
    digit? c = if c.isDigit then some (c.toNat - '0'.toNat) else none := by
  have hrange : ('0' ≤ c ∧ c ≤ '9') ↔ c.isDigit = true := by
    rw [Char.isDigit, Bool.and_eq_true, decide_eq_true_iff, decide_eq_true_iff]
    rfl
  simp only [digit?, hrange]

/-- **The loop reads digits whose value is below the limit**, and nothing else. The invariant is
that the value so far is below the limit. -/
theorem readDigits_eq_ok_iff {limit value n : Nat} {s : List Char} (hvalue : value < limit) :
    readDigits limit value s = .ok n ↔
      (∀ c ∈ s, c.isDigit = true) ∧ Nat.ofDigitChars 10 s value = n ∧ n < limit := by
  induction s generalizing value with
  | nil =>
      simp only [readDigits, Except.ok.injEq, Nat.ofDigitChars_nil, List.not_mem_nil,
        false_imp_iff, implies_true, true_and]
      constructor
      · intro h
        exact ⟨h, h ▸ hvalue⟩
      · exact And.left
  | cons c rest ih =>
      rw [readDigits, digit?_eq, Nat.ofDigitChars_cons]
      generalize c.toNat - '0'.toNat = d
      have hnext : value * 10 + d = 10 * value + d := by omega
      by_cases hc : c.isDigit = true
      · by_cases hfits : 10 * value + d < limit
        · simp [hc, hnext, hfits, ih hfits]
        · have hle := le_ofDigitChars rest (10 * value + d)
          simp only [hc, hnext, hfits, if_true, if_false, reduceCtorEq, false_iff, not_and]
          omega
      · simp [hc]

/-! ## Numerals -/

/-- A text writes a number: in digits, or in digits after a plus sign. -/
inductive Writes : List Char → Nat → Prop where
  | plain {digits : List Char} (hne : digits ≠ []) (hdigits : ∀ c ∈ digits, c.isDigit = true) :
      Writes digits (Nat.ofDigitChars 10 digits 0)
  | signed {digits : List Char} (hne : digits ≠ []) (hdigits : ∀ c ∈ digits, c.isDigit = true) :
      Writes ('+' :: digits) (Nat.ofDigitChars 10 digits 0)

/-- A plus sign is no digit, so behind it there are digits. -/
theorem writes_plus_iff {rest : List Char} {n : Nat} :
    Writes ('+' :: rest) n ↔
      rest ≠ [] ∧ (∀ c ∈ rest, c.isDigit = true) ∧ Nat.ofDigitChars 10 rest 0 = n := by
  constructor
  · intro h
    cases h with
    | plain _ hdigits =>
        have hplus := hdigits '+' List.mem_cons_self
        contradiction
    | signed hne hdigits => exact ⟨hne, hdigits, rfl⟩
  · rintro ⟨hne, hdigits, rfl⟩
    exact .signed hne hdigits

/-- Without a plus sign there are digits at once. -/
theorem writes_iff_of_ne {s : List Char} (hsign : ∀ rest, s ≠ '+' :: rest) {n : Nat} :
    Writes s n ↔ s ≠ [] ∧ (∀ c ∈ s, c.isDigit = true) ∧ Nat.ofDigitChars 10 s 0 = n := by
  constructor
  · intro h
    cases h with
    | plain hne hdigits => exact ⟨hne, hdigits, rfl⟩
    | signed => exact absurd rfl (hsign _)
  · rintro ⟨hne, hdigits, rfl⟩
    exact .plain hne hdigits

/-- The decimal text of a number writes it. -/
theorem writes_toString (n : Nat) : Writes (toString n).toList n := by
  have hdigits : ∀ c ∈ Nat.toDigits 10 n, c.isDigit = true := fun c hc =>
    Nat.isDigit_of_mem_toDigits (by decide) (by decide) hc
  have hwrites := Writes.plain Nat.toDigits_ne_nil hdigits
  rwa [Nat.ofDigitChars_ten_toDigits, ← Nat.toList_repr, ← Nat.toString_eq_repr] at hwrites

/-- **What is read is what is written**, if it is below the bound of the width. -/
theorem readChars_eq_ok_iff {width n : Nat} {s : List Char} :
    readChars width s = .ok n ↔ Writes s n ∧ n < 2 ^ width := by
  have hzero : 0 < 2 ^ width := Nat.two_pow_pos width
  unfold readChars
  split
  · simp [writes_iff_of_ne (s := []) nofun]
  · simp [writes_plus_iff]
  · next rest hne =>
    have hrest : rest ≠ [] := hne
    rw [Nat.pow_eq, readDigits_eq_ok_iff hzero, writes_plus_iff]
    simp [hrest, and_assoc]
  · next hempty hplus hsign =>
    have hne : s ≠ [] := hempty
    rw [Nat.pow_eq, readDigits_eq_ok_iff hzero, writes_iff_of_ne hsign]
    simp [hne, and_assoc]

/-- Zeros in front take no width. -/
example : readChars 16 "+00000065535".toList = .ok 65535 := rfl

end AnalysisGateway.Numeral
