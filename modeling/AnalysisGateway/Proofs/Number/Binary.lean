import Mathlib.Algebra.Group.Nat.Defs
import AnalysisGateway.Number.Binary

/-!
# Bounds on doubles

The pattern of a ratio below `2 ^ k` is bounded by `k`, so products of such numbers stay away from
infinity. The bounds are coarse: a significand has at most 54 bits before it is rounded, and the
power in its last place is at most `k - 52`, or the least one.
-/

namespace AnalysisGateway.Binary

/-! ## Rounding -/

/-- Rounding does not pass a whole number. -/
theorem roundDiv_le {num den bound : Nat} (h : num < den * bound) : roundDiv num den ≤ bound := by
  have hlow : num / den < bound := Nat.div_lt_of_lt_mul h
  unfold roundDiv
  simp only
  split
  · exact hlow
  · exact Nat.le_of_lt hlow

section

variable {num den k : Nat}

/-- A ratio below `2 ^ k` has a leading power of at most `k`. -/
theorem log2_le_of_lt (hnum : num ≠ 0) (hden : den ≠ 0) (h : num < den * 2 ^ k) :
    num.log2 ≤ den.log2 + k := by
  have hlow : 2 ^ num.log2 ≤ num := (Nat.le_log2 hnum).mp (Nat.le_refl _)
  have hhigh : den < 2 ^ (den.log2 + 1) := (Nat.log2_lt hden).mp (Nat.lt_succ_self _)
  have hlt : 2 ^ num.log2 < 2 ^ (den.log2 + 1 + k) := by
    calc
      2 ^ num.log2 ≤ num := hlow
      _ < den * 2 ^ k := h
      _ ≤ 2 ^ (den.log2 + 1) * 2 ^ k := Nat.mul_le_mul_right _ (Nat.le_of_lt hhigh)
      _ = 2 ^ (den.log2 + 1 + k) := (Nat.pow_add ..).symm
  have hexp := (Nat.pow_lt_pow_iff_right (by decide : 1 < 2)).mp hlt
  omega

namespace Layout

/-- The exponent of the leading power, up to one. -/
theorem log2Ratio_bounds (num den : Nat) :
    (num.log2 : Int) - den.log2 - 1 ≤ log2Ratio num den ∧
      log2Ratio num den ≤ (num.log2 : Int) - den.log2 := by
  simp only [log2Ratio]
  split <;> omega

/-- In units of a power that is at least the leading one less 52, a ratio has at most 54 bits. -/
theorem shiftRatio_lt (hnum : num ≠ 0) (hden : den ≠ 0) {power : Int}
    (hpower : (num.log2 : Int) - den.log2 - 53 ≤ power) :
    (shiftRatio num den (-power)).1 < (shiftRatio num den (-power)).2 * 2 ^ 54 := by
  have hhigh : num < 2 ^ (num.log2 + 1) := (Nat.log2_lt hnum).mp (Nat.lt_succ_self _)
  have hlow : 2 ^ den.log2 ≤ den := (Nat.le_log2 hden).mp (Nat.le_refl _)
  unfold shiftRatio
  split
  · next hneg =>
    have hexp : num.log2 + 1 + (-power).toNat ≤ den.log2 + 54 := by omega
    calc
      num * 2 ^ (-power).toNat < 2 ^ (num.log2 + 1) * 2 ^ (-power).toNat :=
        Nat.mul_lt_mul_of_pos_right hhigh (Nat.two_pow_pos _)
      _ = 2 ^ (num.log2 + 1 + (-power).toNat) := (Nat.pow_add ..).symm
      _ ≤ 2 ^ (den.log2 + 54) := Nat.pow_le_pow_right (by decide) hexp
      _ = 2 ^ den.log2 * 2 ^ 54 := Nat.pow_add ..
      _ ≤ den * 2 ^ 54 := Nat.mul_le_mul_right _ hlow
  · next hpos =>
    have hexp : num.log2 + 1 ≤ den.log2 + (- -power).toNat + 54 := by omega
    calc
      num < 2 ^ (num.log2 + 1) := hhigh
      _ ≤ 2 ^ (den.log2 + (- -power).toNat + 54) := Nat.pow_le_pow_right (by decide) hexp
      _ = 2 ^ den.log2 * 2 ^ (- -power).toNat * 2 ^ 54 := by rw [Nat.pow_add, Nat.pow_add]
      _ ≤ den * 2 ^ (- -power).toNat * 2 ^ 54 :=
        Nat.mul_le_mul_right _ (Nat.mul_le_mul_right _ hlow)

end Layout

/-! ## Patterns -/

/-- A bound on the patterns of numbers below `2 ^ k`. -/
def patternBound (k : Nat) : Nat := (k + 1026) * 2 ^ 52

/-- The pattern of a ratio below `2 ^ k`. -/
theorem ofRatio_le (hden : den ≠ 0) (h : num < den * 2 ^ k) :
    double.ofRatio num den ≤ patternBound k := by
  by_cases hnum : num = 0
  · simp [hnum, Layout.ofRatio]
  have hlog := log2_le_of_lt hnum hden h
  obtain ⟨hlow, hhigh⟩ := Layout.log2Ratio_bounds num den
  simp only [Layout.ofRatio, if_neg hnum]
  generalize hpower : max (Layout.log2Ratio num den - double.fraction) double.leastPower = power
  have hfraction : (double.fraction : Int) = 52 := rfl
  have hleast : double.leastPower = -1074 := rfl
  have hpower53 : (num.log2 : Int) - den.log2 - 53 ≤ power := by omega
  have hround := roundDiv_le (Layout.shiftRatio_lt hnum hden hpower53)
  have hsteps : (power - double.leastPower).toNat ≤ k + 1022 := by omega
  calc
    min _ double.infinity ≤ 2 ^ 54 + (k + 1022) * 2 ^ 52 :=
      Nat.le_trans (Nat.min_le_left ..)
        (Nat.add_le_add hround (Nat.mul_le_mul_right _ hsteps))
    _ = patternBound k := by simp only [patternBound]; omega

/-- Patterns within the bound are finite, and stand for numbers of a bounded power. -/
theorem magnitude_of_le {bits : Nat} (hk : k ≤ 1000) (h : bits ≤ patternBound k) :
    ∃ m p, double.magnitude bits = .finite m p ∧ m < 2 ^ 53 ∧ p ≤ (k : Int) - 48 := by
  have hbits : double.magnitudeBits bits = bits := by
    refine Nat.mod_eq_of_lt ?_
    simp only [Layout.signBit, double, patternBound, Nat.pow_eq] at h ⊢
    omega
  have hexponent : bits / 2 ^ 52 ≤ k + 1026 := by
    simp only [patternBound] at h
    omega
  have hfraction : bits % 2 ^ 52 < 2 ^ 52 := Nat.mod_lt _ (by decide)
  have hleast : double.leastPower = -1074 := rfl
  simp only [Layout.magnitude, hbits, show double.fraction = 52 from rfl,
    show double.exponent = 11 from rfl, hleast, Nat.pow_eq]
  split
  · exact ⟨_, _, rfl, by omega, by omega⟩
  split
  · omega
  · exact ⟨_, _, rfl, by omega, by omega⟩

/-- The pattern of a natural number below `2 ^ k`. -/
theorem ofNat_le {n : Nat} (h : n < 2 ^ k) : double.ofNat n ≤ patternBound k :=
  ofRatio_le (by decide) (by rwa [Nat.one_mul])

/-- **A product is finite** if the bounds of its factors leave room for it. -/
theorem mul_lt_infinity {a b j : Nat} (ha : a ≤ patternBound j) (hb : b ≤ patternBound k)
    (hjk : j + k ≤ 900) : double.mul a b < double.infinity := by
  obtain ⟨m, p, hm, hmlt, hp⟩ := magnitude_of_le (by omega) ha
  obtain ⟨n, q, hn, hnlt, hq⟩ := magnitude_of_le (by omega) hb
  have hmn : m * n < 2 ^ 106 := by
    calc
      m * n < 2 ^ 53 * 2 ^ 53 := Nat.mul_lt_mul'' hmlt hnlt
      _ = 2 ^ 106 := by decide
  obtain ⟨hden, hlt⟩ : (Layout.ratio (m * n) (p + q)).2 ≠ 0 ∧
      (Layout.ratio (m * n) (p + q)).1 < (Layout.ratio (m * n) (p + q)).2 * 2 ^ (j + k + 106) := by
    unfold Layout.ratio shiftRatio
    split
    · refine ⟨Nat.one_ne_zero, ?_⟩
      calc
        m * n * 2 ^ (p + q).toNat < 2 ^ 106 * 2 ^ (p + q).toNat :=
          Nat.mul_lt_mul_of_pos_right hmn (Nat.two_pow_pos _)
        _ ≤ 2 ^ 106 * 2 ^ (j + k) :=
          Nat.mul_le_mul_left _ (Nat.pow_le_pow_right (by decide) (by omega))
        _ = 1 * 2 ^ (j + k + 106) := by rw [Nat.one_mul, Nat.pow_add 2 (j + k), Nat.mul_comm]
    · have hpos : 0 < 1 * 2 ^ (-(p + q)).toNat :=
        Nat.mul_pos Nat.one_pos (Nat.two_pow_pos _)
      refine ⟨Nat.ne_of_gt hpos, ?_⟩
      calc
        m * n < 2 ^ 106 := hmn
        _ ≤ 2 ^ (j + k + 106) := Nat.pow_le_pow_right (by decide) (by omega)
        _ ≤ _ := Nat.le_mul_of_pos_left _ hpos
  have hle := ofRatio_le hden hlt
  have hroom : patternBound (j + k + 106) < double.infinity := by
    have hinfinity : double.infinity = 2047 * 2 ^ 52 := rfl
    simp only [patternBound, hinfinity]
    omega
  simp only [Layout.mul, hm, hn]
  exact Nat.lt_of_le_of_lt hle hroom

end

end AnalysisGateway.Binary
