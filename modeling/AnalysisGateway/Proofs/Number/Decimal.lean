import Mathlib.Algebra.Group.Nat.Defs
import AnalysisGateway.Number.Decimal

/-!
# Bounds on shortest decimals

The shortest decimal of a positive single is not zero, and neither its digits nor its exponent are
far out. The exponent of the first digit is guessed, and the search for the shortest decimal stays
near the guess; where it ends without success, it has come so far down that the quotient it falls
back on is not zero.
-/

namespace AnalysisGateway.Decimal

/-! ## The search -/

theorem leadingExponent_bounds (num den fuel : Nat) (start : Int) :
    start - fuel ≤ leadingExponent num den fuel start ∧
      leadingExponent num den fuel start ≤ start := by
  induction fuel generalizing start with
  | zero => simp [leadingExponent]
  | succ fuel ih =>
      have h := ih (start - 1)
      rw [leadingExponent]
      simp only
      split <;> omega

/-- The value of the interval in units of `10 ^ e`, without its fraction. -/
def Interval.floor (i : Interval) (e : Int) : Nat := (i.scaled e).1 / (i.scaled e).2

/-- A decimal of the grid is one of the value's neighbours, and not zero. -/
theorem Interval.onGrid?_spec {tie : Tie} {i : Interval} {e : Int} {d : Decimal}
    (h : i.onGrid? tie e = some d) :
    d.exponent = e ∧ d.digits ≠ 0 ∧ d.digits ≤ i.floor e + 1 := by
  simp only [onGrid?] at h
  simp only [floor]
  generalize (i.scaled e).1 / (i.scaled e).2 = low at h ⊢
  split at h
  · next hlow _ =>
    obtain ⟨_, hne⟩ := Bool.and_eq_true_iff.mp hlow
    have hne := bne_iff_ne.mp hne
    obtain rfl := Option.some.inj h
    refine ⟨rfl, ?_, ?_⟩
    · simp only
      split <;> omega
    · simp only
      split <;> omega
  · next hlow _ =>
    obtain ⟨_, hne⟩ := Bool.and_eq_true_iff.mp hlow
    obtain rfl := Option.some.inj h
    exact ⟨rfl, bne_iff_ne.mp hne, Nat.le_succ _⟩
  · obtain rfl := Option.some.inj h
    exact ⟨rfl, Nat.succ_ne_zero _, Nat.le_refl _⟩
  · contradiction

/-- The search stays within its fuel, and finds no zero if there is none at its end. -/
theorem Interval.search_spec (tie : Tie) (i : Interval) (fuel : Nat) (e : Int) :
    e - fuel ≤ (i.search tie fuel e).exponent ∧ (i.search tie fuel e).exponent ≤ e ∧
      (i.search tie fuel e).digits ≤ i.floor (i.search tie fuel e).exponent + 1 ∧
      (i.floor (e - fuel) ≠ 0 → (i.search tie fuel e).digits ≠ 0) := by
  induction fuel generalizing e with
  | zero =>
      simp only [search]
      exact ⟨by omega, by omega, Nat.le_succ _, by simp [floor]⟩
  | succ fuel ih =>
      obtain ⟨hlow, hhigh, hdigits, hne⟩ := ih (e - 1)
      cases hgrid : i.onGrid? tie e with
      | some d =>
          obtain ⟨rfl, hzero, hle⟩ := onGrid?_spec hgrid
          simp only [search, hgrid]
          exact ⟨by omega, by omega, hle, fun _ => hzero⟩
      | none =>
          simp only [search, hgrid]
          refine ⟨by omega, by omega, hdigits, fun hfloor => hne ?_⟩
          rwa [show e - 1 - (fuel : Int) = e - ((fuel + 1 : Nat) : Int) by omega]

/-- Trailing zeros go over into the exponent. -/
theorem normalize_spec (fuel : Nat) (d : Decimal) :
    d.exponent ≤ (normalize fuel d).exponent ∧
      (normalize fuel d).exponent ≤ d.exponent + fuel ∧
      (normalize fuel d).digits ≤ d.digits ∧ (d.digits ≠ 0 → (normalize fuel d).digits ≠ 0) := by
  induction fuel generalizing d with
  | zero => simp [normalize]
  | succ fuel ih =>
      rw [normalize]
      split
      · next h =>
        obtain ⟨hlow, hhigh, hdigits, hne⟩ := ih ⟨d.digits / 10, d.exponent + 1⟩
        simp only at hlow hhigh hdigits hne
        refine ⟨by omega, by omega, ?_, fun _ => hne (by omega)⟩
        exact Nat.le_trans hdigits (Nat.div_le_self ..)
      · exact ⟨Int.le_refl _, by omega, Nat.le_refl _, id⟩

/-! ## Singles -/

section

variable {m : Nat} {q : Int}

/-- The binary exponent that the guess goes by is that of the number. -/
theorem log2_shiftRatio (hm : m ≠ 0) (q : Int) :
    ((Binary.shiftRatio m 1 q).1.log2 : Int) - (Binary.shiftRatio m 1 q).2.log2 = m.log2 + q := by
  unfold Binary.shiftRatio
  split
  · have hlow : 2 ^ m.log2 ≤ m := (Nat.le_log2 hm).mp (Nat.le_refl _)
    have hhigh : m < 2 ^ (m.log2 + 1) := (Nat.log2_lt hm).mp (Nat.lt_succ_self _)
    have hlog : (m * 2 ^ q.toNat).log2 = m.log2 + q.toNat := by
      rw [Nat.log2_eq_iff (Nat.mul_ne_zero hm (Nat.ne_of_gt (Nat.two_pow_pos _)))]
      constructor
      · rw [Nat.pow_add]
        exact Nat.mul_le_mul_right _ hlow
      · rw [show m.log2 + q.toNat + 1 = m.log2 + 1 + q.toNat by omega, Nat.pow_add]
        exact Nat.mul_lt_mul_of_pos_right hhigh (Nat.two_pow_pos _)
    simp only [Nat.pow_eq, hlog, show (1 : Nat).log2 = 0 from rfl]
    omega
  · simp only [Nat.pow_eq, Nat.one_mul, Nat.log2_two_pow]
    omega

/-- Down to the exponent `-67`, the value in units of the grid has at most 106 digits. -/
theorem floor_interval_lt (hm : m < 2 ^ 24) (hq : q ≤ 104) {e : Int} (he : -67 ≤ e) :
    (interval Binary.single m q).floor e < 10 ^ 106 := by
  have hscaled : (Binary.shiftRatio (4 * m) 1 (q - 2)).1 < 2 ^ 128 := by
    unfold Binary.shiftRatio
    split
    · calc
        4 * m * 2 ^ (q - 2).toNat ≤ 4 * m * 2 ^ 102 :=
          Nat.mul_le_mul_left _ (Nat.pow_le_pow_right (by decide) (by omega))
        _ < 2 ^ 26 * 2 ^ 102 := Nat.mul_lt_mul_of_pos_right (by omega) (by decide)
        _ = 2 ^ 128 := by decide
    · simp only
      omega
  refine Nat.lt_of_le_of_lt (Nat.div_le_self ..) ?_
  simp only [Interval.scaled, interval]
  split
  · exact Nat.lt_trans hscaled (by decide)
  · calc
      (Binary.shiftRatio (4 * m) 1 (q - 2)).1 * 10 ^ (-e).toNat
          ≤ (Binary.shiftRatio (4 * m) 1 (q - 2)).1 * 10 ^ 67 :=
        Nat.mul_le_mul_left _ (Nat.pow_le_pow_right (by decide) (by omega))
      _ < 2 ^ 128 * 10 ^ 67 := Nat.mul_lt_mul_of_pos_right hscaled (by decide)
      _ < 10 ^ 106 := by decide

/-- Where the search ends, the value in units of the grid is at least one: `8 ≤ 10 ≤ 16` puts ten's
power below the number. -/
theorem floor_interval_ne_zero (hm : m ≠ 0) (hlog : m.log2 ≤ 23) (hlow : -149 ≤ q) (hhigh : q ≤ 104)
    {e : Int} (he : e ≤ (m.log2 + q) * 30103 / 100000 - 16) :
    (interval Binary.single m q).floor e ≠ 0 := by
  have hpow : 2 ^ (m.log2 + 2) ≤ 4 * m := by
    have h : 2 ^ m.log2 ≤ m := (Nat.le_log2 hm).mp (Nat.le_refl _)
    rw [Nat.pow_succ, Nat.pow_succ]
    omega
  have hle : ((interval Binary.single m q).scaled e).2 ≤ ((interval Binary.single m q).scaled e).1 ∧
      0 < ((interval Binary.single m q).scaled e).2 := by
    by_cases hpos : 0 ≤ e
    · have hshift : 0 ≤ q - 2 := by omega
      have hratio : Binary.shiftRatio (4 * m) 1 (q - 2) = (4 * m * 2 ^ (q - 2).toNat, 1) :=
        if_pos hshift
      simp only [Interval.scaled, interval, hratio, if_pos hpos]
      refine ⟨?_, Nat.mul_pos Nat.one_pos (Nat.pow_pos (by decide))⟩
      calc
        1 * 10 ^ e.toNat ≤ 16 ^ e.toNat := by
          rw [Nat.one_mul]
          exact Nat.pow_le_pow_left (by decide) _
        _ = 2 ^ (4 * e.toNat) := by rw [Nat.pow_mul]
        _ ≤ 2 ^ (m.log2 + 2 + (q - 2).toNat) := Nat.pow_le_pow_right (by decide) (by omega)
        _ = 2 ^ (m.log2 + 2) * 2 ^ (q - 2).toNat := Nat.pow_add ..
        _ ≤ 4 * m * 2 ^ (q - 2).toNat := Nat.mul_le_mul_right _ hpow
    by_cases hshift : 0 ≤ q - 2
    · have hratio : Binary.shiftRatio (4 * m) 1 (q - 2) = (4 * m * 2 ^ (q - 2).toNat, 1) :=
        if_pos hshift
      simp only [Interval.scaled, interval, hratio, if_neg hpos]
      refine ⟨?_, Nat.one_pos⟩
      have hnum : 0 < 4 * m * 2 ^ (q - 2).toNat := Nat.mul_pos (by omega) (Nat.two_pow_pos _)
      exact Nat.mul_pos hnum (Nat.pow_pos (by decide))
    · have hratio : Binary.shiftRatio (4 * m) 1 (q - 2) = (4 * m, 1 * 2 ^ (-(q - 2)).toNat) :=
        if_neg hshift
      simp only [Interval.scaled, interval, hratio, if_neg hpos]
      refine ⟨?_, Nat.mul_pos Nat.one_pos (Nat.two_pow_pos _)⟩
      calc
        1 * 2 ^ (-(q - 2)).toNat ≤ 2 ^ (m.log2 + 2 + 3 * (-e).toNat) := by
          rw [Nat.one_mul]
          exact Nat.pow_le_pow_right (by decide) (by omega)
        _ = 2 ^ (m.log2 + 2) * 8 ^ (-e).toNat := by rw [Nat.pow_add, Nat.pow_mul]
        _ ≤ 4 * m * 10 ^ (-e).toNat := Nat.mul_le_mul hpow (Nat.pow_le_pow_left (by decide) _)
  exact Nat.ne_of_gt (Nat.div_pos hle.1 hle.2)

/-- **The shortest decimal of a positive single** is not zero, and bounded. -/
theorem shortest_spec (tie : Tie) (hm : m ≠ 0) (hlt : m < 2 ^ 24) (hlow : -149 ≤ q)
    (hhigh : q ≤ 104) :
    let d := shortest Binary.single tie m q
    d.digits ≠ 0 ∧ d.digits ≤ 10 ^ 106 ∧ -67 ≤ d.exponent ∧ d.exponent ≤ 59 := by
  have hlog : m.log2 < 24 := (Nat.log2_lt hm).mpr hlt
  simp only [shortest, log2_shiftRatio hm q]
  generalize hguess : ((m.log2 : Int) + q) * 30103 / 100000 + 1 = guess
  generalize hfirst : leadingExponent _ _ 4 guess = first
  have hbounds := leadingExponent_bounds (Binary.shiftRatio m 1 q).1 (Binary.shiftRatio m 1 q).2 4
    guess
  rw [hfirst] at hbounds
  obtain ⟨hsearchLow, hsearchHigh, hdigits, hne⟩ :=
    (interval Binary.single m q).search_spec tie 17 first
  obtain ⟨hnormLow, hnormHigh, hnormDigits, hnormNe⟩ :=
    normalize_spec 20 ((interval Binary.single m q).search tie 17 first)
  have hfloor := floor_interval_lt hlt hhigh
    (e := ((interval Binary.single m q).search tie 17 first).exponent) (by omega)
  have hzero : (interval Binary.single m q).floor (first - (17 : Nat)) ≠ 0 :=
    floor_interval_ne_zero hm (by omega) hlow hhigh (by omega)
  refine ⟨hnormNe (hne hzero), ?_, by omega, by omega⟩
  omega

end

end AnalysisGateway.Decimal
