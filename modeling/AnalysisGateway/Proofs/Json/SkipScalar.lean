import AnalysisGateway.Proofs.Json.Form
import AnalysisGateway.Proofs.Json.Real

/-!
# Passing over texts and numbers

A text is passed over exactly if it has the form of one (`skipText_eq_ok_iff`), and so is a number,
up to what may follow a value. A number is passed over part by part, and each part stops where the
next one begins.
-/

namespace AnalysisGateway.Json

/-! ## Texts -/

/-- An escape that is passed over is a short one, or that of a unit. -/
theorem exists_of_skipEscape {s rest : Bytes} (h : skipEscape s = .ok rest) :
    (∃ b, (shortEscape? b).isSome = true ∧ s = b :: rest) ∨
      ∃ a b c d, (hexQuad? a b c d).isSome = true ∧ s = 0x75 :: a :: b :: c :: d :: rest := by
  cases s with
  | nil => contradiction
  | cons b s =>
      rw [skipEscape] at h
      split at h
      · next hunit =>
        obtain rfl := hunit
        rw [readQuad.eq_def] at h
        split at h
        · next a b c d more =>
          split at h
          · next n hquad =>
            obtain rfl := Except.ok.inj h
            exact .inr ⟨a, b, c, d, by rw [hquad]; rfl, rfl⟩
          · contradiction
        · contradiction
      · split at h
        · next hshort =>
          obtain rfl := Except.ok.inj h
          exact .inl ⟨b, hshort, rfl⟩
        · contradiction

theorem skipEscape_short {b : UInt8} (hb : (shortEscape? b).isSome = true) (rest : Bytes) :
    skipEscape (b :: rest) = .ok rest := by
  have hunit : b ≠ 0x75 := by
    rintro rfl
    contradiction
  rw [skipEscape, if_neg hunit, if_pos hb]

theorem skipEscape_unit {a b c d : UInt8} (hquad : (hexQuad? a b c d).isSome = true)
    (rest : Bytes) : skipEscape (0x75 :: a :: b :: c :: d :: rest) = .ok rest := by
  obtain ⟨n, hn⟩ := Option.isSome_iff_exists.mp hquad
  rw [skipEscape, if_pos rfl, readQuad, hn]
  rfl

/-- What is passed over as a text has the form of one. -/
theorem exists_of_skipText {bound s rest : Bytes} (h : skipText bound s = .ok rest) :
    ∃ inner, InnerForm inner ∧ s = inner ++ 0x22 :: rest := by
  induction bound generalizing s with
  | nil => cases s <;> contradiction
  | cons o bound ih =>
      cases s with
      | nil => contradiction
      | cons b s =>
          rw [skipText] at h
          split at h
          · next hquote =>
            obtain rfl := Except.ok.inj h
            exact ⟨[], .nil, by rw [hquote]; rfl⟩
          next hquote =>
            split at h
            · next hescape =>
              obtain rfl := hescape
              split at h
              · contradiction
              next left hleft =>
                obtain ⟨inner, hinner, rfl⟩ := ih h
                obtain ⟨b, hb, rfl⟩ | ⟨a, b, c, d, hquad, rfl⟩ := exists_of_skipEscape hleft
                · exact ⟨_, .short hb hinner, rfl⟩
                · exact ⟨_, .unit hquad hinner, rfl⟩
            next hescape =>
              split at h
              · contradiction
              next hcontrol =>
                obtain ⟨inner, hinner, rfl⟩ := ih h
                exact ⟨_, .plain ⟨hquote, hescape, hcontrol⟩ hinner, rfl⟩

/-- What has the form of a text is passed over. -/
theorem skipText_append {inner : Bytes} (h : InnerForm inner) (bound rest : Bytes)
    (hbound : inner.length < bound.length) :
    skipText bound (inner ++ 0x22 :: rest) = .ok rest := by
  induction h generalizing bound with
  | nil =>
      cases bound with
      | nil => simp at hbound
      | cons o bound => rw [List.nil_append, skipText, if_pos rfl]
  | plain hb h ih =>
      cases bound with
      | nil => simp at hbound
      | cons o bound =>
          obtain ⟨hquote, hescape, hcontrol⟩ := hb
          rw [List.cons_append, skipText, if_neg hquote, if_neg hescape, if_neg hcontrol]
          exact ih bound (by simpa using hbound)
  | short hb h ih =>
      cases bound with
      | nil => simp at hbound
      | cons o bound =>
          rw [List.cons_append, List.cons_append, skipText, if_neg (by decide), if_pos rfl,
            skipEscape_short hb]
          exact ih bound (by simp at hbound; omega)
  | unit hquad h ih =>
      cases bound with
      | nil => simp at hbound
      | cons o bound =>
          simp only [List.cons_append]
          rw [skipText, if_neg (by decide), if_pos rfl, skipEscape_unit hquad]
          exact ih bound (by simp at hbound; omega)

/-- **A text is passed over exactly if it has the form of one.** -/
theorem skipText_eq_ok_iff {s rest : Bytes} :
    skipText s s = .ok rest ↔ ∃ inner, InnerForm inner ∧ s = inner ++ 0x22 :: rest := by
  refine ⟨exists_of_skipText, ?_⟩
  rintro ⟨inner, hinner, rfl⟩
  exact skipText_append hinner _ rest (by simp)

/-! ## Numbers -/

/-- Digits in front are passed over. -/
theorem exists_eq_append_skipDigits (s : Bytes) :
    ∃ digits, (∀ b ∈ digits, isDigit b = true) ∧ s = digits ++ skipDigits s :=
  ⟨s.takeWhile isDigit, fun _ => List.mem_takeWhile_imp, (List.takeWhile_append_dropWhile).symm⟩

/-- A digit and those behind it are digits. -/
theorem exists_digits {b : UInt8} (hb : isDigit b = true) (s : Bytes) :
    ∃ digits, Digits (b :: digits) ∧ s = digits ++ skipDigits s := by
  obtain ⟨digits, hdigits, hs⟩ := exists_eq_append_skipDigits s
  exact ⟨digits, ⟨List.cons_ne_nil b digits, List.forall_mem_cons.mpr ⟨hb, hdigits⟩⟩, hs⟩

/-- Digits begin with a digit, and those behind it are passed over. -/
theorem Digits.exists_cons {s : Bytes} (h : Digits s) :
    ∃ b digits, s = b :: digits ∧ isDigit b = true ∧
      ∀ rest, Number.StopsDigits rest → skipDigits (digits ++ rest) = rest := by
  obtain ⟨hne, hall⟩ := h
  obtain ⟨b, digits, rfl⟩ := List.exists_cons_of_ne_nil hne
  obtain ⟨hb, hdigits⟩ := List.forall_mem_cons.mp hall
  exact ⟨b, digits, rfl, hb, fun rest hrest => Number.skipDigits_append hdigits hrest⟩

namespace Number

/-- A sign of an exponent, or none. -/
theorem exists_of_skipExponent {s rest : Bytes} (h : skipExponent s = .ok rest) :
    ∃ sign digits, (sign = [] ∨ sign = [0x2B] ∨ sign = [0x2D]) ∧ Digits digits ∧
      s = sign ++ (digits ++ rest) := by
  unfold skipExponent at h
  extract_lets t at h
  obtain ⟨sign, hsign, hs⟩ : ∃ sign, (sign = [] ∨ sign = [0x2B] ∨ sign = [0x2D]) ∧
      s = sign ++ t := by
    simp only [t]
    split
    · exact ⟨_, .inr (.inl rfl), rfl⟩
    · exact ⟨_, .inr (.inr rfl), rfl⟩
    · exact ⟨[], .inl rfl, rfl⟩
  clear_value t
  cases t with
  | nil => contradiction
  | cons b t =>
      simp only at h
      split at h
      · next hb =>
        obtain ⟨digits, hdigits, ht⟩ := exists_digits hb t
        rw [Except.ok.inj h] at ht
        exact ⟨sign, _, hsign, hdigits, by rw [hs, ht, List.cons_append]⟩
      · contradiction

theorem exists_of_skipTail {s rest : Bytes} (h : skipTail s = .ok rest) :
    ∃ exponent, ExponentForm exponent ∧ s = exponent ++ rest := by
  rw [skipTail.eq_def] at h
  split at h
  · obtain ⟨sign, digits, hsign, hdigits, rfl⟩ := exists_of_skipExponent h
    exact ⟨_, .digits (.inl rfl) hsign hdigits, by simp⟩
  · obtain ⟨sign, digits, hsign, hdigits, rfl⟩ := exists_of_skipExponent h
    exact ⟨_, .digits (.inr rfl) hsign hdigits, by simp⟩
  · exact ⟨[], .none, Except.ok.inj h⟩

theorem exists_of_skipFraction {s rest : Bytes} (h : skipFraction s = .ok rest) :
    ∃ fraction exponent, FractionForm fraction ∧ ExponentForm exponent ∧
      s = fraction ++ (exponent ++ rest) := by
  rw [skipFraction.eq_def] at h
  split at h
  · split at h
    · next b more =>
      split at h
      · next hb =>
        rw [skipDigits, List.dropWhile_cons_of_pos hb, ← skipDigits] at h
        obtain ⟨exponent, hexponent, htail⟩ := exists_of_skipTail h
        obtain ⟨digits, hdigits, hmore⟩ := exists_digits hb more
        exact ⟨_, exponent, .point hdigits, hexponent, by
          rw [List.cons_append, List.cons_append, ← htail, ← hmore]⟩
      · contradiction
    · contradiction
  · obtain ⟨exponent, hexponent, rfl⟩ := exists_of_skipTail h
    exact ⟨[], exponent, .none, hexponent, rfl⟩

/-- What is passed over as a number has the form of one. -/
theorem exists_of_skip {s rest : Bytes} (h : skip s = .ok rest) :
    ∃ n, UnsignedForm n ∧ s = n ++ rest := by
  have hparts {whole t : Bytes} (hwhole : WholeForm whole) (ht : skipFraction t = .ok rest) :
      ∃ n, UnsignedForm n ∧ whole ++ t = n ++ rest := by
    obtain ⟨fraction, exponent, hfraction, hexponent, rfl⟩ := exists_of_skipFraction ht
    exact ⟨_, .parts hwhole hfraction hexponent, by simp only [List.append_assoc]⟩
  rw [skip.eq_def] at h
  split at h
  · contradiction
  · split at h
    · split at h
      · contradiction
      · exact hparts .zero h
    · exact hparts (t := []) .zero h
  · next b more hzero =>
    split at h
    · next hb =>
      obtain ⟨digits, hdigits, hmore⟩ := exists_digits hb more
      have hwhole : WholeForm (b :: digits) := .digits hzero hdigits
      obtain ⟨n, hn, heq⟩ := hparts hwhole h
      exact ⟨n, hn, by rw [← heq, List.cons_append, ← hmore]⟩
    · contradiction

/-! What has the form of a part is passed over, up to what may follow a value. -/

theorem skipExponent_digit {b : UInt8} (hb : isDigit b = true) (s : Bytes) :
    skipExponent (b :: s) = .ok (skipDigits s) := by
  unfold skipExponent
  extract_lets t
  have ht : t = b :: s := by
    simp only [t]
    split
    · next heq => exact absurd (List.cons.inj heq).1 (ne_of_isDigit hb rfl)
    · next heq => exact absurd (List.cons.inj heq).1 (ne_of_isDigit hb rfl)
    · rfl
  rw [ht]
  exact if_pos hb

section

variable {rest : Bytes} (hrest : Ends rest)

include hrest

/-- Digits stop where an exponent begins. -/
theorem stopsDigits_exponentForm {exponent : Bytes} (h : ExponentForm exponent) :
    StopsDigits (exponent ++ rest) := by
  cases h with
  | none => exact stopsDigits_of_ends hrest
  | digits he => obtain rfl | rfl := he <;> exact stopsDigits_cons rfl _

theorem skipTail_append {exponent : Bytes} (h : ExponentForm exponent) :
    skipTail (exponent ++ rest) = .ok rest := by
  cases h with
  | none =>
      rw [List.nil_append, skipTail.eq_def]
      split
      · simp [Ends, isBlankByte] at hrest
      · simp [Ends, isBlankByte] at hrest
      · rfl
  | @digits e sign s he hsign hdigits =>
      obtain ⟨b, digits, rfl, hb, hskip⟩ := hdigits.exists_cons
      have hrest' := hskip rest (stopsDigits_of_ends hrest)
      have hexponent : skipExponent (sign ++ (b :: (digits ++ rest))) = .ok rest := by
        obtain rfl | rfl | rfl := hsign
        · rw [List.nil_append, skipExponent_digit hb, hrest']
        · simp [skipExponent, hb, hrest']
        · simp [skipExponent, hb, hrest']
      obtain rfl | rfl := he
      · simpa [skipTail] using hexponent
      · simpa [skipTail] using hexponent

theorem skipFraction_append {fraction exponent : Bytes} (hfraction : FractionForm fraction)
    (hexponent : ExponentForm exponent) :
    skipFraction (fraction ++ (exponent ++ rest)) = .ok rest := by
  have htail := skipTail_append hrest hexponent
  cases hfraction with
  | none =>
      rw [List.nil_append, skipFraction.eq_def]
      split
      · next t heq =>
        cases hexponent with
        | none =>
            obtain rfl : rest = 0x2E :: t := heq
            simp [Ends, isBlankByte] at hrest
        | digits he =>
            rw [List.cons_append] at heq
            obtain rfl | rfl := he <;> exact absurd (List.cons.inj heq).1 (by decide)
      · exact htail
  | point hdigits =>
      obtain ⟨b, digits, rfl, hb, hskip⟩ := hdigits.exists_cons
      have hdigits : skipDigits (b :: (digits ++ (exponent ++ rest))) = exponent ++ rest := by
        rw [skipDigits, List.dropWhile_cons_of_pos hb, ← skipDigits,
          hskip _ (stopsDigits_exponentForm hrest hexponent)]
      simp only [List.cons_append, skipFraction, if_pos hb, hdigits, htail]

/-- What has the form of a number is passed over. -/
theorem skip_append {n : Bytes} (h : UnsignedForm n) : skip (n ++ rest) = .ok rest := by
  obtain @⟨whole, fraction, exponent, hwhole, hfraction, hexponent⟩ := h
  have hparts := skipFraction_append hrest hfraction hexponent
  have hstops : StopsDigits (fraction ++ (exponent ++ rest)) := by
    cases hfraction with
    | none => exact stopsDigits_exponentForm hrest hexponent
    | point => exact stopsDigits_cons rfl _
  rw [List.append_assoc, List.append_assoc]
  generalize fraction ++ (exponent ++ rest) = t at hparts hstops
  cases hwhole with
  | zero =>
      cases t with
      | nil => exact hparts
      | cons c t =>
          have hc : isDigit c = false := by rw [isDigit, hstops c t rfl]; rfl
          simp [skip, hc, hparts]
  | @digits b s hzero hdigits =>
      obtain ⟨c, digits, heq, hc, hskip⟩ := hdigits.exists_cons
      obtain ⟨rfl, rfl⟩ := List.cons.inj heq
      rw [List.cons_append, skip.eq_def]
      split
      · contradiction
      · next heq => exact absurd (List.cons.inj heq).1 hzero
      · next heq =>
        obtain ⟨rfl, rfl⟩ := List.cons.inj heq
        rw [if_pos hc, hskip t hstops, hparts]

end

end Number

end AnalysisGateway.Json
