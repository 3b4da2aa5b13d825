import AnalysisGateway.Proofs.Json.Value
import AnalysisGateway.Proofs.Number.Binary

/-!
# Reading decimals

A number with a point, an exponent or both is read as some double; which one it is does not matter
here. The digits are taken to their end, and the double stays finite if the whole part and the
exponent are of moderate size.
-/

namespace AnalysisGateway.Json.Number

/-! ## Scaling -/

/-- Dividing by a power of ten always gives a double. -/
theorem exists_scale_of_neg (fuel f : Nat) {e : Int} (he : e < 0) :
    ∃ bits, scale fuel f e = some bits := by
  induction fuel generalizing f e with
  | zero => exact ⟨f, rfl⟩
  | succ fuel ih =>
      rw [scale]
      split
      · rw [if_neg (by omega)]
        exact ⟨_, rfl⟩
      split
      · exact ⟨0, rfl⟩
      rw [if_neg (by omega)]
      exact ih _ (by omega)

/-- Multiplying 64 bits by a moderate power of ten does too. -/
theorem exists_scale {significand : Nat} (h : significand < 2 ^ 64) {e : Int} (he : e ≤ 200) :
    ∃ bits, scale 4 (Binary.double.ofNat significand) e = some bits := by
  by_cases hneg : e < 0
  · exact exists_scale_of_neg 4 _ hneg
  have hpower : 10 ^ e.natAbs < 2 ^ (4 * e.natAbs + 1) := by
    calc
      10 ^ e.natAbs ≤ (2 ^ 4) ^ e.natAbs := Nat.pow_le_pow_left (by decide) _
      _ = 2 ^ (4 * e.natAbs) := (Nat.pow_mul ..).symm
      _ < 2 ^ (4 * e.natAbs + 1) := Nat.pow_lt_pow_succ (by decide)
  have hfinite := Binary.mul_lt_infinity (Binary.ofNat_le h) (Binary.ofNat_le hpower) (by omega)
  rw [scale, if_pos (by omega)]
  simp only [Nat.pow_eq]
  rw [if_pos (by omega), if_neg (Nat.ne_of_lt hfinite)]
  exact ⟨_, rfl⟩

theorem exists_ofParts (negative : Bool) {significand : Nat} (h : significand < 2 ^ 64) {e : Int}
    (he : e ≤ 200) : ∃ n, ∀ rest, ofParts negative significand e rest = .ok (n, rest) := by
  obtain ⟨bits, hbits⟩ := exists_scale h he
  exact ⟨_, fun rest => by rw [ofParts, hbits]⟩

/-! ## Digits -/

/-- No digit comes next. -/
def StopsDigits (tail : Bytes) : Prop := ∀ b rest, tail = b :: rest → digit? b = none

theorem stopsDigits_of_ends {rest : Bytes} (h : Ends rest) : StopsDigits rest := by
  rintro b rest rfl
  exact digit?_of_ends h

theorem stopsDigits_cons {b : UInt8} (h : digit? b = none) (rest : Bytes) :
    StopsDigits (b :: rest) := by
  rintro c rest' heq
  rw [← (List.cons.inj heq).1, h]

theorem stopsDigits_point (s : List Char) (tail : Bytes) :
    StopsDigits (Text.encode ('.' :: s) ++ tail) :=
  stopsDigits_cons (show digit? 0x2E = none from rfl) _

theorem stopsDigits_exponent (tail : Bytes) : StopsDigits (0x65 :: tail) :=
  stopsDigits_cons (show digit? 0x65 = none from rfl) tail

/-- The digits of an integer are taken to their end. -/
theorem exists_wholeDigits {digits : List Char} (hdigits : ∀ c ∈ digits, c.isDigit = true)
    {value : Nat} (hvalue : value < 2 ^ 64) (dropped : Nat) :
    ∃ significand more, significand < 2 ^ 64 ∧ more ≤ dropped + digits.length ∧
      ∀ tail, StopsDigits tail →
        wholeDigits value dropped (Text.encode digits ++ tail) = (significand, more, tail) := by
  induction digits generalizing value dropped with
  | nil =>
      refine ⟨value, dropped, hvalue, Nat.le_refl _, fun tail htail => ?_⟩
      cases tail with
      | nil => simp [wholeDigits]
      | cons b rest => simp [wholeDigits, htail b rest rfl]
  | cons c digits ih =>
      obtain ⟨hascii, hdigit⟩ := digit?_of_isDigit (hdigits c List.mem_cons_self)
      have hrest : ∀ c ∈ digits, c.isDigit = true := fun c hc =>
        hdigits c (List.mem_cons_of_mem _ hc)
      have hstep : ∀ tail, wholeDigits value dropped (Text.encode (c :: digits) ++ tail) =
          if dropped = 0 ∧ value * 10 + (c.toNat - '0'.toNat) < 2 ^ 64 then
            wholeDigits (value * 10 + (c.toNat - '0'.toNat)) 0 (Text.encode digits ++ tail)
          else wholeDigits value (dropped + 1) (Text.encode digits ++ tail) := fun tail => by
        rw [Text.encode_cons_of_lt hascii, List.cons_append, wholeDigits, hdigit, Nat.pow_eq]
      by_cases hfits : dropped = 0 ∧ value * 10 + (c.toNat - '0'.toNat) < 2 ^ 64
      · obtain ⟨significand, more, hlt, hle, hread⟩ := ih hrest hfits.2 0
        refine ⟨significand, more, hlt, by rw [List.length_cons]; omega, fun tail htail => ?_⟩
        rw [hstep, if_pos hfits, hread tail htail]
      · obtain ⟨significand, more, hlt, hle, hread⟩ := ih hrest hvalue (dropped + 1)
        refine ⟨significand, more, hlt, by rw [List.length_cons]; omega, fun tail htail => ?_⟩
        rw [hstep, if_neg hfits, hread tail htail]

/-- The digits of a number are digits where they are written. -/
theorem isDigit_of_mem_encode {digits : List Char} (hdigits : ∀ c ∈ digits, c.isDigit = true) :
    ∀ b ∈ Text.encode digits, isDigit b = true := by
  induction digits with
  | nil => exact fun _ hb => absurd hb List.not_mem_nil
  | cons c digits ih =>
      obtain ⟨hascii, hdigit⟩ := digit?_of_isDigit (hdigits c List.mem_cons_self)
      rw [Text.encode_cons_of_lt hascii]
      exact List.forall_mem_cons.mpr
        ⟨by rw [isDigit, hdigit]; rfl, ih fun c hc => hdigits c (List.mem_cons_of_mem _ hc)⟩

/-- Digits are passed over to their end. -/
theorem skipDigits_append {digits : Bytes} (hdigits : ∀ b ∈ digits, isDigit b = true)
    {tail : Bytes} (htail : StopsDigits tail) : skipDigits (digits ++ tail) = tail := by
  rw [skipDigits, List.dropWhile_append_of_pos hdigits]
  cases tail with
  | nil => rfl
  | cons b rest => exact List.dropWhile_cons_of_neg (by simp [isDigit, htail b rest rfl])

/-- So are the digits of a fraction, whether they still count or not. -/
theorem exists_fractionDigits {digits : List Char} (hdigits : ∀ c ∈ digits, c.isDigit = true)
    {value : Nat} (hvalue : value < 2 ^ 64) (taken : Nat) :
    ∃ significand more, significand < 2 ^ 64 ∧
      ∀ tail, StopsDigits tail →
        fractionDigits value taken (Text.encode digits ++ tail) = (significand, more, tail) := by
  induction digits generalizing value taken with
  | nil =>
      refine ⟨value, taken, hvalue, fun tail htail => ?_⟩
      cases tail with
      | nil => simp [fractionDigits]
      | cons b rest => simp [fractionDigits, htail b rest rfl]
  | cons c digits ih =>
      obtain ⟨hascii, hdigit⟩ := digit?_of_isDigit (hdigits c List.mem_cons_self)
      have hrest : ∀ c ∈ digits, c.isDigit = true := fun c hc =>
        hdigits c (List.mem_cons_of_mem _ hc)
      have hstep : ∀ tail, fractionDigits value taken (Text.encode (c :: digits) ++ tail) =
          if value * 10 + (c.toNat - '0'.toNat) < 2 ^ 64 then
            fractionDigits (value * 10 + (c.toNat - '0'.toNat)) (taken + 1)
              (Text.encode digits ++ tail)
          else (value, taken, skipDigits (Text.encode digits ++ tail)) := fun tail => by
        rw [Text.encode_cons_of_lt hascii, List.cons_append, fractionDigits, hdigit, Nat.pow_eq]
      by_cases hfits : value * 10 + (c.toNat - '0'.toNat) < 2 ^ 64
      · obtain ⟨significand, more, hlt, hread⟩ := ih hrest hfits (taken + 1)
        refine ⟨significand, more, hlt, fun tail htail => ?_⟩
        rw [hstep, if_pos hfits, hread tail htail]
      · refine ⟨value, taken, hvalue, fun tail htail => ?_⟩
        rw [hstep, if_neg hfits, skipDigits_append (isDigit_of_mem_encode hrest) htail]

/-- The digits of an exponent within bounds are taken to their end. -/
theorem exponentDigits_append {digits : List Char} (hdigits : ∀ c ∈ digits, c.isDigit = true)
    {value : Nat} (hfits : Nat.ofDigitChars 10 digits value ≤ greatestExponent) {tail : Bytes}
    (htail : StopsDigits tail) :
    exponentDigits value (Text.encode digits ++ tail) =
      (some (Nat.ofDigitChars 10 digits value), tail) := by
  induction digits generalizing value with
  | nil =>
      cases tail with
      | nil => simp [exponentDigits]
      | cons b rest => simp [exponentDigits, htail b rest rfl]
  | cons c digits ih =>
      obtain ⟨hascii, hdigit⟩ := digit?_of_isDigit (hdigits c List.mem_cons_self)
      rw [Nat.ofDigitChars_cons] at hfits ⊢
      have hle := Numeral.le_ofDigitChars digits (10 * value + (c.toNat - '0'.toNat))
      have hvalue : value * 10 + (c.toNat - '0'.toNat) = 10 * value + (c.toNat - '0'.toNat) := by
        omega
      rw [Text.encode_cons_of_lt hascii, List.cons_append, exponentDigits, hdigit]
      simp only [hvalue]
      rw [if_pos (by omega)]
      exact ih (fun c hc => hdigits c (List.mem_cons_of_mem _ hc)) hfits

/-! ## Exponents -/

/-- The digits of a number, as a first one and the others. -/
theorem exists_digits_cons (n : Nat) :
    ∃ c digits, Nat.toDigits 10 n = c :: digits ∧ c.isDigit = true ∧
      (∀ c ∈ digits, c.isDigit = true) ∧
      Nat.ofDigitChars 10 digits (c.toNat - '0'.toNat) = n := by
  obtain ⟨c, digits, hcons⟩ :=
    List.exists_cons_of_ne_nil (Nat.toDigits_ne_nil (n := n) (b := 10))
  have hall : ∀ c ∈ Nat.toDigits 10 n, c.isDigit = true := fun c hc =>
    Nat.isDigit_of_mem_toDigits (by decide) (by decide) hc
  have hvalue := Nat.ofDigitChars_ten_toDigits (n := n)
  rw [hcons] at hall hvalue
  rw [Nat.ofDigitChars_cons, Nat.mul_zero, Nat.zero_add] at hvalue
  exact ⟨c, digits, hcons, hall c List.mem_cons_self,
    fun c hc => hall c (List.mem_cons_of_mem _ hc), hvalue⟩

/-- A written exponent is added to the one that the digits gave. -/
theorem readExponent_exponentChars (negative : Bool) (significand : Nat) (start : Int) {e : Int}
    (he : e.natAbs ≤ greatestExponent) {rest : Bytes} (hrest : Ends rest) :
    ∃ tail, Text.encode (Decimal.exponentChars singleStyle e) ++ rest = 0x65 :: tail ∧
      readExponent negative significand start tail =
        ofParts negative significand (start + e) rest := by
  obtain ⟨c, digits, hcons, hc, hdigits, hvalue⟩ := exists_digits_cons e.natAbs
  obtain ⟨hascii, hdigit⟩ := digit?_of_isDigit hc
  have hloop := exponentDigits_append hdigits (by rw [hvalue]; exact he) (stopsDigits_of_ends hrest)
  rw [hvalue] at hloop
  have hdigitChars : Text.encode (Decimal.digitChars e.natAbs) ++ rest =
      UInt8.ofNat c.toNat :: (Text.encode digits ++ rest) := by
    rw [Decimal.digitChars, hcons, Text.encode_cons_of_lt hascii, List.cons_append]
  by_cases hneg : e < 0
  · refine ⟨0x2D :: (Text.encode (Decimal.digitChars e.natAbs) ++ rest), ?_, ?_⟩
    · rw [Decimal.exponentChars, if_pos hneg, Text.encode_append]
      rfl
    · rw [hdigitChars, readExponent]
      simp only [hdigit, hloop, if_true]
      rw [show start - (e.natAbs : Int) = start + e by omega]
  · refine ⟨0x2B :: (Text.encode (Decimal.digitChars e.natAbs) ++ rest), ?_, ?_⟩
    · rw [Decimal.exponentChars, if_neg hneg, Text.encode_append]
      rfl
    · rw [hdigitChars, readExponent]
      simp only [hdigit, hloop, Bool.false_eq_true, if_false]
      rw [show start + (e.natAbs : Int) = start + e by omega]

/-! ## Decimals -/

/-- The digits before a point or an exponent: no leading zero unless it is alone. -/
def IsWhole (whole : List Char) : Prop :=
  (∀ c ∈ whole, c.isDigit = true) ∧
    ∃ c digits, whole = c :: digits ∧ (c = '0' → digits = [])

/-- The whole part is taken to its end. -/
theorem exists_read_whole (negative : Bool) {whole : List Char} (h : IsWhole whole) :
    ∃ significand more, significand < 2 ^ 64 ∧ more ≤ whole.length ∧
      ∀ tail, StopsDigits tail →
        read negative (Text.encode whole ++ tail) = readTail negative significand more tail := by
  obtain ⟨hall, c, digits, rfl, hzero⟩ := h
  have hc := hall c List.mem_cons_self
  obtain ⟨hascii, hdigit⟩ := digit?_of_isDigit hc
  have hrange : '0'.toNat ≤ c.toNat ∧ c.toNat ≤ '9'.toNat := Char.isDigit_iff_toNat.mp hc
  have hbytes : ∀ tail, Text.encode (c :: digits) ++ tail =
      UInt8.ofNat c.toNat :: (Text.encode digits ++ tail) := fun tail => by
    rw [Text.encode_cons_of_lt hascii, List.cons_append]
  by_cases hc0 : c = '0'
  · obtain rfl := hzero hc0
    subst hc0
    refine ⟨0, 0, by decide, Nat.zero_le _, fun tail htail => ?_⟩
    rw [hbytes]
    unfold Number.read
    cases tail with
    | nil => rfl
    | cons b rest =>
        have hnone := htail b rest rfl
        simp only [show digit? (UInt8.ofNat '0'.toNat) = some 0 from rfl, Text.encode_nil,
          List.nil_append, isDigit, hnone, Option.isSome_none, Bool.false_eq_true, if_false]
  · obtain ⟨k, hk⟩ : ∃ k, c.toNat - '0'.toNat = k + 1 := by
      have hne : c.toNat ≠ '0'.toNat := fun h => hc0 (Char.toNat_inj.mp h)
      exact ⟨c.toNat - '0'.toNat - 1, by omega⟩
    obtain ⟨significand, more, hlt, hle, hread⟩ := exists_wholeDigits
      (fun c hc => hall c (List.mem_cons_of_mem _ hc)) (show k + 1 < 2 ^ 64 by omega) 0
    refine ⟨significand, more, hlt, by rw [List.length_cons]; omega, fun tail htail => ?_⟩
    rw [hbytes]
    unfold Number.read
    rw [hk] at hdigit
    simp only [hdigit, hread tail htail]

/-- What stands behind the whole part: a fraction, an exponent, or both. -/
inductive SpellsTail : Int → List Char → Prop where
  | fraction {digits : List Char} (hne : digits ≠ []) (h : ∀ c ∈ digits, c.isDigit = true) :
      SpellsTail 0 ('.' :: digits)
  | exponent (e : Int) : SpellsTail e (Decimal.exponentChars singleStyle e)
  | both {digits : List Char} (hne : digits ≠ []) (h : ∀ c ∈ digits, c.isDigit = true) (e : Int) :
      SpellsTail e ('.' :: digits ++ Decimal.exponentChars singleStyle e)

/-- A fraction is taken to its end, and lowers the exponent. -/
theorem exists_readTail_fraction (negative : Bool) {significand : Nat} (hlt : significand < 2 ^ 64)
    (start : Nat) {digits : List Char} (hne : digits ≠ [])
    (hdigits : ∀ c ∈ digits, c.isDigit = true) :
    ∃ n taken, n < 2 ^ 64 ∧
      (∀ rest, Ends rest → readTail negative significand start
        (Text.encode ('.' :: digits) ++ rest) = ofParts negative n (start - (taken : Nat)) rest) ∧
      ∀ tail, readTail negative significand start
        (Text.encode ('.' :: digits) ++ 0x65 :: tail) =
          readExponent negative n (start - (taken : Nat)) tail := by
  obtain ⟨n, taken, hn, hread⟩ := exists_fractionDigits hdigits hlt 0
  obtain ⟨c, more, rfl⟩ := List.exists_cons_of_ne_nil hne
  obtain ⟨hascii, hdigit⟩ := digit?_of_isDigit (hdigits c List.mem_cons_self)
  have hbytes : ∀ tail, Text.encode (c :: more) ++ tail =
      UInt8.ofNat c.toNat :: (Text.encode more ++ tail) := fun tail => by
    rw [Text.encode_cons_of_lt hascii, List.cons_append]
  have hpoint : ∀ tail, Text.encode ('.' :: c :: more) ++ tail =
      0x2E :: (Text.encode (c :: more) ++ tail) := fun _ => rfl
  have hfirst : isDigit (UInt8.ofNat c.toNat) = true := by rw [isDigit, hdigit]; rfl
  refine ⟨n, taken, hn, fun rest hrest => ?_, fun tail => ?_⟩
  · have hloop := hread rest (stopsDigits_of_ends hrest)
    rw [hbytes] at hloop
    rw [hpoint, readTail, hbytes, readFraction]
    simp only [hfirst, if_true, hloop]
    split
    · simp [Ends, isBlankByte] at hrest
    · simp [Ends, isBlankByte] at hrest
    · rfl
  · have hloop := hread _ (stopsDigits_exponent tail)
    rw [hbytes] at hloop
    rw [hpoint, readTail, hbytes, readFraction]
    simp only [hfirst, if_true, hloop]

/-- **A decimal is read** if its whole part and its exponent are of moderate size. -/
theorem exists_read_decimal (negative : Bool) {whole tail : List Char} {e : Int}
    (hwhole : IsWhole whole) (htail : SpellsTail e tail) (he : e.natAbs ≤ greatestExponent)
    (hsize : whole.length + e ≤ 200) :
    ∃ n, ∀ rest, Ends rest →
      read negative (Text.encode (whole ++ tail) ++ rest) = .ok (n, rest) := by
  obtain ⟨significand, more, hlt, hmore, hread⟩ := exists_read_whole negative hwhole
  cases htail with
  | @fraction digits hne hdigits =>
      obtain ⟨n, taken, hn, hends, -⟩ := exists_readTail_fraction negative hlt more hne hdigits
      obtain ⟨number, hparts⟩ := exists_ofParts negative hn (e := more - (taken : Nat)) (by omega)
      refine ⟨number, fun rest hrest => ?_⟩
      rw [Text.encode_append, List.append_assoc, hread _ (stopsDigits_point digits rest),
        hends rest hrest, hparts]
  | exponent e =>
      obtain ⟨number, hparts⟩ := exists_ofParts negative hlt (e := more + e) (by omega)
      refine ⟨number, fun rest hrest => ?_⟩
      obtain ⟨tail, htail, hexponent⟩ :=
        readExponent_exponentChars negative significand more he hrest
      rw [Text.encode_append, List.append_assoc, htail, hread _ (stopsDigits_exponent tail),
        readTail, hexponent, hparts]
  | @both digits hne hdigits e =>
      obtain ⟨n, taken, hn, -, hgoes⟩ := exists_readTail_fraction negative hlt more hne hdigits
      obtain ⟨number, hparts⟩ := exists_ofParts negative hn (e := more - (taken : Nat) + e)
        (by omega)
      refine ⟨number, fun rest hrest => ?_⟩
      obtain ⟨tail, htail, hexponent⟩ :=
        readExponent_exponentChars negative n (more - (taken : Nat)) he hrest
      rw [Text.encode_append, Text.encode_append, List.append_assoc, List.append_assoc, htail,
        hread _ (stopsDigits_point digits _), hgoes, hexponent, hparts]

end AnalysisGateway.Json.Number
