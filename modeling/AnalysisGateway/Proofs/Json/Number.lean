import AnalysisGateway.Proofs.Json.Reads
import AnalysisGateway.Proofs.Number.Numeral

/-!
# Reading every spelling of an integer

An integer of 64 bits is read back from its decimal digits: the loop over the digits drops none as
long as the value fits, and stops at whatever may follow a value.
-/

namespace AnalysisGateway.Json

/-! ## Digits -/

/-- A digit is ASCII, and is read as its value. -/
theorem digit?_of_isDigit {c : Char} (h : c.isDigit = true) :
    c.toNat < 0x80 ∧ digit? (UInt8.ofNat c.toNat) = some (c.toNat - '0'.toNat) := by
  have hrange : 48 ≤ c.toNat ∧ c.toNat ≤ 57 := Char.isDigit_iff_toNat.mp h
  have hbyte : (UInt8.ofNat c.toNat).toNat = c.toNat := by rw [UInt8.toNat_ofNat']; omega
  refine ⟨by omega, ?_⟩
  rw [digit?, if_pos ⟨UInt8.le_iff_toNat_le.mpr (by rw [hbyte]; exact hrange.1),
    UInt8.le_iff_toNat_le.mpr (by rw [hbyte]; exact hrange.2)⟩, hbyte]
  rfl

/-- What may follow a value is no digit. -/
theorem digit?_of_ends {b : UInt8} {rest : Bytes} (h : Ends (b :: rest)) : digit? b = none := by
  simp only [Ends, isBlankByte, Bool.or_eq_true, beq_iff_eq] at h
  obtain (((rfl | rfl) | rfl) | rfl) | rfl | rfl | rfl := h
  all_goals rfl

/-- A digit is no other byte. -/
theorem ne_of_isDigit {b c : UInt8} (hb : isDigit b = true) (hc : isDigit c = false) : b ≠ c := by
  rintro rfl
  rw [hb] at hc
  contradiction

theorem isBlankByte_of_isDigit {b : UInt8} (hb : isDigit b = true) : isBlankByte b = false := by
  simp [isBlankByte, ne_of_isDigit hb (show isDigit 0x20 = false from rfl),
    ne_of_isDigit hb (show isDigit 0x09 = false from rfl),
    ne_of_isDigit hb (show isDigit 0x0A = false from rfl),
    ne_of_isDigit hb (show isDigit 0x0D = false from rfl)]

namespace Number

/-- The loop takes all digits of a value that fits, and nothing else. -/
theorem wholeDigits_append {digits : List Char} (hdigits : ∀ c ∈ digits, c.isDigit = true)
    {value : Nat} (hfits : Nat.ofDigitChars 10 digits value < 2 ^ 64) {rest : Bytes}
    (hrest : Ends rest) :
    wholeDigits value 0 (Text.encode digits ++ rest) =
      (Nat.ofDigitChars 10 digits value, 0, rest) := by
  induction digits generalizing value with
  | nil =>
      cases rest with
      | nil => simp [wholeDigits]
      | cons b rest => simp [wholeDigits, digit?_of_ends hrest]
  | cons c digits ih =>
      obtain ⟨hascii, hdigit⟩ := digit?_of_isDigit (hdigits c List.mem_cons_self)
      rw [Nat.ofDigitChars_cons] at hfits ⊢
      have hle := Numeral.le_ofDigitChars digits (10 * value + (c.toNat - '0'.toNat))
      have hvalue : value * 10 + (c.toNat - '0'.toNat) = 10 * value + (c.toNat - '0'.toNat) := by
        omega
      rw [Text.encode_cons_of_lt hascii, List.cons_append, wholeDigits, hdigit]
      simp only [hvalue, Nat.pow_eq]
      rw [if_pos ⟨trivial, by omega⟩]
      exact ih (fun c hc => hdigits c (List.mem_cons_of_mem _ hc)) hfits

/-- What may follow a value does not go on with a number. -/
theorem readTail_of_ends (negative : Bool) (n : Nat) {rest : Bytes} (hrest : Ends rest) :
    readTail negative n 0 rest = .ok (ofWhole negative n, rest) := by
  unfold readTail
  split
  · simp [Ends, isBlankByte] at hrest
  · simp [Ends, isBlankByte] at hrest
  · simp [Ends, isBlankByte] at hrest
  · rw [if_pos rfl]

/-- The first digit of a positive number is not zero. -/
theorem exists_toDigits_eq_cons {n : Nat} (h : 0 < n) :
    ∃ d digits, Nat.toDigits 10 n = Nat.digitChar d :: digits ∧ 0 < d ∧ d < 10 := by
  induction n using Nat.strongRecOn with
  | ind n ih =>
      by_cases hsmall : n < 10
      · exact ⟨n, [], Nat.toDigits_of_lt_base hsmall, h, hsmall⟩
      · obtain ⟨d, digits, heq, hd⟩ := ih (n / 10) (by omega) (by omega)
        refine ⟨d, digits ++ [Nat.digitChar (n % 10)], ?_, hd⟩
        rw [Nat.toDigits_of_base_le (by decide) (by omega), heq, List.cons_append]

/-- **The digits of a number that fits are read as the number**, up to its sign. -/
theorem read_toDigits (negative : Bool) {n : Nat} (hfits : n < 2 ^ 64) {rest : Bytes}
    (hrest : Ends rest) :
    read negative (Text.encode (Nat.toDigits 10 n) ++ rest) = .ok (ofWhole negative n, rest) := by
  by_cases hzero : n = 0
  · subst hzero
    have hdigits : Text.encode (Nat.toDigits 10 0) ++ rest = 0x30 :: rest := by
      rw [Nat.toDigits_zero]; rfl
    rw [hdigits]
    unfold Number.read
    cases rest with
    | nil => rfl
    | cons b rest =>
        have hnone := digit?_of_ends hrest
        have htail := readTail_of_ends negative 0 hrest
        simp only [show digit? 0x30 = some 0 from rfl, isDigit, hnone, Option.isSome_none,
          Bool.false_eq_true, if_false, htail]
  · obtain ⟨d, digits, heq, hpos, hlt⟩ := exists_toDigits_eq_cons (Nat.pos_of_ne_zero hzero)
    have hall : ∀ c ∈ Nat.toDigits 10 n, c.isDigit = true := fun c hc =>
      Nat.isDigit_of_mem_toDigits (by decide) (by decide) hc
    rw [heq] at hall
    have hvalue : Nat.ofDigitChars 10 digits d = n := by
      have h := Nat.ofDigitChars_ten_toDigits (n := n)
      rwa [heq, Nat.ofDigitChars_cons_digitChar_of_lt_ten hlt, Nat.mul_zero, Nat.zero_add] at h
    obtain ⟨hascii, hdigit⟩ := digit?_of_isDigit (hall _ List.mem_cons_self)
    rw [Nat.toNat_digitChar_of_lt_ten hlt, show 48 + d - '0'.toNat = d by simp] at hdigit
    have hloop := wholeDigits_append (fun c hc => hall c (List.mem_cons_of_mem _ hc))
      (by rw [hvalue]; exact hfits) hrest
    rw [heq, Text.encode_cons_of_lt hascii, List.cons_append, Nat.toNat_digitChar_of_lt_ten hlt]
    obtain ⟨k, rfl⟩ : ∃ k, d = k + 1 := ⟨d - 1, by omega⟩
    unfold Number.read
    simp only [hdigit, hloop, hvalue, readTail_of_ends negative n hrest]

/-- A natural number that fits begins with a digit, and is read as itself. -/
theorem exists_read_natural {n : Nat} (hfits : n < 2 ^ 64) :
    ∃ b tail, Text.encode (Nat.toDigits 10 n) = b :: tail ∧ isDigit b = true ∧
      ∀ rest, Ends rest → read false (b :: (tail ++ rest)) = .ok (.natural n, rest) := by
  obtain ⟨d, digits, hcons⟩ := List.exists_cons_of_ne_nil (Nat.toDigits_ne_nil (n := n) (b := 10))
  have hd : d.isDigit = true := Nat.isDigit_of_mem_toDigits (by decide) (by decide)
    (hcons ▸ List.mem_cons_self)
  obtain ⟨hascii, hdigit⟩ := digit?_of_isDigit hd
  have hs : Text.encode (Nat.toDigits 10 n) = UInt8.ofNat d.toNat :: Text.encode digits := by
    rw [hcons, Text.encode_cons_of_lt hascii]
  refine ⟨_, _, hs, by rw [isDigit, hdigit]; rfl, fun rest hrest => ?_⟩
  rw [← List.cons_append, ← hs, read_toDigits false hfits hrest]
  rfl

end Number

end AnalysisGateway.Json
