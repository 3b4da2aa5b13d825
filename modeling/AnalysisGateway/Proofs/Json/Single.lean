import AnalysisGateway.Json.Writer
import AnalysisGateway.Proofs.Json.Real
import AnalysisGateway.Proofs.Number.Decimal

/-!
# Reading written singles

Every single that is written as JSON is read again: one that is infinite or not a number as null,
any other as a number. The text of a finite one is a decimal of moderate size (`IsDecimal`), because
its shortest digits and their exponent are bounded.
-/

namespace AnalysisGateway.Json

namespace Number

open Decimal (digitChars)

/-- A decimal with a point, an exponent or both, whose whole part and exponent are of moderate
size. -/
def IsDecimal (s : List Char) : Prop :=
  ∃ whole tail e, s = whole ++ tail ∧ IsWhole whole ∧ SpellsTail e tail ∧
    whole.length + e.natAbs ≤ 200

/-! ## Digits of positive numbers -/

theorem isDigit_of_mem_digitChars {n : Nat} {c : Char} (h : c ∈ digitChars n) :
    c.isDigit = true :=
  Nat.isDigit_of_mem_toDigits (by decide) (by decide) h

/-- The digits of a positive number do not begin with zero. -/
theorem exists_digitChars_eq_cons {n : Nat} (h : n ≠ 0) :
    ∃ c digits, digitChars n = c :: digits ∧ c ≠ '0' := by
  obtain ⟨d, digits, heq, hpos, hlt⟩ := exists_toDigits_eq_cons (Nat.pos_of_ne_zero h)
  refine ⟨_, digits, heq, fun hzero => ?_⟩
  have hvalue := Nat.toNat_digitChar_of_lt_ten hlt
  rw [hzero] at hvalue
  simp at hvalue
  omega

/-- Digits that do not begin with zero are a whole part. -/
theorem isWhole_cons {c : Char} {digits : List Char} (hc : c ≠ '0')
    (h : ∀ x ∈ c :: digits, x.isDigit = true) : IsWhole (c :: digits) :=
  ⟨h, c, digits, rfl, fun hzero => absurd hzero hc⟩

theorem isDigit_of_mem_append {s t : List Char} (hs : ∀ x ∈ s, x.isDigit = true)
    (ht : ∀ x ∈ t, x.isDigit = true) : ∀ x ∈ s ++ t, x.isDigit = true := by
  intro x hx
  obtain hx | hx := List.mem_append.mp hx
  · exact hs x hx
  · exact ht x hx

theorem isDigit_of_mem_replicate {n : Nat} {c : Char} (h : c ∈ List.replicate n '0') :
    c.isDigit = true := by
  rw [List.eq_of_mem_replicate h]
  rfl

/-! ## The two notations -/

section

variable {d : Decimal} (hne : d.digits ≠ 0)

include hne

/-- Positional notation: the point stands behind the digits, among them, or in front of them. -/
theorem isDecimal_positional (hsize : d.exponent + (digitChars d.digits).length ≤ 200) :
    IsDecimal (Decimal.positional d) := by
  obtain ⟨c, digits, hcons, hc⟩ := exists_digitChars_eq_cons hne
  have hall : ∀ x ∈ digitChars d.digits, x.isDigit = true := fun _ => isDigit_of_mem_digitChars
  have hzeros : ∀ n, ∀ x ∈ List.replicate n '0', x.isDigit = true :=
    fun _ _ => isDigit_of_mem_replicate
  simp only [Decimal.positional]
  split
  · refine ⟨digitChars d.digits ++ List.replicate d.exponent.toNat '0', ['.', '0'], 0, rfl, ?_,
      .fraction (by simp) (by simp), ?_⟩
    · rw [hcons] at hall ⊢
      exact isWhole_cons hc (isDigit_of_mem_append hall (hzeros _))
    · rw [List.length_append, List.length_replicate]
      omega
  split
  · generalize hwhole : ((digitChars d.digits).length + d.exponent).toNat = whole
    refine ⟨(digitChars d.digits).take whole, '.' :: (digitChars d.digits).drop whole, 0,
      List.append_assoc .., ?_, .fraction ?_ fun x hx => hall x (List.mem_of_mem_drop hx), ?_⟩
    · obtain ⟨k, rfl⟩ : ∃ k, whole = k + 1 := ⟨whole - 1, by omega⟩
      rw [hcons] at hall ⊢
      exact isWhole_cons hc fun x hx => hall x (List.mem_of_mem_take (i := k + 1) hx)
    · rw [Ne, List.drop_eq_nil_iff]
      omega
    · rw [List.length_take]
      omega
  · generalize (-((digitChars d.digits).length + d.exponent)).toNat = n
    have hfraction : List.replicate n '0' ++ digitChars d.digits ≠ [] := by simp [hcons]
    exact ⟨['0'], _, 0, rfl, ⟨by simp, _, _, rfl, fun _ => rfl⟩,
      .fraction hfraction (isDigit_of_mem_append (hzeros n) hall), by decide⟩

/-- Scientific notation: the first digit, perhaps a point and the others, and the exponent. -/
theorem isDecimal_scientific
    (hsize : (d.exponent + (digitChars d.digits).length - 1).natAbs ≤ 199) :
    IsDecimal (Decimal.scientific singleStyle d) := by
  obtain ⟨c, digits, hcons, hc⟩ := exists_digitChars_eq_cons hne
  have hall : ∀ x ∈ c :: digits, x.isDigit = true :=
    hcons ▸ fun _ => isDigit_of_mem_digitChars
  have hwhole : IsWhole [c] := isWhole_cons hc fun x hx =>
    hall x (List.mem_cons.mpr (.inl (List.mem_singleton.mp hx)))
  rw [Decimal.scientific, hcons]
  rw [hcons, List.length_cons] at hsize
  cases digits with
  | nil => exact ⟨[c], _, _, rfl, hwhole, .exponent _, by simp at hsize ⊢; omega⟩
  | cons x more =>
      have hsize : (1 : Nat) + (d.exponent + ((x :: more).length : Nat)).natAbs ≤ 200 := by omega
      exact ⟨[c], _, _, rfl, hwhole,
        .both (List.cons_ne_nil x more) (fun y hy => hall y (List.mem_cons_of_mem c hy)) _, hsize⟩

end

/-! ## Singles -/

section

variable {m : Nat} {q : Int}

/-- A positive single is written as a decimal of moderate size. -/
theorem isDecimal_chars (hm : m ≠ 0) (hlt : m < 2 ^ 24) (hlow : -149 ≤ q) (hhigh : q ≤ 104) :
    IsDecimal (Decimal.chars singleStyle (Decimal.shortest Binary.single singleStyle.tie m q)) := by
  obtain ⟨hne, hdigits, hleast, hgreatest⟩ :=
    Decimal.shortest_spec singleStyle.tie hm hlt hlow hhigh
  generalize Decimal.shortest Binary.single singleStyle.tie m q = d at *
  have hpos : 0 < (digitChars d.digits).length := Nat.length_toDigits_pos
  have hlength : (digitChars d.digits).length ≤ 107 := by
    have h : d.digits < 10 ^ 107 := Nat.lt_of_le_of_lt hdigits (by decide)
    exact (Nat.length_toDigits_le_iff (by decide) (by decide)).mpr h
  rw [Decimal.chars]
  split
  · exact isDecimal_positional hne (by omega)
  · exact isDecimal_scientific hne (by omega)

/-- What a finite single stands for. -/
theorem magnitude_single {bits : Nat} (h : Binary.single.magnitude bits = .finite m q) :
    m < 2 ^ 24 ∧ -149 ≤ q ∧ q ≤ 104 := by
  have hleast : Binary.single.leastPower = -149 := by decide
  have hbits : Binary.single.magnitudeBits bits < 2 ^ 31 := Nat.mod_lt _ (by decide)
  simp only [Binary.Layout.magnitude, hleast, show Binary.single.fraction = 23 from rfl,
    show Binary.single.exponent = 8 from rfl, Nat.pow_eq] at h
  generalize Binary.single.magnitudeBits bits = b at h hbits
  split at h
  · obtain ⟨rfl, rfl⟩ := Binary.Magnitude.finite.inj h
    omega
  split at h
  · split at h <;> contradiction
  · obtain ⟨rfl, rfl⟩ := Binary.Magnitude.finite.inj h
    omega

/-- So is zero, and every other finite one apart from its sign. -/
theorem isDecimal_magnitudeChars {bits : Nat} (h : Binary.single.magnitude bits = .finite m q) :
    IsDecimal (Decimal.magnitudeChars Binary.single singleStyle m q) := by
  obtain ⟨hlt, hlow, hhigh⟩ := magnitude_single h
  rw [Decimal.magnitudeChars]
  split
  · exact ⟨['0'], ['.', '0'], 0, rfl, ⟨by simp, _, _, rfl, fun _ => rfl⟩,
      .fraction (by simp) (by simp), by decide⟩
  · next hm => exact isDecimal_chars hm hlt hlow hhigh

end

end Number

/-! ## Values -/

/-- A decimal of moderate size is read as a number. -/
theorem exists_reads_decimal {s : List Char} (h : Number.IsDecimal s) :
    ∃ n, ∀ depth, Reads (readValue depth) (.number n) (Text.encode s) := by
  obtain ⟨whole, tail, e, rfl, hwhole, htail, hsize⟩ := h
  have he : e.natAbs ≤ Number.greatestExponent := by rw [Number.greatestExponent, Nat.pow_eq]; omega
  obtain ⟨n, hread⟩ := Number.exists_read_decimal false hwhole htail he (by omega)
  obtain ⟨hall, c, digits, rfl, -⟩ := hwhole
  obtain ⟨hascii, hdigit⟩ := digit?_of_isDigit (hall c List.mem_cons_self)
  have hbytes : Text.encode (c :: digits ++ tail) =
      UInt8.ofNat c.toNat :: Text.encode (digits ++ tail) := by
    rw [List.cons_append, Text.encode_cons_of_lt hascii]
  rw [hbytes] at hread ⊢
  exact ⟨n, fun depth => reads_unsigned (by rw [isDigit, hdigit]; rfl) hread⟩

/-- So is one with a sign. -/
theorem exists_reads_negative_decimal {s : List Char} (h : Number.IsDecimal s) :
    ∃ n, ∀ depth, Reads (readValue depth) (.number n) (Text.encode ('-' :: s)) := by
  obtain ⟨whole, tail, e, rfl, hwhole, htail, hsize⟩ := h
  have he : e.natAbs ≤ Number.greatestExponent := by rw [Number.greatestExponent, Nat.pow_eq]; omega
  obtain ⟨n, hread⟩ := Number.exists_read_decimal true hwhole htail he (by omega)
  exact ⟨n, fun depth => reads_negative hread⟩

/-- A number, or null. -/
def Value.IsNumberOrNull (v : Value) : Prop := v = .null ∨ ∃ n, v = .number n

/-- **Every written single is read as a number or as null.** -/
theorem exists_reads_writtenSingle (bits : Nat) :
    ∃ v : Value, v.IsNumberOrNull ∧
      ∀ depth, Reads (readValue depth) v (Text.encode (writtenSingle bits)) := by
  rw [writtenSingle, realChars]
  split
  · next m q hfinite =>
    have hdecimal := Number.isDecimal_magnitudeChars hfinite
    split
    · obtain ⟨n, hreads⟩ := exists_reads_negative_decimal hdecimal
      exact ⟨.number n, .inr ⟨n, rfl⟩, hreads⟩
    · obtain ⟨n, hreads⟩ := exists_reads_decimal hdecimal
      exact ⟨.number n, .inr ⟨n, rfl⟩, hreads⟩
  · exact ⟨.null, .inl rfl, fun depth => reads_null⟩

end AnalysisGateway.Json
