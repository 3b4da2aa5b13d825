import AnalysisGateway.Proofs.Json.SkipScalar

/-!
# What is read as a number

What is read as a number has the form of one, and what follows it has no part in its value: the same
digits are read as the same number before anything that may follow a value (`exists_of_read`). So
the number that digits stand for is what they are read as when nothing follows (`StandFor`). Whether
there is one is a matter of the range of numbers only.
-/

namespace AnalysisGateway.Json.Number

/-! ## Digits -/

/-- The loop over an integer takes its digits and stops. -/
theorem wholeDigits_of_stopsDigits {tail : Bytes} (htail : StopsDigits tail)
    (significand dropped : Nat) :
    wholeDigits significand dropped tail = (significand, dropped, tail) := by
  cases tail with
  | nil => rfl
  | cons b rest => simp [wholeDigits, htail b rest rfl]

theorem exists_of_wholeDigits {value dropped significand more : Nat} {s rest : Bytes}
    (h : wholeDigits value dropped s = (significand, more, rest)) :
    ∃ digits, (∀ b ∈ digits, isDigit b = true) ∧ s = digits ++ rest ∧
      ∀ tail, StopsDigits tail →
        wholeDigits value dropped (digits ++ tail) = (significand, more, tail) := by
  induction s generalizing value dropped with
  | nil =>
      obtain ⟨rfl, rfl, rfl⟩ : value = significand ∧ dropped = more ∧ [] = rest := by
        simpa [wholeDigits] using h
      exact ⟨[], List.forall_mem_nil _, rfl, fun tail htail => wholeDigits_of_stopsDigits htail _ _⟩
  | cons b s ih =>
      rw [wholeDigits] at h
      split at h
      · next d hd =>
        have hb : isDigit b = true := by rw [isDigit, hd]; rfl
        split at h
        · next hfits =>
          obtain ⟨digits, hdigits, rfl, hread⟩ := ih h
          refine ⟨b :: digits, List.forall_mem_cons.mpr ⟨hb, hdigits⟩, rfl, fun tail htail => ?_⟩
          rw [List.cons_append, wholeDigits, hd]
          simp only [if_pos hfits, hread tail htail]
        · next hfits =>
          obtain ⟨digits, hdigits, rfl, hread⟩ := ih h
          refine ⟨b :: digits, List.forall_mem_cons.mpr ⟨hb, hdigits⟩, rfl, fun tail htail => ?_⟩
          rw [List.cons_append, wholeDigits, hd]
          simp only [if_neg hfits, hread tail htail]
      · obtain ⟨rfl, rfl, rfl⟩ : value = significand ∧ dropped = more ∧ b :: s = rest := by
          simpa using h
        exact ⟨[], List.forall_mem_nil _, rfl,
          fun tail htail => wholeDigits_of_stopsDigits htail _ _⟩

theorem stopsDigits_skipDigits (s : Bytes) : StopsDigits (skipDigits s) := by
  intro b rest h
  have hhead : isDigit b = false := by
    have hnot := List.head?_dropWhile_not isDigit s
    rwa [← skipDigits, h] at hnot
  rwa [isDigit, Option.isSome_eq_false_iff, Option.isNone_iff_eq_none] at hhead

/-- So does the loop over a fraction, whether its digits still count or not. -/
theorem fractionDigits_of_stopsDigits {tail : Bytes} (htail : StopsDigits tail)
    (significand taken : Nat) :
    fractionDigits significand taken tail = (significand, taken, tail) := by
  cases tail with
  | nil => rfl
  | cons b rest => simp [fractionDigits, htail b rest rfl]

theorem exists_of_fractionDigits {value start significand taken : Nat} {s rest : Bytes}
    (h : fractionDigits value start s = (significand, taken, rest)) :
    ∃ digits, (∀ b ∈ digits, isDigit b = true) ∧ StopsDigits rest ∧ s = digits ++ rest ∧
      ∀ tail, StopsDigits tail →
        fractionDigits value start (digits ++ tail) = (significand, taken, tail) := by
  induction s generalizing value start with
  | nil =>
      obtain ⟨rfl, rfl, rfl⟩ : value = significand ∧ start = taken ∧ [] = rest := by
        simpa [fractionDigits] using h
      exact ⟨[], List.forall_mem_nil _, stopsDigits_of_ends ends_nil, rfl,
        fun tail htail => fractionDigits_of_stopsDigits htail _ _⟩
  | cons b s ih =>
      rw [fractionDigits] at h
      split at h
      · next d hd =>
        have hb : isDigit b = true := by rw [isDigit, hd]; rfl
        split at h
        · next hfits =>
          obtain ⟨digits, hdigits, hstops, rfl, hread⟩ := ih h
          refine ⟨b :: digits, List.forall_mem_cons.mpr ⟨hb, hdigits⟩, hstops, rfl,
            fun tail htail => ?_⟩
          rw [List.cons_append, fractionDigits, hd]
          simp only [if_pos hfits, hread tail htail]
        · next hfits =>
          obtain ⟨digits, hdigits, hs⟩ := exists_eq_append_skipDigits s
          obtain ⟨rfl, rfl, hrest⟩ : value = significand ∧ start = taken ∧ skipDigits s = rest := by
            simpa using h
          rw [hrest] at hs
          refine ⟨b :: digits, List.forall_mem_cons.mpr ⟨hb, hdigits⟩,
            hrest ▸ stopsDigits_skipDigits s, by rw [hs]; rfl, fun tail htail => ?_⟩
          rw [List.cons_append, fractionDigits, hd]
          simp only [if_neg hfits, skipDigits_append hdigits htail]
      · next hd =>
        obtain ⟨rfl, rfl, rfl⟩ : value = significand ∧ start = taken ∧ b :: s = rest := by
          simpa using h
        exact ⟨[], List.forall_mem_nil _, stopsDigits_cons hd s, rfl,
          fun tail htail => fractionDigits_of_stopsDigits htail _ _⟩

/-- The loop over an exponent stops there too, or before, at the digit that goes too far. -/
theorem exists_of_exponentDigits {value : Nat} {e? : Option Nat} {s rest : Bytes}
    (h : exponentDigits value s = (e?, rest)) :
    ∃ digits, (∀ b ∈ digits, isDigit b = true) ∧ s = digits ++ rest ∧
      ∀ tail, StopsDigits tail ∨ e? = none →
        exponentDigits value (digits ++ tail) = (e?, tail) := by
  have hstops {value : Nat} {tail : Bytes} (htail : StopsDigits tail) :
      exponentDigits value tail = (some value, tail) := by
    cases tail with
    | nil => rfl
    | cons b rest => simp [exponentDigits, htail b rest rfl]
  have hsome {value : Nat} {tail : Bytes} (htail : StopsDigits tail ∨ some value = none) :
      StopsDigits tail := htail.resolve_right (Option.some_ne_none value)
  induction s generalizing value with
  | nil =>
      obtain ⟨rfl, rfl⟩ : some value = e? ∧ [] = rest := by simpa [exponentDigits] using h
      exact ⟨[], List.forall_mem_nil _, rfl, fun tail htail => hstops (hsome htail)⟩
  | cons b s ih =>
      rw [exponentDigits] at h
      split at h
      · next d hd =>
        have hb : isDigit b = true := by rw [isDigit, hd]; rfl
        split at h
        · next hfits =>
          obtain ⟨digits, hdigits, rfl, hread⟩ := ih h
          refine ⟨b :: digits, List.forall_mem_cons.mpr ⟨hb, hdigits⟩, rfl, fun tail htail => ?_⟩
          rw [List.cons_append, exponentDigits, hd]
          simp only [if_pos hfits, hread tail htail]
        · next hfits =>
          obtain ⟨rfl, rfl⟩ := Prod.mk.inj h
          refine ⟨[b], List.forall_mem_singleton.mpr hb, rfl, fun tail _ => ?_⟩
          rw [List.singleton_append, exponentDigits, hd]
          simp only [if_neg hfits]
      · obtain ⟨rfl, rfl⟩ : some value = e? ∧ b :: s = rest := by simpa using h
        exact ⟨[], List.forall_mem_nil _, rfl, fun tail htail => hstops (hsome htail)⟩

/-! ## Parts -/

/-- The double of a significand and an exponent does not depend on what follows. -/
theorem ofParts_congr {negative : Bool} {significand : Nat} {exponent : Int} {s rest : Bytes}
    {n : Number} (h : ofParts negative significand exponent s = .ok (n, rest)) :
    s = rest ∧ ∀ tail, ofParts negative significand exponent tail = .ok (n, tail) := by
  simp only [ofParts] at h ⊢
  split at h
  · next bits hbits =>
    obtain ⟨rfl, rfl⟩ := Prod.mk.inj (Except.ok.inj h)
    exact ⟨rfl, fun tail => rfl⟩
  · contradiction

section

variable {negative : Bool} {significand : Nat}

/-- The digits of an exponent, behind its sign. -/
def readUnsignedExponent (negative down : Bool) (significand : Nat) (start : Int) :
    Bytes → Except Fault (Number × Bytes)
  | [] => .error (.here .endInValue [])
  | b :: rest =>
    match digit? b with
    | none => .error (.here .badNumber rest)
    | some d =>
      match exponentDigits d rest with
      | (some e, rest) => ofParts negative significand (if down then start - e else start + e) rest
      | (none, rest) =>
        if significand ≠ 0 ∧ !down then .error (.here .numberOutOfRange rest)
        else .ok (.real (Binary.double.withSign negative 0), skipDigits rest)

theorem readExponent_plus (start : Int) (s : Bytes) :
    readExponent negative significand start (0x2B :: s) =
      readUnsignedExponent negative false significand start s := by
  cases s <;> rfl

theorem readExponent_minus (start : Int) (s : Bytes) :
    readExponent negative significand start (0x2D :: s) =
      readUnsignedExponent negative true significand start s := by
  cases s <;> rfl

theorem readExponent_of_ne {start : Int} {s : Bytes} (hplus : ∀ t, s ≠ 0x2B :: t)
    (hminus : ∀ t, s ≠ 0x2D :: t) :
    readExponent negative significand start s =
      readUnsignedExponent negative false significand start s := by
  unfold readExponent
  split
  next down t hs =>
    split at hs
    · exact absurd rfl (hplus _)
    · exact absurd rfl (hminus _)
    · obtain ⟨rfl, rfl⟩ := Prod.mk.inj hs
      cases s <;> rfl

/-- Behind its sign an exponent has digits. -/
theorem exists_of_readUnsignedExponent {down : Bool} {start : Int} {s rest : Bytes} {n : Number}
    (h : readUnsignedExponent negative down significand start s = .ok (n, rest)) :
    ∃ digits, Digits digits ∧ s = digits ++ rest ∧ ∀ tail, StopsDigits tail →
      readUnsignedExponent negative down significand start (digits ++ tail) = .ok (n, tail) := by
  cases s with
  | nil => contradiction
  | cons b s =>
      rw [readUnsignedExponent] at h
      split at h
      · contradiction
      next d hd =>
        have hb : isDigit b = true := by rw [isDigit, hd]; rfl
        split at h
        · next e t hloop =>
          obtain ⟨digits, hdigits, rfl, hread⟩ := exists_of_exponentDigits hloop
          obtain ⟨rfl, hparts⟩ := ofParts_congr h
          refine ⟨b :: digits, ⟨List.cons_ne_nil _ _, List.forall_mem_cons.mpr ⟨hb, hdigits⟩⟩, rfl,
            fun tail htail => ?_⟩
          rw [List.cons_append, readUnsignedExponent, hd]
          simp only [hread tail (.inl htail), hparts]
        · next t hloop =>
          obtain ⟨digits, hdigits, rfl, hread⟩ := exists_of_exponentDigits hloop
          split at h
          · contradiction
          next hsmall =>
            -- The digits that went too far are followed by others, which are passed over.
            obtain ⟨others, hothers, ht⟩ := exists_eq_append_skipDigits t
            obtain ⟨rfl, hrest⟩ := Prod.mk.inj (Except.ok.inj h)
            rw [hrest] at ht
            have hall : ∀ c ∈ b :: (digits ++ others), isDigit c = true :=
              List.forall_mem_cons.mpr ⟨hb, List.forall_mem_append.mpr ⟨hdigits, hothers⟩⟩
            refine ⟨b :: (digits ++ others), ⟨List.cons_ne_nil _ _, hall⟩, by rw [ht]; simp,
              fun tail htail => ?_⟩
            rw [List.cons_append, List.append_assoc, readUnsignedExponent, hd]
            simp only [hread _ (.inr rfl), if_neg hsmall, skipDigits_append hothers htail]

/-- An exponent has a sign or none, and digits. -/
theorem exists_of_readExponent {start : Int} {s rest : Bytes} {n : Number}
    (h : readExponent negative significand start s = .ok (n, rest)) :
    ∃ sign digits, (sign = [] ∨ sign = [0x2B] ∨ sign = [0x2D]) ∧ Digits digits ∧
      s = sign ++ (digits ++ rest) ∧ ∀ tail, StopsDigits tail →
        readExponent negative significand start (sign ++ (digits ++ tail)) = .ok (n, tail) := by
  by_cases hplus : ∃ t, s = 0x2B :: t
  · obtain ⟨t, rfl⟩ := hplus
    rw [readExponent_plus] at h
    obtain ⟨digits, hdigits, rfl, hread⟩ := exists_of_readUnsignedExponent h
    exact ⟨_, digits, .inr (.inl rfl), hdigits, rfl, fun tail htail =>
      (readExponent_plus ..).trans (hread tail htail)⟩
  by_cases hminus : ∃ t, s = 0x2D :: t
  · obtain ⟨t, rfl⟩ := hminus
    rw [readExponent_minus] at h
    obtain ⟨digits, hdigits, rfl, hread⟩ := exists_of_readUnsignedExponent h
    exact ⟨_, digits, .inr (.inr rfl), hdigits, rfl, fun tail htail =>
      (readExponent_minus ..).trans (hread tail htail)⟩
  rw [not_exists] at hplus hminus
  rw [readExponent_of_ne hplus hminus] at h
  obtain ⟨digits, hdigits, rfl, hread⟩ := exists_of_readUnsignedExponent h
  refine ⟨[], digits, .inl rfl, hdigits, rfl, fun tail htail => ?_⟩
  obtain ⟨b, digits, rfl, hb, -⟩ := hdigits.exists_cons
  have hne {c : UInt8} (hc : isDigit c = false) (t : Bytes) : b :: digits ++ tail ≠ c :: t :=
    fun heq => ne_of_isDigit hb hc (List.cons.inj heq).1
  rw [List.nil_append, readExponent_of_ne (hne rfl) (hne rfl)]
  exact hread tail htail

/-- Reads an exponent if one stands there; otherwise the number ends as it is. -/
def readExponentOr (negative : Bool) (significand : Nat) (start : Int) (finish : Reader Number) :
    Reader Number
  | 0x65 :: rest | 0x45 :: rest => readExponent negative significand start rest
  | rest => finish rest

theorem readExponentOr_of_ne {start : Int} {finish : Reader Number} {s : Bytes}
    (hlower : ∀ t, s ≠ 0x65 :: t) (hupper : ∀ t, s ≠ 0x45 :: t) :
    readExponentOr negative significand start finish s = finish s := by
  rw [readExponentOr.eq_def]
  split
  · exact absurd rfl (hlower _)
  · exact absurd rfl (hupper _)
  · rfl

/-- Where a number may have an exponent, it has one or ends. -/
theorem exists_of_readExponentOr {start : Int} {finish : Reader Number}
    (hend : ∀ {s rest n}, finish s = .ok (n, rest) → s = rest ∧ ∀ tail, finish tail = .ok (n, tail))
    {s rest : Bytes} {n : Number}
    (h : readExponentOr negative significand start finish s = .ok (n, rest)) :
    ∃ exponent, ExponentForm exponent ∧ s = exponent ++ rest ∧ ∀ tail, Ends tail →
      readExponentOr negative significand start finish (exponent ++ tail) = .ok (n, tail) := by
  rw [readExponentOr.eq_def] at h
  split at h
  · obtain ⟨sign, digits, hsign, hdigits, rfl, hread⟩ := exists_of_readExponent h
    refine ⟨_, .digits (.inl rfl) hsign hdigits, by simp, fun tail htail => ?_⟩
    rw [List.cons_append, List.append_assoc, readExponentOr]
    exact hread tail (stopsDigits_of_ends htail)
  · obtain ⟨sign, digits, hsign, hdigits, rfl, hread⟩ := exists_of_readExponent h
    refine ⟨_, .digits (.inr rfl) hsign hdigits, by simp, fun tail htail => ?_⟩
    rw [List.cons_append, List.append_assoc, readExponentOr]
    exact hread tail (stopsDigits_of_ends htail)
  · obtain ⟨rfl, hread⟩ := hend h
    refine ⟨[], .none, rfl, fun tail htail => ?_⟩
    rw [List.nil_append, readExponentOr_of_ne, hread tail]
    · rintro t rfl
      simp [Ends, isBlankByte] at htail
    · rintro t rfl
      simp [Ends, isBlankByte] at htail

/-- Behind a point a number has digits, and then an exponent or nothing. -/
theorem exists_of_readFraction {start : Int} {s rest : Bytes} {n : Number}
    (h : readFraction negative significand start s = .ok (n, rest)) :
    ∃ digits exponent, Digits digits ∧ ExponentForm exponent ∧
      s = digits ++ (exponent ++ rest) ∧ ∀ tail, Ends tail →
        readFraction negative significand start (digits ++ (exponent ++ tail)) = .ok (n, tail) := by
  have hfraction {b : UInt8} {s t : Bytes} {value taken : Nat} (hb : isDigit b = true)
      (hloop : fractionDigits significand 0 (b :: s) = (value, taken, t)) :
      readFraction negative significand start (b :: s) =
        readExponentOr negative value (start - taken)
          (ofParts negative value (start - taken)) t := by
    rw [readFraction, if_pos hb, hloop]
    rfl
  cases s with
  | nil => contradiction
  | cons b s =>
      by_cases hb : isDigit b = true
      · obtain ⟨⟨value, taken, t⟩, hloop⟩ :
            ∃ loop, fractionDigits significand 0 (b :: s) = loop := ⟨_, rfl⟩
        rw [hfraction hb hloop] at h
        obtain ⟨digits, hdigits, hstops, hs, hread⟩ := exists_of_fractionDigits hloop
        obtain ⟨exponent, hexponent, rfl, htail⟩ := exists_of_readExponentOr ofParts_congr h
        cases digits with
        | nil =>
            rw [isDigit, hstops b s hs.symm] at hb
            contradiction
        | cons c digits =>
            obtain ⟨rfl, rfl⟩ := List.cons.inj hs
            refine ⟨b :: digits, exponent, ⟨List.cons_ne_nil _ _, hdigits⟩, hexponent, rfl,
              fun tail hends => ?_⟩
            have hstops : StopsDigits (exponent ++ tail) := stopsDigits_exponentForm hends hexponent
            exact (hfraction hb (hread _ hstops)).trans (htail tail hends)
      · exact absurd h (by simp [readFraction, hb])

/-- Behind its integer digits a number has a fraction or none, and an exponent or none. -/
theorem exists_of_readTail {dropped : Nat} {s rest : Bytes} {n : Number}
    (h : readTail negative significand dropped s = .ok (n, rest)) :
    ∃ fraction exponent, FractionForm fraction ∧ ExponentForm exponent ∧
      s = fraction ++ (exponent ++ rest) ∧ ∀ tail, Ends tail →
        readTail negative significand dropped (fraction ++ (exponent ++ tail)) = .ok (n, tail) := by
  let finish : Reader Number := fun rest =>
    if dropped = 0 then .ok (ofWhole negative significand, rest)
    else ofParts negative significand dropped rest
  have hend {s rest : Bytes} {n : Number} (h : finish s = .ok (n, rest)) :
      s = rest ∧ ∀ tail, finish tail = .ok (n, tail) := by
    by_cases hdropped : dropped = 0
    · simp only [finish, if_pos hdropped] at h ⊢
      obtain ⟨rfl, rfl⟩ := Prod.mk.inj (Except.ok.inj h)
      exact ⟨rfl, fun tail => rfl⟩
    · simp only [finish, if_neg hdropped] at h ⊢
      exact ofParts_congr h
  have hother {s : Bytes} (hpoint : ∀ t, s ≠ 0x2E :: t) :
      readTail negative significand dropped s =
        readExponentOr negative significand dropped finish s := by
    rw [readTail.eq_def]
    split
    · exact absurd rfl (hpoint _)
    · rfl
    · rfl
    · next hlower hupper =>
      exact (show _ = finish s from readExponentOr_of_ne hlower hupper).symm
  by_cases hpoint : ∃ t, s = 0x2E :: t
  · obtain ⟨t, rfl⟩ := hpoint
    obtain ⟨digits, exponent, hdigits, hexponent, rfl, hread⟩ := exists_of_readFraction h
    exact ⟨_, exponent, .point hdigits, hexponent, rfl, hread⟩
  · rw [not_exists] at hpoint
    rw [hother hpoint] at h
    obtain ⟨exponent, hexponent, rfl, hread⟩ := exists_of_readExponentOr hend h
    refine ⟨[], exponent, .none, hexponent, rfl, fun tail htail => ?_⟩
    rw [List.nil_append, hother (fun t heq => ?_), hread tail htail]
    cases hexponent with
    | none =>
        obtain rfl : tail = 0x2E :: t := heq
        simp [Ends, isBlankByte] at htail
    | digits he => obtain rfl | rfl := he <;> exact absurd (List.cons.inj heq).1 (by decide)

end

/-! ## Numbers -/

/-- Where a point or an exponent may stand, no digit stands. -/
theorem stopsDigits_fractionForm {fraction exponent rest : Bytes} (hrest : Ends rest)
    (hfraction : FractionForm fraction) (hexponent : ExponentForm exponent) :
    StopsDigits (fraction ++ (exponent ++ rest)) := by
  cases hfraction with
  | none => exact stopsDigits_exponentForm hrest hexponent
  | point => exact stopsDigits_cons rfl _

/-- Only one digit stands for zero. -/
theorem eq_of_digit?_eq_zero {b : UInt8} (h : digit? b = some 0) : b = 0x30 := by
  rw [digit?] at h
  split at h
  · next hrange =>
    have hge : 0x30 ≤ b.toNat := UInt8.le_iff_toNat_le.mp hrange.1
    have hle : b.toNat ≤ 0x30 := Nat.sub_eq_zero_iff_le.mp (Option.some.inj h)
    exact UInt8.toNat_inj.mp (Nat.le_antisymm hle hge)
  · contradiction

/-- No digit may follow a zero. -/
theorem read_zero {negative : Bool} {tail : Bytes} (htail : StopsDigits tail) :
    read negative (0x30 :: tail) = readTail negative 0 0 tail := by
  cases tail with
  | nil => rfl
  | cons c tail =>
      have hc : isDigit c = false := by rw [isDigit, htail c tail rfl]; rfl
      simp [read, digit?, hc]

theorem read_digit {negative : Bool} {b : UInt8} {d : Nat} (hb : digit? b = some d) (hd : d ≠ 0)
    (s : Bytes) : read negative (b :: s) =
      let (significand, dropped, rest) := wholeDigits d 0 s
      readTail negative significand dropped rest := by
  rw [read.eq_def]
  simp only [hb]

/-- **What is read as a number has the form of one, and what follows it does not matter.** -/
theorem exists_of_read {negative : Bool} {s rest : Bytes} {n : Number}
    (h : read negative s = .ok (n, rest)) :
    ∃ digits, UnsignedForm digits ∧ s = digits ++ rest ∧
      ∀ tail, Ends tail → read negative (digits ++ tail) = .ok (n, tail) := by
  cases s with
  | nil => contradiction
  | cons b s =>
      rw [read.eq_def] at h
      simp only at h
      split at h
      · contradiction
      · next hzero =>
        have hb : b = 0x30 := eq_of_digit?_eq_zero hzero
        have htail : readTail negative 0 0 s = .ok (n, rest) := by
          cases s with
          | nil => exact h
          | cons c s =>
              simp only at h
              split at h
              · contradiction
              · exact h
        obtain ⟨fraction, exponent, hfraction, hexponent, rfl, hread⟩ := exists_of_readTail htail
        subst hb
        refine ⟨_, .parts .zero hfraction hexponent, by simp, fun tail hends => ?_⟩
        have hstops := stopsDigits_fractionForm hends hfraction hexponent
        rw [List.append_assoc, List.append_assoc, List.singleton_append, read_zero hstops]
        exact hread tail hends
      · next d hne hd =>
        have hb : isDigit b = true := by rw [isDigit, hd]; rfl
        have hzero : b ≠ 0x30 := by
          rintro rfl
          exact hne (Option.some.inj hd).symm
        generalize hloop : wholeDigits d 0 s = loop at h
        obtain ⟨significand, dropped, t⟩ := loop
        obtain ⟨digits, hdigits, rfl, hwhole⟩ := exists_of_wholeDigits hloop
        obtain ⟨fraction, exponent, hfraction, hexponent, rfl, hread⟩ := exists_of_readTail h
        refine ⟨_, .parts (.digits hzero ⟨List.cons_ne_nil b digits,
          List.forall_mem_cons.mpr ⟨hb, hdigits⟩⟩) hfraction hexponent, by simp,
          fun tail hends => ?_⟩
        have hstops := stopsDigits_fractionForm hends hfraction hexponent
        rw [List.append_assoc, List.append_assoc, List.cons_append, read_digit hd hne,
          hwhole _ hstops]
        exact hread tail hends

/-- The digits of a number, which they are read as where nothing follows. -/
def StandFor (negative : Bool) (digits : Bytes) (n : Number) : Prop :=
  read negative digits = .ok (n, [])

theorem StandFor.read_append {negative : Bool} {digits : Bytes} {n : Number}
    (h : StandFor negative digits n) {tail : Bytes} (htail : Ends tail) :
    read negative (digits ++ tail) = .ok (n, tail) := by
  obtain ⟨digits', -, heq, hread⟩ := exists_of_read h
  rw [List.append_nil] at heq
  rw [heq, hread tail htail]

/-- Digits that stand for a number have the form of one. -/
theorem StandFor.unsignedForm {negative : Bool} {digits : Bytes} {n : Number}
    (h : StandFor negative digits n) : UnsignedForm digits := by
  obtain ⟨digits', hform, heq, -⟩ := exists_of_read h
  rwa [heq, List.append_nil]

/-- Digits that are read stand for what they are read as. -/
theorem exists_standFor {negative : Bool} {s rest : Bytes} {n : Number}
    (h : read negative s = .ok (n, rest)) :
    ∃ digits, StandFor negative digits n ∧ s = digits ++ rest := by
  obtain ⟨digits, -, rfl, hread⟩ := exists_of_read h
  have hstand := hread [] ends_nil
  rw [List.append_nil] at hstand
  exact ⟨digits, hstand, rfl⟩

end AnalysisGateway.Json.Number
