import AnalysisGateway.Text.Utf8

/-!
# The UTF-8 round trip

Reading gives back every text that was written: the machine, between two characters, takes the bytes
of one character and stands between characters again (`piecesFrom_utf8EncodeChar`). Characters below
U+0080 are single bytes, and all bytes of other characters are `0x80` or above, so a byte that has a
meaning of its own in a format is never part of a longer character.
-/

namespace AnalysisGateway.Text

/-! ## Encoding -/

@[simp] theorem encode_nil : encode [] = [] := rfl

@[simp] theorem encode_cons (c : Char) (s : List Char) :
    encode (c :: s) = String.utf8EncodeChar c ++ encode s := rfl

@[simp] theorem encode_append (s t : List Char) : encode (s ++ t) = encode s ++ encode t :=
  List.flatMap_append

/-- A character below U+0080 is the byte of its number. -/
theorem utf8EncodeChar_of_lt {c : Char} (h : c.toNat < 0x80) :
    String.utf8EncodeChar c = [UInt8.ofNat c.toNat] :=
  if_pos (Nat.le_of_lt_succ h)

theorem encode_cons_of_lt {c : Char} (h : c.toNat < 0x80) (s : List Char) :
    encode (c :: s) = UInt8.ofNat c.toNat :: encode s := by
  rw [encode_cons, utf8EncodeChar_of_lt h, List.singleton_append]

/-- The bytes of any other character are `0x80` or above. -/
theorem le_of_mem_utf8EncodeChar {c : Char} (h : 0x80 ≤ c.toNat) {b : UInt8}
    (hb : b ∈ String.utf8EncodeChar c) : 0x80 ≤ b.toNat := by
  have hval : c.val.toNat = c.toNat := rfl
  simp only [String.utf8EncodeChar, hval] at hb
  rw [if_neg (by omega)] at hb
  split at hb
  · simp only [List.mem_cons, List.not_mem_nil, or_false] at hb
    rcases hb with rfl | rfl <;> rw [UInt8.toNat_ofNat'] <;> omega
  split at hb
  · simp only [List.mem_cons, List.not_mem_nil, or_false] at hb
    rcases hb with rfl | rfl | rfl <;> rw [UInt8.toNat_ofNat'] <;> omega
  · simp only [List.mem_cons, List.not_mem_nil, or_false] at hb
    rcases hb with rfl | rfl | rfl | rfl <;> rw [UInt8.toNat_ofNat'] <;> omega

/-! ## The machine inside a character -/

/-- The first of two bytes. -/
theorem firstByte_of_two {b : Nat} (hlow : 0xC2 ≤ b) (hhigh : b ≤ 0xDF) :
    firstByte b = .begins ⟨1, 0x80, 0xBF, b - 0xC0⟩ := by
  rw [firstByte, if_neg (by omega), if_pos ⟨hlow, hhigh⟩]

/-- The first of three bytes. The bounds of the second leave out what two bytes could write, and the
surrogates. -/
theorem firstByte_of_three {b : Nat} (hlow : 0xE0 ≤ b) (hhigh : b ≤ 0xEF) :
    firstByte b = .begins
      ⟨2, if b = 0xE0 then 0xA0 else 0x80, if b = 0xED then 0x9F else 0xBF, b - 0xE0⟩ := by
  rw [firstByte, if_neg (by omega), if_neg (by omega)]
  by_cases hfirst : b = 0xE0
  · subst hfirst; rfl
  by_cases hsurrogate : b = 0xED
  · subst hsurrogate; rfl
  rw [if_neg hfirst, if_neg hsurrogate, if_pos (by omega), if_neg hfirst, if_neg hsurrogate]

/-- The first of four bytes. The bounds of the second leave out what three bytes could write, and
what lies beyond U+10FFFF. -/
theorem firstByte_of_four {b : Nat} (hlow : 0xF0 ≤ b) (hhigh : b ≤ 0xF4) :
    firstByte b = .begins
      ⟨3, if b = 0xF0 then 0x90 else 0x80, if b = 0xF4 then 0x8F else 0xBF, b - 0xF0⟩ := by
  obtain rfl | rfl | rfl | rfl | rfl : b = 0xF0 ∨ b = 0xF1 ∨ b = 0xF2 ∨ b = 0xF3 ∨ b = 0xF4 := by
    omega
  all_goals rfl

/-- A byte within the bounds that is the last one owed completes the character. -/
theorem stepPiece_last (done : List (Option Char)) {low high value b : Nat}
    (hb : low ≤ b ∧ b ≤ high) :
    stepPiece done (some ⟨1, low, high, value⟩) b =
      (some (Char.ofNat (value * 64 + (b - 0x80))) :: done, none) := by
  simp only [stepPiece, if_pos hb, if_true]

/-- A byte within the bounds, with more of them owed. -/
theorem stepPiece_more (done : List (Option Char)) {owed low high value b : Nat}
    (hb : low ≤ b ∧ b ≤ high) :
    stepPiece done (some ⟨owed + 2, low, high, value⟩) b =
      (done, some ⟨owed + 1, 0x80, 0xBF, value * 64 + (b - 0x80)⟩) := by
  simp only [stepPiece, if_pos hb, if_neg (show ¬ owed + 2 = 1 by omega),
    show owed + 2 - 1 = owed + 1 by omega]

/-! ## Reading what was written -/

section

variable (done : List (Option Char)) (rest : Bytes) {n : Nat}

theorem piecesFrom_two (hlow : 0x80 ≤ n) (hhigh : n ≤ 0x7FF) :
    piecesFrom done none
        (UInt8.ofNat (n / 64 % 0x20 + 0xC0) :: UInt8.ofNat (n % 0x40 + 0x80) :: rest) =
      piecesFrom (some (Char.ofNat n) :: done) none rest := by
  have hfirst : (UInt8.ofNat (n / 64 % 0x20 + 0xC0)).toNat = n / 64 + 0xC0 := by
    rw [UInt8.toNat_ofNat']; omega
  have hsecond : (UInt8.ofNat (n % 0x40 + 0x80)).toNat = n % 64 + 0x80 := by
    rw [UInt8.toNat_ofNat']; omega
  have hvalue : (n / 64 + 0xC0 - 0xC0) * 64 + (n % 64 + 0x80 - 0x80) = n := by omega
  simp only [piecesFrom, hfirst, hsecond]
  rw [stepPiece, startPiece, firstByte_of_two (by omega) (by omega)]
  simp only
  rw [stepPiece_last done (by omega), hvalue]

theorem piecesFrom_three (hlow : 0x800 ≤ n) (hhigh : n ≤ 0xFFFF)
    (hscalar : n < 0xD800 ∨ 0xDFFF < n) :
    piecesFrom done none
        (UInt8.ofNat (n / 4096 % 0x10 + 0xE0) :: UInt8.ofNat (n / 64 % 0x40 + 0x80) ::
          UInt8.ofNat (n % 0x40 + 0x80) :: rest) =
      piecesFrom (some (Char.ofNat n) :: done) none rest := by
  have hfirst : (UInt8.ofNat (n / 4096 % 0x10 + 0xE0)).toNat = n / 4096 + 0xE0 := by
    rw [UInt8.toNat_ofNat']; omega
  have hsecond : (UInt8.ofNat (n / 64 % 0x40 + 0x80)).toNat = n / 64 % 64 + 0x80 := by
    rw [UInt8.toNat_ofNat']; omega
  have hthird : (UInt8.ofNat (n % 0x40 + 0x80)).toNat = n % 64 + 0x80 := by
    rw [UInt8.toNat_ofNat']; omega
  have hbounds : (if n / 4096 + 0xE0 = 0xE0 then 0xA0 else 0x80) ≤ n / 64 % 64 + 0x80 ∧
      n / 64 % 64 + 0x80 ≤ (if n / 4096 + 0xE0 = 0xED then 0x9F else 0xBF) := by
    constructor <;> split <;> omega
  have hvalue : ((n / 4096 + 0xE0 - 0xE0) * 64 + (n / 64 % 64 + 0x80 - 0x80)) * 64 +
      (n % 64 + 0x80 - 0x80) = n := by omega
  simp only [piecesFrom, hfirst, hsecond, hthird]
  rw [stepPiece, startPiece, firstByte_of_three (by omega) (by omega)]
  simp only
  rw [stepPiece_more done hbounds]
  simp only
  rw [stepPiece_last done (by omega), hvalue]

theorem piecesFrom_four (hlow : 0x10000 ≤ n) (hhigh : n ≤ 0x10FFFF) :
    piecesFrom done none
        (UInt8.ofNat (n / 262144 % 0x08 + 0xF0) :: UInt8.ofNat (n / 4096 % 0x40 + 0x80) ::
          UInt8.ofNat (n / 64 % 0x40 + 0x80) :: UInt8.ofNat (n % 0x40 + 0x80) :: rest) =
      piecesFrom (some (Char.ofNat n) :: done) none rest := by
  have hfirst : (UInt8.ofNat (n / 262144 % 0x08 + 0xF0)).toNat = n / 262144 + 0xF0 := by
    rw [UInt8.toNat_ofNat']; omega
  have hsecond : (UInt8.ofNat (n / 4096 % 0x40 + 0x80)).toNat = n / 4096 % 64 + 0x80 := by
    rw [UInt8.toNat_ofNat']; omega
  have hthird : (UInt8.ofNat (n / 64 % 0x40 + 0x80)).toNat = n / 64 % 64 + 0x80 := by
    rw [UInt8.toNat_ofNat']; omega
  have hfourth : (UInt8.ofNat (n % 0x40 + 0x80)).toNat = n % 64 + 0x80 := by
    rw [UInt8.toNat_ofNat']; omega
  have hbounds : (if n / 262144 + 0xF0 = 0xF0 then 0x90 else 0x80) ≤ n / 4096 % 64 + 0x80 ∧
      n / 4096 % 64 + 0x80 ≤ (if n / 262144 + 0xF0 = 0xF4 then 0x8F else 0xBF) := by
    constructor <;> split <;> omega
  have hvalue : (((n / 262144 + 0xF0 - 0xF0) * 64 + (n / 4096 % 64 + 0x80 - 0x80)) * 64 +
      (n / 64 % 64 + 0x80 - 0x80)) * 64 + (n % 64 + 0x80 - 0x80) = n := by omega
  simp only [piecesFrom, hfirst, hsecond, hthird, hfourth]
  rw [stepPiece, startPiece, firstByte_of_four (by omega) (by omega)]
  simp only
  rw [stepPiece_more done hbounds]
  simp only
  rw [stepPiece_more done (by omega)]
  simp only
  rw [stepPiece_last done (by omega), hvalue]

/-- The bytes of a character are one piece. -/
theorem piecesFrom_utf8EncodeChar (c : Char) :
    piecesFrom done none (String.utf8EncodeChar c ++ rest) =
      piecesFrom (some c :: done) none rest := by
  have hval : c.val.toNat = c.toNat := rfl
  have hofNat : Char.ofNat c.toNat = c := Char.ofNat_toNat c
  have hscalar : c.toNat < 0xD800 ∨ 0xDFFF < c.toNat ∧ c.toNat < 0x110000 := c.valid
  simp only [String.utf8EncodeChar, hval]
  split
  · next hone =>
    have hbyte : (UInt8.ofNat c.toNat).toNat = c.toNat := by rw [UInt8.toNat_ofNat']; omega
    simp only [List.singleton_append, piecesFrom, hbyte, stepPiece, startPiece, firstByte,
      if_pos hone, hofNat]
  split
  · next htwo =>
    have h := piecesFrom_two done rest (n := c.toNat) (by omega) htwo
    rwa [hofNat] at h
  split
  · next hthree =>
    have h := piecesFrom_three done rest (n := c.toNat) (by omega) hthree (by omega)
    rwa [hofNat] at h
  · have h := piecesFrom_four done rest (n := c.toNat) (by omega) (by omega)
    rwa [hofNat] at h

end

/-- The pieces of a text are its characters. -/
theorem piecesFrom_encode (done : List (Option Char)) (s : List Char) :
    piecesFrom done none (encode s) = done.reverse ++ s.map some := by
  induction s generalizing done with
  | nil => simp [piecesFrom]
  | cons c s ih =>
      rw [encode_cons, piecesFrom_utf8EncodeChar, ih]
      simp

/-- **Reading gives back what was written.** -/
theorem decode?_encode (s : List Char) : decode? (encode s) = some s := by
  simp [decode?, pieces, piecesFrom_encode]

/-- So does reading that replaces what is no character. -/
theorem decodeLossy_encode (s : List Char) : decodeLossy (encode s) = s := by
  rw [decodeLossy, pieces, piecesFrom_encode, List.reverse_nil, List.nil_append, List.map_map]
  exact List.map_id s

theorem ofBytes?_toBytes (s : String) : ofBytes? (toBytes s) = some s := by
  rw [ofBytes?, toBytes, decode?_encode, Option.map_some, String.ofList_toList]

end AnalysisGateway.Text
