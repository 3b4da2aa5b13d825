import AnalysisGateway.Proofs.Json.Grammar
import AnalysisGateway.Proofs.Text.Utf8

/-!
# Reading every spelling of a text

A text is read back from each of its spellings. The loop over the bytes takes the spelling of one
character at a time (`readTextBytes_char`): the bytes of a character that stands for itself one by
one, since none of them is a quote, a backslash or a control character, and an escape as a whole.
What the loop has gathered is the UTF-8 of the text, whatever the spelling was.
-/

namespace AnalysisGateway.Json

/-! ## Digits -/

/-- Digits are ASCII, and are read in either case. -/
theorem IsHexDigit.spec {n : Nat} {c : Char} (h : IsHexDigit n c) :
    c.toNat < 0x80 ∧ hexValue? (UInt8.ofNat c.toNat) = some n := by
  have hlower : ∀ n < 16, (Nat.digitChar n).toNat < 0x80 ∧
      hexValue? (UInt8.ofNat (Nat.digitChar n).toNat) = some n := by decide
  have hupper : ∀ n < 16, (Nat.digitChar n).toUpper.toNat < 0x80 ∧
      hexValue? (UInt8.ofNat (Nat.digitChar n).toUpper.toNat) = some n := by decide
  obtain ⟨hn, rfl | rfl⟩ := h
  · exact hlower n hn
  · exact hupper n hn

/-- The digits of a unit are read as the unit. -/
theorem readQuad_of_spellsUnit {n : Nat} {quad : List Char} (h : SpellsUnit n quad) (rest : Bytes) :
    readQuad (Text.encode quad ++ rest) = .ok (n, rest) := by
  obtain ⟨ha, hb, hc, hd⟩ := h
  obtain ⟨hasciiA, hvalueA⟩ := ha.spec
  obtain ⟨hasciiB, hvalueB⟩ := hb.spec
  obtain ⟨hasciiC, hvalueC⟩ := hc.spec
  obtain ⟨hasciiD, hvalueD⟩ := hd.spec
  have hsum : ((n / 0x1000 * 16 + n / 0x100 % 0x10) * 16 + n / 0x10 % 0x10) * 16 + n % 0x10 =
      n := by
    omega
  simp only [Text.encode_cons, Text.encode_nil, Text.utf8EncodeChar_of_lt, hasciiA, hasciiB,
    hasciiC, hasciiD, List.cons_append, List.nil_append, readQuad, hexQuad?, hvalueA, hvalueB,
    hvalueC, hvalueD, hsum]

/-! ## Escapes -/

/-- A short escape is read as its character. -/
theorem readEscape_of_short {letter c : Char} (h : (letter, c) ∈ shortEscapes) (rest : Bytes) :
    readEscape (Text.encode [letter] ++ rest) = .ok (c, rest) := by
  simp only [shortEscapes, List.mem_cons, Prod.mk.injEq, List.not_mem_nil, or_false] at h
  rcases h with ⟨rfl, rfl⟩ | ⟨rfl, rfl⟩ | ⟨rfl, rfl⟩ | ⟨rfl, rfl⟩ | ⟨rfl, rfl⟩ | ⟨rfl, rfl⟩ |
    ⟨rfl, rfl⟩ | ⟨rfl, rfl⟩
  all_goals rfl

/-- The escape of a character by its unit; no unit of a character is a surrogate. -/
theorem readEscape_of_unit {c : Char} {quad : List Char} (h : SpellsUnit c.toNat quad)
    (rest : Bytes) : readEscape (Text.encode ('u' :: quad) ++ rest) = .ok (c, rest) := by
  have hscalar : c.toNat < 0xD800 ∨ 0xDFFF < c.toNat ∧ c.toNat < 0x110000 := c.valid
  have hlow : isLowSurrogate c.toNat = false := by
    simp only [isLowSurrogate, Bool.and_eq_false_iff, decide_eq_false_iff_not]; omega
  have hhigh : isHighSurrogate c.toNat = false := by
    simp only [isHighSurrogate, Bool.and_eq_false_iff, decide_eq_false_iff_not]; omega
  have hu : Text.encode ('u' :: quad) ++ rest = 0x75 :: (Text.encode quad ++ rest) := rfl
  rw [hu, readEscape, if_pos rfl, readUnicodeEscape, readQuad_of_spellsUnit h]
  simp only [hlow, hhigh, Bool.false_eq_true, if_false, Char.ofNat_toNat]

/-- The escape of a character beyond U+FFFF by its two units. -/
theorem readEscape_of_pair {c : Char} {first second : List Char} (h : 0x10000 ≤ c.toNat)
    (hfirst : SpellsUnit (0xD800 + (c.toNat - 0x10000) / 0x400) first)
    (hsecond : SpellsUnit (0xDC00 + (c.toNat - 0x10000) % 0x400) second) (rest : Bytes) :
    readEscape (Text.encode ('u' :: first ++ '\\' :: 'u' :: second) ++ rest) = .ok (c, rest) := by
  have hscalar : c.toNat < 0xD800 ∨ 0xDFFF < c.toNat ∧ c.toNat < 0x110000 := c.valid
  have hfirstLow : isLowSurrogate (0xD800 + (c.toNat - 0x10000) / 0x400) = false := by
    simp only [isLowSurrogate, Bool.and_eq_false_iff, decide_eq_false_iff_not]; omega
  have hfirstHigh : isHighSurrogate (0xD800 + (c.toNat - 0x10000) / 0x400) = true := by
    simp only [isHighSurrogate, Bool.and_eq_true, decide_eq_true_eq]; omega
  have hsecondLow : isLowSurrogate (0xDC00 + (c.toNat - 0x10000) % 0x400) = true := by
    simp only [isLowSurrogate, Bool.and_eq_true, decide_eq_true_eq]; omega
  have hchar : 0x10000 + (0xD800 + (c.toNat - 0x10000) / 0x400 - 0xD800) * 0x400 +
      (0xDC00 + (c.toNat - 0x10000) % 0x400 - 0xDC00) = c.toNat := by omega
  have hsplit : Text.encode ('u' :: first ++ '\\' :: 'u' :: second) ++ rest =
      0x75 :: (Text.encode first ++ (0x5C :: 0x75 :: (Text.encode second ++ rest))) := by
    rw [List.cons_append, Text.encode_cons, Text.encode_append, Text.encode_cons, Text.encode_cons]
    simp only [List.append_assoc]
    rfl
  rw [hsplit, readEscape, if_pos rfl, readUnicodeEscape, readQuad_of_spellsUnit hfirst]
  simp only [hfirstLow, hfirstHigh, Bool.false_eq_true, if_false, if_true]
  rw [readPaired, readQuad_of_spellsUnit hsecond]
  simp only [hsecondLow, if_true, hchar, Char.ofNat_toNat]

/-! ## The loop -/

/-- A byte that stands for itself in a text. -/
def IsPlainByte (b : UInt8) : Prop := ¬ b = 0x22 ∧ ¬ b = 0x5C ∧ ¬ b < 0x20

/-- The bytes of a character that stands for itself do so too. -/
theorem isPlainByte_of_mem {c : Char} (hcontrol : 0x20 ≤ c.toNat) (hquote : c ≠ '"')
    (hescape : c ≠ '\\') : ∀ b ∈ String.utf8EncodeChar c, IsPlainByte b := by
  intro b hb
  have hbyte : b.toNat ≠ 0x22 ∧ b.toNat ≠ 0x5C ∧ 0x20 ≤ b.toNat := by
    by_cases hascii : c.toNat < 0x80
    · rw [Text.utf8EncodeChar_of_lt hascii, List.mem_singleton] at hb
      have hnat : b.toNat = c.toNat := by rw [hb, UInt8.toNat_ofNat']; omega
      have hquote' : c.toNat ≠ 0x22 := fun h => hquote (Char.toNat_inj.mp h)
      have hescape' : c.toNat ≠ 0x5C := fun h => hescape (Char.toNat_inj.mp h)
      omega
    · have hge := Text.le_of_mem_utf8EncodeChar (by omega) hb
      omega
  refine ⟨?_, ?_, ?_⟩
  · rintro rfl; exact hbyte.1 rfl
  · rintro rfl; exact hbyte.2.1 rfl
  · rw [UInt8.lt_iff_toNat_lt]
    exact Nat.not_lt.mpr hbyte.2.2

/-- Bytes that stand for themselves are gathered as they are. -/
theorem readTextBytes_plain {bs : Bytes} (h : ∀ b ∈ bs, IsPlainByte b) (done bound rest : Bytes)
    (hbound : bs.length ≤ bound.length) :
    readTextBytes done bound (bs ++ rest) =
      readTextBytes (bs.reverse ++ done) (bound.drop bs.length) rest := by
  induction bs generalizing done bound with
  | nil => rfl
  | cons b bs ih =>
      cases bound with
      | nil => simp at hbound
      | cons o bound =>
          obtain ⟨hquote, hescape, hcontrol⟩ := h b List.mem_cons_self
          rw [List.cons_append, readTextBytes, if_neg hquote, if_neg hescape, if_neg hcontrol,
            ih (fun b hb => h b (List.mem_cons_of_mem _ hb)) _ _ (by simpa using hbound)]
          simp

/-- An escape is gathered as the bytes of its character. -/
theorem readTextBytes_escape {escape : List Char} {c : Char} {rest : Bytes}
    (h : readEscape (Text.encode escape ++ rest) = .ok (c, rest)) (done bound : Bytes)
    (hbound : (Text.encode ('\\' :: escape)).length ≤ bound.length) :
    ∃ left, bound.length ≤ left.length + (Text.encode ('\\' :: escape)).length ∧
      readTextBytes done bound (Text.encode ('\\' :: escape) ++ rest) =
        readTextBytes ((String.utf8EncodeChar c).reverse ++ done) left rest := by
  have hcons : Text.encode ('\\' :: escape) = 0x5C :: Text.encode escape := rfl
  rw [hcons, List.length_cons] at hbound ⊢
  cases bound with
  | nil => simp at hbound
  | cons o bound =>
      refine ⟨bound, by rw [List.length_cons]; omega, ?_⟩
      rw [List.cons_append, readTextBytes, if_neg (by decide), if_pos rfl, h]

/-- Any spelling of a character is gathered as the bytes of the character. -/
theorem readTextBytes_char {c : Char} {piece : List Char} (h : SpellsChar c piece)
    (done bound rest : Bytes) (hbound : (Text.encode piece).length ≤ bound.length) :
    ∃ left, bound.length ≤ left.length + (Text.encode piece).length ∧
      readTextBytes done bound (Text.encode piece ++ rest) =
        readTextBytes ((String.utf8EncodeChar c).reverse ++ done) left rest := by
  cases h with
  | plain hcontrol hquote hescape =>
      have hone : Text.encode [c] = String.utf8EncodeChar c := by simp
      rw [hone] at hbound ⊢
      refine ⟨bound.drop (String.utf8EncodeChar c).length, by rw [List.length_drop]; omega, ?_⟩
      exact readTextBytes_plain (isPlainByte_of_mem hcontrol hquote hescape) done bound rest hbound
  | short h => exact readTextBytes_escape (readEscape_of_short h rest) done bound hbound
  | unit h => exact readTextBytes_escape (readEscape_of_unit h rest) done bound hbound
  | pair h hfirst hsecond =>
      exact readTextBytes_escape (readEscape_of_pair h hfirst hsecond rest) done bound hbound

/-- Any spelling of a text is gathered as the bytes of the text. -/
theorem readTextBytes_of_spellsChars {text inner : List Char} (h : SpellsChars text inner)
    (done bound rest : Bytes) (hbound : (Text.encode inner).length < bound.length) :
    readTextBytes done bound (Text.encode inner ++ 0x22 :: rest) =
      .ok (done.reverse ++ Text.encode text, rest) := by
  induction h generalizing done bound with
  | nil =>
      cases bound with
      | nil => simp at hbound
      | cons o bound => simp [readTextBytes]
  | @cons c text piece inner hc h ih =>
      rw [Text.encode_append, List.length_append] at hbound
      rw [Text.encode_append, List.append_assoc]
      obtain ⟨left, hleft, hread⟩ :=
        readTextBytes_char hc done bound (Text.encode inner ++ 0x22 :: rest) (by omega)
      rw [hread, ih _ left (by omega)]
      simp

/-- **Every spelling of a text is read as the text.** -/
theorem readTextTail_of_spellsChars {text : String} {inner : List Char}
    (h : SpellsChars text.toList inner) (rest : Bytes) :
    readTextTail (Text.encode inner ++ 0x22 :: rest) = .ok (text, rest) := by
  have hloop := readTextBytes_of_spellsChars h [] (Text.encode inner ++ 0x22 :: rest) rest
    (by simp)
  have hutf8 : Text.ofBytes? (Text.encode text.toList) = some text := Text.ofBytes?_toBytes text
  rw [readTextTail, hloop]
  simp only [List.reverse_nil, List.nil_append, hutf8]

end AnalysisGateway.Json
