import AnalysisGateway.Proofs.Json.Text
import AnalysisGateway.Proofs.Text.Utf8Sound

/-!
# Only spellings of a text are read

What is read as a text is one of its spellings, up to the closing quote. The reader gathers bytes,
those of the text as they stand and those that the escapes come to, and looks at them once it has
them all (`Gathers`). No character has its first byte as itself and the others from escapes: an
escape comes to a whole character, and no character begins inside of another one. So what has been
gathered tells apart which characters stood for themselves.
-/

namespace AnalysisGateway

namespace Text

/-- A character begins with a byte that continues none, and the others continue it. -/
theorem exists_utf8EncodeChar_eq_cons (c : Char) :
    ∃ b more, String.utf8EncodeChar c = b :: more ∧ ¬ Continues b ∧ ∀ m ∈ more, Continues m := by
  have hval : c.val.toNat = c.toNat := rfl
  have hscalar : c.toNat < 0xD800 ∨ 0xDFFF < c.toNat ∧ c.toNat < 0x110000 := c.valid
  simp only [String.utf8EncodeChar, hval, Continues]
  split
  · exact ⟨_, [], rfl, by rw [UInt8.toNat_ofNat']; omega, nofun⟩
  split
  · refine ⟨_, _, rfl, by rw [UInt8.toNat_ofNat']; omega, ?_⟩
    simp only [List.forall_mem_cons, List.not_mem_nil, UInt8.toNat_ofNat']
    exact ⟨by omega, nofun⟩
  split
  · refine ⟨_, _, rfl, by rw [UInt8.toNat_ofNat']; omega, ?_⟩
    simp only [List.forall_mem_cons, List.not_mem_nil, UInt8.toNat_ofNat']
    exact ⟨by omega, by omega, nofun⟩
  · refine ⟨_, _, rfl, by rw [UInt8.toNat_ofNat']; omega, ?_⟩
    simp only [List.forall_mem_cons, List.not_mem_nil, UInt8.toNat_ofNat']
    exact ⟨by omega, by omega, by omega, nofun⟩

/-- A character in front of other bytes can be told from them. -/
theorem utf8EncodeChar_append_inj {c d : Char} {s t : Bytes}
    (h : String.utf8EncodeChar c ++ s = String.utf8EncodeChar d ++ t) : c = d ∧ s = t := by
  have hpieces := congrArg (piecesFrom [] none) h
  rw [piecesFrom_utf8EncodeChar, piecesFrom_utf8EncodeChar, piecesFrom_append [some c],
    piecesFrom_append [some d]] at hpieces
  obtain rfl : c = d := Option.some.inj (List.cons.inj hpieces).1
  exact ⟨rfl, List.append_cancel_left h⟩

end Text

namespace Json

/-! ## Escapes -/

/-- What is read as a digit is one. -/
theorem exists_isHexDigit {b : UInt8} {n : Nat} (h : hexValue? b = some n) :
    ∃ c, IsHexDigit n c ∧ String.utf8EncodeChar c = [b] := by
  have hall : ∀ k < 256, ∀ n ∈ hexValue? (UInt8.ofNat k), (n < 16 ∧
      (Char.ofNat k = Nat.digitChar n ∨ Char.ofNat k = (Nat.digitChar n).toUpper)) ∧
      String.utf8EncodeChar (Char.ofNat k) = [UInt8.ofNat k] := by decide +kernel
  have hb := hall b.toNat b.toNat_lt n
  rw [UInt8.ofNat_toNat] at hb
  exact ⟨_, hb h⟩

/-- What is read as a unit is one. -/
theorem exists_spellsUnit {s rest : Bytes} {n : Nat} (h : readQuad s = .ok (n, rest)) :
    ∃ quad, SpellsUnit n quad ∧ s = Text.encode quad ++ rest ∧ n < 0x10000 := by
  rw [readQuad.eq_def] at h
  split at h
  · next a b c d more =>
    rw [hexQuad?] at h
    split at h
    · next m hquad =>
      obtain ⟨rfl, rfl⟩ := Prod.mk.inj (Except.ok.inj h)
      split at hquad
      · next w x y z hw hx hy hz =>
        obtain ⟨a', ha, haEncode⟩ := exists_isHexDigit hw
        obtain ⟨b', hb, hbEncode⟩ := exists_isHexDigit hx
        obtain ⟨c', hc, hcEncode⟩ := exists_isHexDigit hy
        obtain ⟨d', hd, hdEncode⟩ := exists_isHexDigit hz
        have hsmall : w < 16 ∧ x < 16 ∧ y < 16 ∧ z < 16 := ⟨ha.1, hb.1, hc.1, hd.1⟩
        have hm : m = ((w * 16 + x) * 16 + y) * 16 + z := (Option.some.inj hquad).symm
        refine ⟨[a', b', c', d'], .digits ?_ ?_ ?_ ?_, ?_, by omega⟩
        · rwa [show m / 0x1000 = w by omega]
        · rwa [show m / 0x100 % 0x10 = x by omega]
        · rwa [show m / 0x10 % 0x10 = y by omega]
        · rwa [show m % 0x10 = z by omega]
        · simp [haEncode, hbEncode, hcEncode, hdEncode]
      · contradiction
    · contradiction
  · contradiction

/-- What is read as a short escape is one. -/
theorem exists_mem_shortEscapes {b : UInt8} {c : Char} (h : shortEscape? b = some c) :
    ∃ letter, (letter, c) ∈ shortEscapes ∧ String.utf8EncodeChar letter = [b] := by
  rw [shortEscape?] at h
  split at h
  · next hb => exact ⟨'"', Option.some.inj h ▸ by decide, hb ▸ rfl⟩
  split at h
  · next hb => exact ⟨'\\', Option.some.inj h ▸ by decide, hb ▸ rfl⟩
  split at h
  · next hb => exact ⟨'/', Option.some.inj h ▸ by decide, hb ▸ rfl⟩
  split at h
  · next hb => exact ⟨'b', Option.some.inj h ▸ by decide, hb ▸ rfl⟩
  split at h
  · next hb => exact ⟨'f', Option.some.inj h ▸ by decide, hb ▸ rfl⟩
  split at h
  · next hb => exact ⟨'n', Option.some.inj h ▸ by decide, hb ▸ rfl⟩
  split at h
  · next hb => exact ⟨'r', Option.some.inj h ▸ by decide, hb ▸ rfl⟩
  split at h
  · next hb => exact ⟨'t', Option.some.inj h ▸ by decide, hb ▸ rfl⟩
  · contradiction

/-- What is read as the second half of a pair is one, and the pair is that of the character. -/
theorem exists_spellsUnit_of_readPaired {s rest : Bytes} {high : Nat} {c : Char}
    (hhigh : isHighSurrogate high = true) (h : readPaired high s = .ok (c, rest)) :
    ∃ quad, s = Text.encode ('\\' :: 'u' :: quad) ++ rest ∧ 0x10000 ≤ c.toNat ∧
      0xD800 + (c.toNat - 0x10000) / 0x400 = high ∧
      SpellsUnit (0xDC00 + (c.toNat - 0x10000) % 0x400) quad := by
  rw [readPaired.eq_def] at h
  split at h
  · contradiction
  · contradiction
  · next more =>
    split at h
    · contradiction
    · next low left hlow =>
      split at h
      · next hislow =>
        obtain ⟨rfl, rfl⟩ := Prod.mk.inj (Except.ok.inj h)
        obtain ⟨quad, hquad, rfl, -⟩ := exists_spellsUnit hlow
        simp only [isHighSurrogate, isLowSurrogate, Bool.and_eq_true, decide_eq_true_eq]
          at hhigh hislow
        have hvalue := Text.val_ofNat
          (n := 0x10000 + (high - 0xD800) * 0x400 + (low - 0xDC00)) (by omega)
        generalize Char.ofNat (0x10000 + (high - 0xD800) * 0x400 + (low - 0xDC00)) = c at hvalue
        have hc : c.toNat = 0x10000 + (high - 0xD800) * 0x400 + (low - 0xDC00) := hvalue
        refine ⟨quad, rfl, by omega, by omega, ?_⟩
        rwa [show 0xDC00 + (c.toNat - 0x10000) % 0x400 = low by omega]
      · contradiction
  · contradiction
  · contradiction

/-- **What is read as an escape is one of the character.** -/
theorem exists_spellsChar_of_readEscape {s rest : Bytes} {c : Char}
    (h : readEscape s = .ok (c, rest)) :
    ∃ escape, SpellsChar c ('\\' :: escape) ∧ s = Text.encode escape ++ rest := by
  cases s with
  | nil => contradiction
  | cons b s =>
      rw [readEscape] at h
      split at h
      · next hunit =>
        rw [readUnicodeEscape] at h
        split at h
        · contradiction
        next n left hquad =>
          obtain ⟨quad, hspells, rfl, hlt⟩ := exists_spellsUnit hquad
          split at h
          · contradiction
          next hlow =>
            split at h
            · next hhigh =>
              obtain ⟨second, rfl, hge, hfirst, hsecond⟩ :=
                exists_spellsUnit_of_readPaired hhigh h
              refine ⟨'u' :: (quad ++ '\\' :: 'u' :: second),
                .pair hge (hfirst ▸ hspells) hsecond, ?_⟩
              have hencode : Text.encode ('u' :: (quad ++ '\\' :: 'u' :: second)) =
                  0x75 :: (Text.encode quad ++ Text.encode ('\\' :: 'u' :: second)) := by
                rw [Text.encode_cons, Text.encode_append]
                rfl
              rw [hunit, hencode, List.cons_append, List.append_assoc]
            · next hhigh =>
              obtain ⟨rfl, rfl⟩ := Prod.mk.inj (Except.ok.inj h)
              simp only [isHighSurrogate, isLowSurrogate, Bool.and_eq_true, decide_eq_true_eq]
                at hhigh hlow
              have hvalue := Text.val_ofNat (n := n) (by omega)
              have hc : (Char.ofNat n).toNat = n := hvalue
              exact ⟨'u' :: quad, .unit (by rwa [hc]), by rw [hunit]; rfl⟩
      · split at h
        · next hshort =>
          obtain ⟨rfl, rfl⟩ := Prod.mk.inj (Except.ok.inj h)
          obtain ⟨letter, hmem, hencode⟩ := exists_mem_shortEscapes hshort
          exact ⟨[letter], .short hmem, by simp [hencode]⟩
        · contradiction

/-! ## The loop -/

/-- What is gathered from the bytes between the quotes: plain ones as they are, and escapes as the
bytes of their characters. -/
inductive Gathers : Bytes → Bytes → Prop where
  | nil : Gathers [] []
  | plain {b : UInt8} {s gathered : Bytes} (hb : IsPlainByte b) (h : Gathers s gathered) :
      Gathers (b :: s) (b :: gathered)
  | escape {c : Char} {escape : List Char} {s gathered : Bytes}
      (hc : SpellsChar c ('\\' :: escape)) (h : Gathers s gathered) :
      Gathers (0x5C :: (Text.encode escape ++ s)) (String.utf8EncodeChar c ++ gathered)

/-- The loop gathers the bytes up to the closing quote. -/
theorem exists_gathers {done bound s bytes rest : Bytes}
    (h : readTextBytes done bound s = .ok (bytes, rest)) :
    ∃ inner gathered, Gathers inner gathered ∧ s = inner ++ 0x22 :: rest ∧
      bytes = done.reverse ++ gathered := by
  induction bound generalizing done s with
  | nil => cases s <;> contradiction
  | cons o bound ih =>
      cases s with
      | nil => contradiction
      | cons b s =>
          rw [readTextBytes] at h
          split at h
          · next hquote =>
            obtain ⟨rfl, rfl⟩ := Prod.mk.inj (Except.ok.inj h)
            exact ⟨[], [], .nil, by rw [hquote]; rfl, by simp⟩
          next hquote =>
            split at h
            · next hescape =>
              split at h
              · contradiction
              next c left hleft =>
                obtain ⟨inner, gathered, hgathers, rfl, rfl⟩ := ih h
                obtain ⟨escape, hc, rfl⟩ := exists_spellsChar_of_readEscape hleft
                exact ⟨_, _, .escape hc hgathers, by simp [hescape], by simp⟩
            next hescape =>
              split at h
              · contradiction
              next hcontrol =>
                obtain ⟨inner, gathered, hgathers, rfl, rfl⟩ := ih h
                exact ⟨_, _, .plain ⟨hquote, hescape, hcontrol⟩ hgathers, rfl, by simp⟩

/-- Bytes that continue a character stood for themselves. -/
theorem Gathers.exists_of_continues {s more gathered : Bytes} (h : Gathers s (more ++ gathered))
    (hmore : ∀ m ∈ more, Text.Continues m) :
    ∃ left, s = more ++ left ∧ (∀ m ∈ more, IsPlainByte m) ∧ Gathers left gathered := by
  induction more generalizing s with
  | nil => exact ⟨s, rfl, nofun, h⟩
  | cons m more ih =>
      obtain ⟨hm, hmore⟩ := List.forall_mem_cons.mp hmore
      rw [List.cons_append] at h
      generalize heq : m :: (more ++ gathered) = all at h
      cases h with
      | nil => contradiction
      | plain hb h =>
          obtain ⟨rfl, rfl⟩ := List.cons.inj heq
          obtain ⟨left, rfl, hplain, hleft⟩ := ih h hmore
          exact ⟨left, rfl, List.forall_mem_cons.mpr ⟨hb, hplain⟩, hleft⟩
      | @escape c _ _ _ _ _ =>
          obtain ⟨b, others, hc, hfirst, -⟩ := Text.exists_utf8EncodeChar_eq_cons c
          rw [hc, List.cons_append] at heq
          exact absurd ((List.cons.inj heq).1 ▸ hm) hfirst

/-- A character whose bytes stand for themselves does so too. -/
theorem spellsChar_of_isPlainByte {c : Char} (h : ∀ b ∈ String.utf8EncodeChar c, IsPlainByte b) :
    SpellsChar c [c] := by
  refine .plain ?_ ?_ ?_
  · refine Nat.le_of_not_lt fun hcontrol => ?_
    rw [Text.utf8EncodeChar_of_lt (by omega)] at h
    refine (h _ (List.mem_singleton_self _)).2.2 (UInt8.lt_iff_toNat_lt.mpr ?_)
    rw [UInt8.toNat_ofNat']
    exact Nat.lt_of_le_of_lt (Nat.mod_le ..) hcontrol
  · rintro rfl
    exact (h 0x22 (by decide)).1 rfl
  · rintro rfl
    exact (h 0x5C (by decide)).2.1 rfl

/-- A character that has been gathered stood for itself, or for an escape of it. -/
theorem Gathers.exists_spellsChar {s gathered : Bytes} {c : Char}
    (h : Gathers s (String.utf8EncodeChar c ++ gathered)) :
    ∃ piece left, SpellsChar c piece ∧ s = Text.encode piece ++ left ∧ Gathers left gathered := by
  generalize heq : String.utf8EncodeChar c ++ gathered = all at h
  obtain ⟨b, more, hc, -, hmore⟩ := Text.exists_utf8EncodeChar_eq_cons c
  cases h with
  | nil =>
      rw [hc] at heq
      contradiction
  | @plain b' s gathered' hb h =>
      rw [hc, List.cons_append] at heq
      obtain ⟨rfl, rfl⟩ := List.cons.inj heq
      obtain ⟨left, rfl, hplain, hleft⟩ := h.exists_of_continues hmore
      have hall : ∀ b ∈ String.utf8EncodeChar c, IsPlainByte b :=
        hc ▸ List.forall_mem_cons.mpr ⟨hb, hplain⟩
      exact ⟨[c], left, spellsChar_of_isPlainByte hall, by simp [hc], hleft⟩
  | escape hc' h =>
      obtain ⟨rfl, rfl⟩ := Text.utf8EncodeChar_append_inj heq
      exact ⟨_, _, hc', rfl, h⟩

/-- A text that has been gathered is spelled. -/
theorem Gathers.exists_spellsChars {s : Bytes} {text : List Char}
    (h : Gathers s (Text.encode text)) :
    ∃ inner, SpellsChars text inner ∧ s = Text.encode inner := by
  induction text generalizing s with
  | nil =>
      generalize heq : Text.encode [] = all at h
      cases h with
      | nil => exact ⟨[], .nil, rfl⟩
      | plain => contradiction
      | @escape c _ _ _ _ _ =>
          obtain ⟨b, others, hc, -, -⟩ := Text.exists_utf8EncodeChar_eq_cons c
          rw [hc] at heq
          contradiction
  | cons c text ih =>
      rw [Text.encode_cons] at h
      obtain ⟨piece, left, hpiece, rfl, hleft⟩ := h.exists_spellsChar
      obtain ⟨inner, hinner, rfl⟩ := ih hleft
      exact ⟨piece ++ inner, .cons hpiece hinner, (Text.encode_append ..).symm⟩

/-- A spelling of a text behind its opening quote, up to the closing one, and what follows. -/
def TextForm (t : String) (s rest : Bytes) : Prop :=
  ∃ inner, SpellsChars t.toList inner ∧ s = Text.encode inner ++ 0x22 :: rest

/-- The text takes its closing quote at least. -/
theorem TextForm.length_lt {s rest : Bytes} {t : String} (h : TextForm t s rest) :
    rest.length < s.length := by
  obtain ⟨inner, -, rfl⟩ := h
  rw [List.length_append, List.length_cons]
  omega

/-- **A text is read exactly from its spellings.** -/
theorem readTextTail_eq_ok_iff {s rest : Bytes} {t : String} :
    readTextTail s = .ok (t, rest) ↔ TextForm t s rest := by
  constructor
  · intro h
    rw [readTextTail] at h
    split at h
    · contradiction
    next bytes left hbytes =>
      split at h
      · next text htext =>
        obtain ⟨rfl, rfl⟩ := Prod.mk.inj (Except.ok.inj h)
        obtain ⟨inner, gathered, hgathers, rfl, rfl⟩ := exists_gathers hbytes
        rw [Text.ofBytes?_eq_some_iff, Text.toBytes] at htext
        rw [htext] at hgathers
        obtain ⟨chars, hchars, rfl⟩ := hgathers.exists_spellsChars
        exact ⟨chars, hchars, rfl⟩
      · contradiction
  · rintro ⟨inner, hinner, rfl⟩
    exact readTextTail_of_spellsChars hinner rest

end Json

end AnalysisGateway
