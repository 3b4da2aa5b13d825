import AnalysisGateway.Proofs.Text.Utf8

/-!
# Places in the bytes of a text

Where a byte stands first and last in a sequence of bytes, and what lies between two places of a
text's UTF-8. A character below U+0080 is a byte that stands in no longer character
(`mem_encode_iff`), so its first and its last byte are where the character itself stands first and
last (`firstAt_encode`, `lastAt_encode`). A part of a text that begins at the one and ends at the
other therefore consists of whole characters, and there is only one such part (`Covers.unique`).
-/

namespace AnalysisGateway.Text

/-- The first byte of a kind stands at a place. -/
structure FirstAt (b : UInt8) (s : Bytes) (place : Nat) : Prop where
  getElem?_eq : s[place]? = some b
  ne_of_lt : ∀ earlier < place, s[earlier]? ≠ some b

/-- The last byte of a kind stands at a place. -/
structure LastAt (b : UInt8) (s : Bytes) (place : Nat) : Prop where
  getElem?_eq : s[place]? = some b
  ne_of_lt : ∀ later, place < later → s[later]? ≠ some b

/-- A part of a text that consists of whole characters, and of the bytes from one place through
another. -/
def Covers (text part : List Char) (first last : Nat) : Prop :=
  ∃ before after, text = before ++ part ++ after ∧
    (encode before).length = first ∧ (encode (before ++ part)).length = last + 1

/-! ## Bytes -/

section

variable {b : UInt8} {s before after : Bytes} {place place' : Nat}

theorem FirstAt.unique (h : FirstAt b s place) (h' : FirstAt b s place') : place = place' := by
  obtain hlt | heq | hlt := Nat.lt_trichotomy place place'
  · exact absurd h.getElem?_eq (h'.ne_of_lt _ hlt)
  · exact heq
  · exact absurd h'.getElem?_eq (h.ne_of_lt _ hlt)

theorem LastAt.unique (h : LastAt b s place) (h' : LastAt b s place') : place = place' := by
  obtain hlt | heq | hlt := Nat.lt_trichotomy place place'
  · exact absurd h'.getElem?_eq (h.ne_of_lt _ hlt)
  · exact heq
  · exact absurd h.getElem?_eq (h'.ne_of_lt _ hlt)

theorem FirstAt.mem (h : FirstAt b s place) : b ∈ s := List.mem_of_getElem? h.getElem?_eq

theorem LastAt.mem (h : LastAt b s place) : b ∈ s := List.mem_of_getElem? h.getElem?_eq

theorem firstAt_append (h : b ∉ before) (after : Bytes) :
    FirstAt b (before ++ b :: after) before.length where
  getElem?_eq := by simp
  ne_of_lt earlier hlt hget := by
    rw [List.getElem?_append_left hlt] at hget
    exact h (List.mem_of_getElem? hget)

theorem lastAt_append (before : Bytes) (h : b ∉ after) :
    LastAt b (before ++ b :: after) before.length where
  getElem?_eq := by simp
  ne_of_lt later hlt hget := by
    rw [List.getElem?_append_right (Nat.le_of_lt hlt), List.getElem?_cons,
      if_neg (by omega)] at hget
    exact h (List.mem_of_getElem? hget)

end

/-! ## Characters -/

section

variable {c : Char} {text part part' before before' after after' : List Char} {first last : Nat}

/-- **A character below U+0080 is a byte of a text only where it is a character of it.** -/
theorem mem_encode_iff (hc : c.toNat < 0x80) : UInt8.ofNat c.toNat ∈ encode text ↔ c ∈ text := by
  rw [encode, List.mem_flatMap]
  constructor
  · rintro ⟨d, hd, hmem⟩
    by_cases hascii : d.toNat < 0x80
    · rw [utf8EncodeChar_of_lt hascii, List.mem_singleton] at hmem
      have hnat := congrArg UInt8.toNat hmem
      rw [UInt8.toNat_ofNat', UInt8.toNat_ofNat', Nat.mod_eq_of_lt (by omega),
        Nat.mod_eq_of_lt (by omega)] at hnat
      rwa [Char.toNat_inj.mp hnat]
    · have hle := le_of_mem_utf8EncodeChar (Nat.le_of_not_lt hascii) hmem
      rw [UInt8.toNat_ofNat', Nat.mod_eq_of_lt (by omega)] at hle
      omega
  · exact fun hmem => ⟨c, hmem, by rw [utf8EncodeChar_of_lt hc]; exact List.mem_singleton_self _⟩

theorem firstAt_encode (hc : c.toNat < 0x80) (h : c ∉ before) (after : List Char) :
    FirstAt (UInt8.ofNat c.toNat) (encode (before ++ c :: after)) (encode before).length := by
  rw [encode_append, encode_cons_of_lt hc]
  exact firstAt_append (mt (mem_encode_iff hc).mp h) _

theorem lastAt_encode (hc : c.toNat < 0x80) (before : List Char) (h : c ∉ after) :
    LastAt (UInt8.ofNat c.toNat) (encode (before ++ c :: after)) (encode before).length := by
  rw [encode_append, encode_cons_of_lt hc]
  exact lastAt_append _ (mt (mem_encode_iff hc).mp h)

/-- Where a byte stands first, a text is split before a character. -/
theorem FirstAt.exists_eq_append (hc : c.toNat < 0x80)
    (h : FirstAt (UInt8.ofNat c.toNat) (encode text) first) :
    ∃ before after, text = before ++ c :: after ∧ c ∉ before ∧ (encode before).length = first := by
  obtain ⟨before, after, rfl, hbefore⟩ := List.eq_append_cons_of_mem ((mem_encode_iff hc).mp h.mem)
  exact ⟨before, after, rfl, hbefore, (firstAt_encode hc hbefore after).unique h⟩

/-- Where a character stands last, a text is split before it. -/
theorem exists_eq_append_cons_of_mem (h : c ∈ text) :
    ∃ before after, text = before ++ c :: after ∧ c ∉ after := by
  obtain ⟨after, before, hsplit, hafter⟩ :=
    List.eq_append_cons_of_mem (List.mem_reverse.mpr h : c ∈ text.reverse)
  refine ⟨before.reverse, after.reverse, ?_, mt List.mem_reverse.mp hafter⟩
  rw [← List.reverse_reverse text, hsplit]
  simp

/-- Where a byte stands last, a text is split before a character. -/
theorem LastAt.exists_eq_append (hc : c.toNat < 0x80)
    (h : LastAt (UInt8.ofNat c.toNat) (encode text) last) :
    ∃ before after, text = before ++ c :: after ∧ c ∉ after ∧ (encode before).length = last := by
  obtain ⟨before, after, rfl, hafter⟩ := exists_eq_append_cons_of_mem ((mem_encode_iff hc).mp h.mem)
  exact ⟨before, after, rfl, hafter, (lastAt_encode hc before hafter).unique h⟩

/-- Two beginnings of a text with equally many bytes are the same. -/
theorem append_inj_of_encode_length (h : before ++ after = before' ++ after')
    (hlength : (encode before).length = (encode before').length) :
    before = before' ∧ after = after' := by
  have hnil {more : List Char} (hmore : (encode more).length = 0) : more = [] := by
    cases more with
    | nil => rfl
    | cons c more =>
        rw [encode_cons, List.length_eq_zero_iff, List.append_eq_nil_iff] at hmore
        exact absurd hmore.1 String.utf8EncodeChar_ne_nil
  obtain ⟨more, rfl, rfl⟩ | ⟨more, rfl, rfl⟩ := List.append_eq_append_iff.mp h
  all_goals
    rw [encode_append, List.length_append] at hlength
    obtain rfl : more = [] := hnil (by omega)
    simp

/-- There is at most one part between two places. -/
theorem Covers.unique (h : Covers text part first last) (h' : Covers text part' first last) :
    part = part' := by
  obtain ⟨before, after, htext, hfirst, hlast⟩ := h
  obtain ⟨before', after', htext', hfirst', hlast'⟩ := h'
  obtain ⟨hboth, -⟩ :=
    append_inj_of_encode_length (htext.symm.trans htext') (hlast.trans hlast'.symm)
  obtain ⟨-, hpart⟩ := append_inj_of_encode_length hboth (hfirst.trans hfirst'.symm)
  exact hpart

end

end AnalysisGateway.Text
