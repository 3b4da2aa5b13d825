import AnalysisGateway.Proofs.Json.Number

/-!
# Reading every spelling of a value

The main theorem says that a value is read back from each of its spellings, provided that it nests
no deeper than the reader allows. It goes by induction on the depth: one level of the grammar is
read by one level of the reader (`reads_of_spellsOver`), whatever reads the level below.
-/

namespace AnalysisGateway.Json

variable {depth : Nat}

/-! ## Fixed kinds -/

/-- A text is read wherever only texts may stand. -/
theorem reads_readText {t : String} {s : List Char} (h : SpellsText t s) :
    Reads readText t (Text.encode s) := by
  obtain @⟨inner, hinner⟩ := h
  have hs := encode_quoted inner
  refine ⟨⟨_, _, hs, rfl, by decide⟩, fun {blanks rest} hblanks hrest => ?_⟩
  have htext := readTextTail_of_spellsChars hinner rest
  rw [hs, List.cons_append, readText, skipBlank_append hblanks rfl]
  simpa only [List.append_assoc, List.singleton_append] using htext

/-- A list is read wherever only lists may stand. -/
theorem reads_readList {α : Type} {item : α → List Char → Prop} {read : Reader α}
    (hitem : ∀ {a : α} {s : List Char}, item a s → Reads read a (Text.encode s)) {items : List α}
    {inner : List Char} (h : Elements item items inner) :
    Reads (readList read) items (Text.encode ('[' :: inner ++ [']'])) := by
  have hs := encode_bracketed inner
  refine ⟨⟨_, _, hs, rfl, by decide⟩, fun {blanks rest} hblanks hrest => ?_⟩
  have hitems := readItems_of_elements hitem h rest
  rw [hs, List.cons_append, readList, skipBlank_append hblanks rfl]
  simpa only [List.append_assoc, List.singleton_append] using hitems

/-! ## Scalars -/

theorem reads_null : Reads (readValue depth) .null [0x6E, 0x75, 0x6C, 0x6C] where
  begins := ⟨_, _, rfl, rfl, by decide⟩
  read_eq hblanks _ := by
    unfold readValue
    rw [List.cons_append, skipBlank_append hblanks rfl]
    rfl

theorem reads_true : Reads (readValue depth) (.boolean true) [0x74, 0x72, 0x75, 0x65] where
  begins := ⟨_, _, rfl, rfl, by decide⟩
  read_eq hblanks _ := by
    unfold readValue
    rw [List.cons_append, skipBlank_append hblanks rfl]
    rfl

theorem reads_false : Reads (readValue depth) (.boolean false) [0x66, 0x61, 0x6C, 0x73, 0x65] where
  begins := ⟨_, _, rfl, rfl, by decide⟩
  read_eq hblanks _ := by
    unfold readValue
    rw [List.cons_append, skipBlank_append hblanks rfl]
    rfl

/-- A text is read as a value. -/
theorem reads_text {t : String} {s : List Char} (h : SpellsText t s) :
    Reads (readValue depth) (.text t) (Text.encode s) := by
  obtain @⟨inner, hinner⟩ := h
  have hs := encode_quoted inner
  refine ⟨⟨_, _, hs, rfl, by decide⟩, fun {blanks rest} hblanks hrest => ?_⟩
  have htext := readTextTail_of_spellsChars hinner rest
  unfold readValue
  rw [hs, List.cons_append, skipBlank_append hblanks rfl, List.append_assoc,
    List.singleton_append]
  simp [isDigit, digit?, htext, Except.map]

/-- What is read as a number after its sign is read as a value with the sign in front. -/
theorem reads_negative {n : Number} {s : Bytes}
    (h : ∀ rest, Ends rest → Number.read true (s ++ rest) = .ok (n, rest)) :
    Reads (readValue depth) (.number n) (0x2D :: s) := by
  refine ⟨⟨_, _, rfl, rfl, by decide⟩, fun {blanks rest} hblanks hrest => ?_⟩
  unfold readValue
  rw [List.cons_append, skipBlank_append hblanks rfl]
  simp [h rest hrest, Except.map]

/-- What is read as a number without a sign is read as a value. -/
theorem reads_unsigned {n : Number} {b : UInt8} {s : Bytes} (hdigit : isDigit b = true)
    (h : ∀ rest, Ends rest → Number.read false (b :: (s ++ rest)) = .ok (n, rest)) :
    Reads (readValue depth) (.number n) (b :: s) := by
  have hblank := isBlankByte_of_isDigit hdigit
  refine ⟨⟨_, _, rfl, hblank, ne_of_isDigit hdigit rfl⟩, fun {blanks rest} hblanks hrest => ?_⟩
  unfold readValue
  rw [List.cons_append, skipBlank_append hblanks hblank]
  simp only
  rw [if_neg (ne_of_isDigit hdigit rfl), if_neg (ne_of_isDigit hdigit rfl),
    if_neg (ne_of_isDigit hdigit rfl), if_neg (ne_of_isDigit hdigit rfl), if_pos hdigit,
    h rest hrest]
  rfl

/-- An integer of 64 bits is read as a value. -/
theorem reads_number {n : Number} {s : List Char} (h : SpellsNumber n s) :
    Reads (readValue depth) (.number n) (Text.encode s) := by
  cases h with
  | @natural n h =>
      obtain ⟨b, tail, hs, hdigit, hread⟩ := Number.exists_read_natural h
      rw [hs]
      exact reads_unsigned hdigit hread
  | @negative n hpos h =>
      have hs : Text.encode ('-' :: Nat.toDigits 10 n) = 0x2D :: Text.encode (Nat.toDigits 10 n) :=
        rfl
      rw [hs]
      refine reads_negative fun rest hrest => ?_
      rw [Number.read_toDigits true (by omega) hrest, Number.ofWhole]
      simp only [Bool.not_true, Bool.false_eq_true, if_false, Nat.pow_eq]
      rw [if_neg (by omega)]
  | minusZero =>
      refine reads_negative (s := Text.encode (Nat.toDigits 10 0)) fun rest hrest => ?_
      exact Number.read_toDigits true (by decide) hrest

/-- A scalar is read at any depth. -/
theorem reads_scalar {v : Value} {s : List Char} (h : SpellsScalar v s) :
    Reads (readValue depth) v (Text.encode s) := by
  cases h with
  | null => exact reads_null
  | no => exact reads_false
  | yes => exact reads_true
  | number h => exact reads_number h
  | text h => exact reads_text h

/-! ## Lists and objects -/

/-- Things that are added latest first stand in reverse. -/
theorem leads_push {α : Type} (items done : List α) :
    Leads (fun done a next => next = a :: done) done items (items.reverse ++ done) := by
  induction items generalizing done with
  | nil => exact .nil done
  | cons a items ih =>
      rw [List.reverse_cons, List.append_assoc, List.singleton_append]
      exact .cons rfl (ih (a :: done))

section

variable {part : Value → List Char → Prop}
  (hpart : ∀ {v : Value} {s : List Char}, part v s → Reads (readValue depth) v (Text.encode s))

include hpart

/-- A list is read if its elements are read one level below. -/
theorem reads_list {items : List Value} {inner : List Char} (h : Elements part items inner) :
    Reads (readValue (depth + 1)) (.list items) (Text.encode ('[' :: inner ++ [']'])) := by
  have hs := encode_bracketed inner
  refine ⟨⟨_, _, hs, rfl, by decide⟩, fun {blanks rest} hblanks hrest => ?_⟩
  have hitems := readItems_of_elements hpart h rest
  rw [hs, List.cons_append, readValue, skipBlank_append hblanks rfl, List.append_assoc,
    List.singleton_append]
  simp [isDigit, digit?, hitems, Except.map]

/-- The reader of members adds each of them to those before. -/
theorem takesMembers_readMember :
    TakesMembers part (readMember (readValue depth)) fun done m next => next = m :: done := by
  intro name v s state next hv hnext before after rest hbefore hafter hrest
  rw [readMember, readMemberValue_append (hpart hv) name hbefore hafter hrest, hnext]

/-- An object is read if the values of its members are read one level below. -/
theorem reads_object {members : List (String × Value)} {inner : List Char}
    (h : Elements (SpellsMember part) members inner) :
    Reads (readValue (depth + 1)) (.object members)
      (Text.encode ('\x7b' :: inner ++ ['\x7d'])) := by
  have hs := encode_braced inner
  refine ⟨⟨_, _, hs, rfl, by decide⟩, fun {blanks rest} hblanks hrest => ?_⟩
  have hmembers := readMembers_of_elements (takesMembers_readMember hpart) h
    (leads_push members []) rest
  rw [hs, List.cons_append, readValue, skipBlank_append hblanks rfl, List.append_assoc,
    List.singleton_append]
  simp [isDigit, digit?, hmembers, Except.map]

/-- One level of the grammar is read by one level of the reader. -/
theorem reads_of_spellsOver {v : Value} {s : List Char} (h : SpellsOver part v s) :
    Reads (readValue (depth + 1)) v (Text.encode s) := by
  cases h with
  | scalar h => exact reads_scalar h
  | list h => exact reads_list hpart h
  | object h => exact reads_object hpart h

end

/-- **Every spelling of a value is read as the value**, up to the depth allowed. -/
theorem reads_of_spells {v : Value} {s : List Char} (h : Spells depth v s) :
    Reads (readValue depth) v (Text.encode s) := by
  induction depth generalizing v s with
  | zero => exact reads_scalar h
  | succ depth ih => exact reads_of_spellsOver ih h

end AnalysisGateway.Json
