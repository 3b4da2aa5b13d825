import AnalysisGateway.Proofs.Json.Number

/-!
# The form of JSON values

What a value looks like, byte by byte, where nobody asks what it stands for: numbers may be out of
any range, texts need not be Unicode, and values may nest to any depth. The relations say that a
text begins with a part, and what follows the part, so that they fit readers, which stop somewhere
in their text.

The inside of brackets is said for lists and objects at once. They differ in their brackets, and in
the key that stands before each member of an object.
-/

namespace AnalysisGateway.Json

/-! ## White space -/

/-- White space in front of the rest. -/
def Spaced (s rest : Bytes) : Prop := ∃ blanks, BlankBytes blanks ∧ s = blanks ++ rest

theorem Spaced.refl (s : Bytes) : Spaced s s := ⟨[], blankBytes_nil, rfl⟩

theorem Spaced.trans {s t u : Bytes} (h : Spaced s t) (h' : Spaced t u) : Spaced s u := by
  obtain ⟨blanks, hblanks, rfl⟩ := h
  obtain ⟨more, hmore, rfl⟩ := h'
  refine ⟨blanks ++ more, fun b hb => ?_, (List.append_assoc ..).symm⟩
  exact (List.mem_append.mp hb).elim (hblanks b) (hmore b)

theorem Spaced.length_le {s rest : Bytes} (h : Spaced s rest) : rest.length ≤ s.length := by
  obtain ⟨blanks, -, rfl⟩ := h
  rw [List.length_append]
  exact Nat.le_add_left ..

/-- What is left without the white space in front. -/
theorem spaced_skipBlank (s : Bytes) : Spaced s (skipBlank s) :=
  ⟨s.takeWhile isBlankByte, fun _ => List.mem_takeWhile_imp, (List.takeWhile_append_dropWhile).symm⟩

theorem Spaced.skipBlank_eq {s rest : Bytes} {b : UInt8} (h : Spaced s (b :: rest))
    (hb : isBlankByte b = false) : skipBlank s = b :: rest := by
  obtain ⟨blanks, hblanks, rfl⟩ := h
  exact skipBlank_append hblanks hb rest

theorem spaced_of_skipBlank {s rest : Bytes} (h : skipBlank s = rest) : Spaced s rest :=
  h ▸ spaced_skipBlank s

/-- A byte that is no white space, with white space in front. -/
theorem spaced_cons_iff {s rest : Bytes} {b : UInt8} (hb : isBlankByte b = false) :
    Spaced s (b :: rest) ↔ skipBlank s = b :: rest :=
  ⟨fun h => h.skipBlank_eq hb, spaced_of_skipBlank⟩

/-! ## Scalars -/

/-- Digits, one at least. -/
def Digits (s : Bytes) : Prop := s ≠ [] ∧ ∀ b ∈ s, isDigit b = true

/-- The digits before a point: zero, or digits that do not begin with zero. -/
inductive WholeForm : Bytes → Prop where
  | zero : WholeForm [0x30]
  | digits {b : UInt8} {s : Bytes} (hzero : b ≠ 0x30) (h : Digits (b :: s)) : WholeForm (b :: s)

/-- A point and the digits after it, or nothing. -/
inductive FractionForm : Bytes → Prop where
  | none : FractionForm []
  | point {s : Bytes} (h : Digits s) : FractionForm (0x2E :: s)

/-- An exponent, or nothing. -/
inductive ExponentForm : Bytes → Prop where
  | none : ExponentForm []
  | digits {e : UInt8} {sign s : Bytes} (he : e = 0x65 ∨ e = 0x45)
      (hsign : sign = [] ∨ sign = [0x2B] ∨ sign = [0x2D]) (h : Digits s) :
      ExponentForm (e :: (sign ++ s))

/-- A number without a sign. -/
inductive UnsignedForm : Bytes → Prop where
  | parts {whole fraction exponent : Bytes} (hwhole : WholeForm whole)
      (hfraction : FractionForm fraction) (hexponent : ExponentForm exponent) :
      UnsignedForm (whole ++ (fraction ++ exponent))

/-- What stands between the quotes of a text. -/
inductive InnerForm : Bytes → Prop where
  | nil : InnerForm []
  | plain {b : UInt8} {s : Bytes} (hb : IsPlainByte b) (h : InnerForm s) : InnerForm (b :: s)
  | short {b : UInt8} {s : Bytes} (hb : (shortEscape? b).isSome = true) (h : InnerForm s) :
      InnerForm (0x5C :: b :: s)
  | unit {a b c d : UInt8} {s : Bytes} (hquad : (hexQuad? a b c d).isSome = true)
      (h : InnerForm s) : InnerForm (0x5C :: 0x75 :: a :: b :: c :: d :: s)

/-- A value that is neither a list nor an object. -/
inductive ScalarForm : Bytes → Prop where
  | null : ScalarForm [0x6E, 0x75, 0x6C, 0x6C]
  | yes : ScalarForm [0x74, 0x72, 0x75, 0x65]
  | no : ScalarForm [0x66, 0x61, 0x6C, 0x73, 0x65]
  | unsigned {s : Bytes} (h : UnsignedForm s) : ScalarForm s
  | negative {s : Bytes} (h : UnsignedForm s) : ScalarForm (0x2D :: s)
  | text {inner : Bytes} (h : InnerForm inner) : ScalarForm (0x22 :: (inner ++ [0x22]))

/-! ## Values -/

/-- The byte that opens the bracket. -/
def Frame.opening : Frame → UInt8
  | .list => 0x5B
  | .object => 0x7B

/-- What stands before a member's value: nothing in a list, a key and a colon in an object. -/
inductive KeyForm : Frame → Bytes → Bytes → Prop where
  | list (rest : Bytes) : KeyForm .list rest rest
  | object {inner s t rest : Bytes} (hinner : InnerForm inner)
      (hquote : Spaced s (0x22 :: (inner ++ 0x22 :: t))) (hcolon : Spaced t (0x3A :: rest)) :
      KeyForm .object s rest

mutual

/-- A value, and what follows it. -/
inductive ValueForm : Bytes → Bytes → Prop where
  | scalar {v s rest : Bytes} (hv : ScalarForm v) (h : Spaced s (v ++ rest)) : ValueForm s rest
  | bracket {f : Frame} {s t rest : Bytes} (hopen : Spaced s (f.opening :: t))
      (h : InsideForm f t rest) : ValueForm s rest

/-- What follows an opening bracket, up to the closing one: nothing, or members. -/
inductive InsideForm : Frame → Bytes → Bytes → Prop where
  | closed {f : Frame} {s rest : Bytes} (h : Spaced s (f.closing :: rest)) : InsideForm f s rest
  | first {f : Frame} {s t u rest : Bytes} (hkey : KeyForm f s t) (hvalue : ValueForm t u)
      (h : AfterForm f u rest) : InsideForm f s rest

/-- What follows a member, up to the closing bracket: further ones, each after a comma. -/
inductive AfterForm : Frame → Bytes → Bytes → Prop where
  | closed {f : Frame} {s rest : Bytes} (h : Spaced s (f.closing :: rest)) : AfterForm f s rest
  | next {f : Frame} {s t u v rest : Bytes} (hcomma : Spaced s (0x2C :: t)) (hkey : KeyForm f t u)
      (hvalue : ValueForm u v) (h : AfterForm f v rest) : AfterForm f s rest

end

/-! ## Where parts begin and end -/

/-- A number begins with a digit. -/
theorem UnsignedForm.begins {s : Bytes} (h : UnsignedForm s) :
    ∃ b tail, s = b :: tail ∧ isDigit b = true := by
  obtain ⟨hwhole, -, -⟩ := h
  cases hwhole with
  | zero => exact ⟨_, _, rfl, rfl⟩
  | digits hzero h => exact ⟨_, _, rfl, h.2 _ List.mem_cons_self⟩

/-- A scalar begins neither with white space nor with a closing bracket. -/
theorem ScalarForm.begins {s : Bytes} (h : ScalarForm s) :
    ∃ b tail, s = b :: tail ∧ isBlankByte b = false ∧ b ≠ 0x5D := by
  cases h with
  | unsigned h =>
      obtain ⟨b, tail, rfl, hb⟩ := h.begins
      exact ⟨b, tail, rfl, isBlankByte_of_isDigit hb, ne_of_isDigit hb rfl⟩
  | null => exact ⟨_, _, rfl, rfl, by decide⟩
  | yes => exact ⟨_, _, rfl, rfl, by decide⟩
  | no => exact ⟨_, _, rfl, rfl, by decide⟩
  | negative => exact ⟨_, _, rfl, rfl, by decide⟩
  | text => exact ⟨_, _, rfl, rfl, by decide⟩

/-- Nor does any other value. -/
theorem ValueForm.begins {s rest : Bytes} (h : ValueForm s rest) :
    ∃ b tail, skipBlank s = b :: tail ∧ b ≠ 0x5D := by
  cases h with
  | scalar hv hs =>
      obtain ⟨b, tail, rfl, hblank, hclose⟩ := hv.begins
      exact ⟨b, _, hs.skipBlank_eq hblank, hclose⟩
  | @bracket f s t rest hopen =>
      cases f with
      | list => exact ⟨_, _, hopen.skipBlank_eq rfl, by decide⟩
      | object => exact ⟨_, _, hopen.skipBlank_eq rfl, by decide⟩

/-- A key leaves no more than there was. -/
theorem KeyForm.length_le {f : Frame} {s rest : Bytes} (h : KeyForm f s rest) :
    rest.length ≤ s.length := by
  cases h with
  | list => exact Nat.le_refl _
  | object hinner hquote hcolon =>
      have hs := hquote.length_le
      have ht := hcolon.length_le
      simp only [List.length_cons, List.length_append] at hs ht
      omega

mutual

/-- Nor does a value. -/
theorem ValueForm.length_le {s rest : Bytes} : ValueForm s rest → rest.length ≤ s.length
  | .scalar hv hs => by
      have hle := hs.length_le
      rw [List.length_append] at hle
      omega
  | .bracket hopen h => by
      have hs := hopen.length_le
      have ht := h.length_le
      rw [List.length_cons] at hs
      omega

theorem InsideForm.length_le {f : Frame} {s rest : Bytes} : InsideForm f s rest →
    rest.length ≤ s.length
  | .closed hs => by
      have hle := hs.length_le
      rw [List.length_cons] at hle
      omega
  | .first hkey hvalue h => h.length_le.trans (hvalue.length_le.trans hkey.length_le)

theorem AfterForm.length_le {f : Frame} {s rest : Bytes} : AfterForm f s rest →
    rest.length ≤ s.length
  | .closed hs => by
      have hle := hs.length_le
      rw [List.length_cons] at hle
      omega
  | .next hcomma hkey hvalue h => by
      have hs := hcomma.length_le
      have ht := h.length_le.trans (hvalue.length_le.trans hkey.length_le)
      rw [List.length_cons] at hs
      omega

end

/-- A value takes a byte at least. -/
theorem ValueForm.length_lt {s rest : Bytes} (h : ValueForm s rest) : rest.length < s.length := by
  cases h with
  | scalar hv hs =>
      obtain ⟨b, tail, rfl, -, -⟩ := hv.begins
      have hle := hs.length_le
      rw [List.length_append, List.length_cons] at hle
      omega
  | bracket hopen h => exact Nat.lt_of_le_of_lt h.length_le hopen.length_le

/-- White space may stand before a value. -/
theorem ValueForm.of_spaced {s t rest : Bytes} (hs : Spaced s t) (h : ValueForm t rest) :
    ValueForm s rest := by
  cases h with
  | scalar hv ht => exact .scalar hv (hs.trans ht)
  | bracket hopen h => exact .bracket (hs.trans hopen) h

/-- White space may stand behind an opening bracket. -/
theorem InsideForm.of_spaced {f : Frame} {s t rest : Bytes} (hs : Spaced s t)
    (h : InsideForm f t rest) : InsideForm f s rest := by
  cases h with
  | closed ht => exact .closed (hs.trans ht)
  | first hkey hvalue hafter =>
      cases hkey with
      | list => exact .first (.list s) (hvalue.of_spaced hs) hafter
      | object hinner hquote hcolon =>
          exact .first (.object hinner (hs.trans hquote) hcolon) hvalue hafter

/-- White space before a value can be left out. -/
theorem ValueForm.skipBlank {s rest : Bytes} (h : ValueForm s rest) :
    ValueForm (skipBlank s) rest := by
  cases h with
  | scalar hv hs =>
      obtain ⟨b, tail, rfl, hblank, -⟩ := hv.begins
      rw [List.cons_append] at hs
      rw [hs.skipBlank_eq hblank]
      exact .scalar hv (.refl _)
  | @bracket f s t rest hopen h =>
      have hblank : isBlankByte f.opening = false := by cases f <;> rfl
      rw [hopen.skipBlank_eq hblank]
      exact .bracket (.refl _) h

/-- What follows a member is no part of it. -/
theorem AfterForm.ends {f : Frame} {s rest : Bytes} (h : AfterForm f s rest) : Ends s := by
  cases h with
  | closed h =>
      obtain ⟨blanks, hblanks, rfl⟩ := h
      cases f with
      | list => exact Ends.append hblanks (ends_bracket rest)
      | object => exact Ends.append hblanks (ends_brace rest)
  | next hcomma =>
      obtain ⟨blanks, hblanks, rfl⟩ := hcomma
      exact Ends.append hblanks (.inr (.inl rfl))

end AnalysisGateway.Json
