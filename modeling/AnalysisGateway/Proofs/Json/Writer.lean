import Mathlib.Data.List.Forall2
import AnalysisGateway.Json.Writer
import AnalysisGateway.Proofs.Json.Grammar

/-!
# What is written is a spelling

The writer's texts belong to the grammar: each text, list, object and natural number that is written
is one of the spellings of its value, the one without white space.
-/

namespace AnalysisGateway.Json

/-! ## Texts -/

/-- The digits of a control character's escape. -/
theorem spellsUnit_of_control {n : Nat} (h : n < 0x20) :
    SpellsUnit n ['0', '0', hexDigit (n / 16), hexDigit (n % 16)] := by
  have hfirst : n / 0x1000 = 0 := by omega
  have hsecond : n / 0x100 % 0x10 = 0 := by omega
  have hthird : n / 0x10 % 0x10 = n / 16 := by omega
  refine ⟨?_, ?_, ?_, ?_⟩
  · rw [hfirst]; exact ⟨by decide, .inl rfl⟩
  · rw [hsecond]; exact ⟨by decide, .inl rfl⟩
  · rw [hthird]; exact ⟨by omega, .inl rfl⟩
  · exact ⟨by omega, .inl rfl⟩

theorem spellsChar_writtenChar (c : Char) : SpellsChar c (writtenChar c) := by
  unfold writtenChar
  split
  · exact .short (by decide)
  · exact .short (by decide)
  · exact .short (by decide)
  · exact .short (by decide)
  · exact .short (by decide)
  · exact .short (by decide)
  · exact .short (by decide)
  · split
    · next hcontrol => exact .unit (spellsUnit_of_control hcontrol)
    · next hquote hescape _ _ _ _ _ hcontrol =>
      exact .plain (by omega) hquote hescape

theorem spellsChars_writtenChar (text : List Char) :
    SpellsChars text (text.flatMap writtenChar) := by
  induction text with
  | nil => exact .nil
  | cons c text ih => exact .cons (spellsChar_writtenChar c) ih

/-- A written text is a spelling of the text. -/
theorem spellsText_writtenString (s : String) : SpellsText s (writtenString s) :=
  .quoted (spellsChars_writtenChar s.toList)

theorem spells_writtenString (depth : Nat) (s : String) :
    Spells depth (.text s) (writtenString s) :=
  (SpellsScalar.text (spellsText_writtenString s)).spells depth

/-! ## Numbers -/

/-- So is a written natural number. -/
theorem spells_writtenNatural (depth : Nat) {n : Nat} (h : n < 2 ^ 64) :
    Spells depth (.number (.natural n)) (writtenNatural n) :=
  (SpellsScalar.number (.natural h)).spells depth

/-! ## Lists and objects -/

section

variable {α : Type} {item : α → List Char → Prop}

/-- The parts after the first one, each with its comma. -/
theorem separated_cons (part : List Char) (parts : List (List Char)) :
    separated (part :: parts) = part ++ parts.flatMap fun next => ',' :: next := by
  induction parts generalizing part with
  | nil => simp [separated]
  | cons next parts ih =>
      rw [separated, ih, List.flatMap_cons, List.cons_append]
      exact List.cons_ne_nil next parts

theorem further_flatMap {items : List α} {parts : List (List Char)}
    (h : List.Forall₂ item items parts) :
    Further item items (parts.flatMap fun next => ',' :: next) := by
  induction h with
  | nil => exact .done blanks_nil
  | cons ha _ ih => exact .next blanks_nil blanks_nil ha ih

/-- Written parts with commas between them are elements. -/
theorem elements_separated {items : List α} {parts : List (List Char)}
    (h : List.Forall₂ item items parts) : Elements item items (separated parts) := by
  cases h with
  | nil => exact .none blanks_nil
  | @cons a part items parts ha h =>
      rw [separated_cons]
      exact .some blanks_nil ha (further_flatMap h)

/-- Written members are members of the names under which they are written. -/
theorem elements_writtenMembers {members : List (String × α)} {written : List (String × List Char)}
    (h : List.Forall₂ (fun m w => m.1 = w.1 ∧ item m.2 w.2) members written) :
    Elements (SpellsMember item) members
      (separated (written.map fun (name, value) => writtenText name.toList ++ ':' :: value)) := by
  refine elements_separated ?_
  rw [List.forall₂_map_right_iff]
  refine h.imp fun m w ⟨hname, ha⟩ => ?_
  obtain ⟨name, a⟩ := m
  obtain ⟨name', value⟩ := w
  obtain rfl : name = name' := hname
  have hmember := SpellsMember.bound (spellsText_writtenString name) blanks_nil blanks_nil ha
  simpa [writtenString] using hmember

end

end AnalysisGateway.Json
