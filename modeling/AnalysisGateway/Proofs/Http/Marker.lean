import Mathlib.Data.List.Chain
import AnalysisGateway.Http.Body
import AnalysisGateway.Proofs.Text.Split

/-!
# Fields that texts call missing

A text calls a field missing if the marker occurs in it, and the name behind its first occurrence is
closed by a backquote (`missingField?_eq_some_iff`). The search does not ask where the marker comes
from: what stands in front of a quoted text is passed over (`Passed`), and inside of the quotes
every character of the marker shows as itself, and no other character as one of them. So a quoted
text calls missing what the text itself calls missing (`missingField?_quoted`).
-/

namespace AnalysisGateway

namespace Text

/-! ## Quoting -/

/-- The digits of a number to the base sixteen. -/
theorem mem_hexDigits {n : Nat} {c : Char} (h : c ∈ hexDigits n) :
    ∃ d < 16, c = Nat.digitChar d := by
  induction n using Nat.strongRecOn with
  | ind n ih =>
      rw [hexDigits] at h
      by_cases hsmall : n < 16
      · rw [Nat.toDigits_of_lt_base hsmall] at h
        exact ⟨n, hsmall, List.mem_singleton.mp h⟩
      · rw [Nat.toDigits_of_base_le (by decide) (by omega)] at h
        obtain h | h := List.mem_append.mp h
        · exact ih (n / 16) (by omega) h
        · exact ⟨n % 16, by omega, List.mem_singleton.mp h⟩

/-- A character stands for itself between quotes, or for an escape without any `m` or backquote. -/
theorem quotedChar_cases (c : Char) :
    quotedChar c = [c] ∨
      ∃ more, quotedChar c = '\\' :: more ∧ 'm' ∉ more ∧ '\x60' ∉ more := by
  have hhex (n : Nat) : ∀ x ∈ hexDigits n, x ≠ 'm' ∧ x ≠ '\x60' := by
    intro x hx
    obtain ⟨d, hd, rfl⟩ := mem_hexDigits hx
    have hall : ∀ d < 16, Nat.digitChar d ≠ 'm' ∧ Nat.digitChar d ≠ '\x60' := by decide
    exact hall d hd
  rw [quotedChar.eq_def]
  split
  · exact .inr ⟨_, rfl, by decide, by decide⟩
  · exact .inr ⟨_, rfl, by decide, by decide⟩
  · exact .inr ⟨_, rfl, by decide, by decide⟩
  · exact .inr ⟨_, rfl, by decide, by decide⟩
  · exact .inr ⟨_, rfl, by decide, by decide⟩
  · exact .inr ⟨_, rfl, by decide, by decide⟩
  · split
    · exact .inl rfl
    · refine .inr ⟨_, rfl, fun hm => ?_, fun hm => ?_⟩
      · simp at hm
        exact (hhex _ _ hm).1 rfl
      · simp at hm
        exact (hhex _ _ hm).2 rfl

/-- No backquote comes from another character. -/
theorem not_mem_flatMap_quotedChar {s : List Char} (h : '\x60' ∉ s) :
    '\x60' ∉ s.flatMap quotedChar := by
  intro hmem
  obtain ⟨c, hc, hquoted⟩ := List.mem_flatMap.mp hmem
  obtain heq | ⟨more, heq, -, hmore⟩ := quotedChar_cases c
  · rw [heq] at hquoted
    exact h (List.mem_singleton.mp hquoted ▸ hc)
  · rw [heq] at hquoted
    obtain habs | hin := List.mem_cons.mp hquoted
    · exact absurd habs (by decide)
    · exact hmore hin

end Text

namespace Http

open Text

/-! ## The first occurrence -/

/-- The text after the first occurrence of a part is what is left without what leads up to it. -/
theorem textAfter?_eq_some_iff {part s after : List Char} :
    textAfter? part s = some after ↔
      ∃ before, s = before ++ part ++ after ∧
        ∀ earlier later, s = earlier ++ part ++ later → before.length ≤ earlier.length := by
  have hgo (acc : List Char) :
      (List.dropInfix?.go part s acc).map (·.2) = textAfter? part s := by
    induction s generalizing acc with
    | nil =>
        rw [textAfter?, List.dropInfix?.go]
        split <;> rfl
    | cons c s ih =>
        rw [textAfter?, List.dropInfix?.go]
        split
        · next hdrop =>
          rw [if_neg, ih]
          intro hfront
          obtain ⟨rest, hrest⟩ := List.isPrefixOf_iff_prefix.mp hfront
          rw [List.dropPrefix?_eq_some_iff.mpr ⟨part, hrest.symm, BEq.rfl⟩] at hdrop
          contradiction
        · next rest hdrop =>
          obtain ⟨part', hpart', hbeq⟩ := List.dropPrefix?_eq_some_iff.mp hdrop
          obtain rfl := eq_of_beq hbeq
          rw [hpart', if_pos (List.isPrefixOf_iff_prefix.mpr (List.prefix_append ..)),
            List.drop_left]
          rfl
  have hsome : textAfter? part s = some after ↔
      ∃ before, s.dropInfix? part = some (before, after) := by
    rw [← hgo [], ← List.dropInfix?, Option.map_eq_some_iff]
    exact ⟨fun ⟨(before, _), h, heq⟩ => ⟨before, heq ▸ h⟩, fun ⟨before, h⟩ => ⟨_, h, rfl⟩⟩
  simp only [hsome, List.dropInfix?_eq_some_iff, beq_iff_eq]
  refine exists_congr fun before => and_congr ?_ ?_
  · exact ⟨fun ⟨_, heq, hpart⟩ => hpart ▸ heq, fun heq => ⟨part, heq, rfl⟩⟩
  · exact ⟨fun h earlier later heq => h earlier part later heq rfl,
      fun h earlier _ later heq hpart => h earlier later (hpart ▸ heq)⟩

/-! ## The marker -/

/-- What stands in front of the name of a missing field. -/
def marker : List Char := "missing field `".toList

theorem marker_eq : marker = 'm' :: 'i' :: "ssing field `".toList := by decide

theorem missingField?_eq (text : List Char) :
    missingField? text = (textAfter? marker text).bind fun after =>
      if (cut '\x60' after).2.isSome then some (cut '\x60' after).1 else none := rfl

/-- A text calls a field of the name missing: the name follows the first occurrence of the marker,
up to a backquote. -/
def CallsMissing (text name : List Char) : Prop :=
  ∃ before after, text = before ++ marker ++ (name ++ '`' :: after) ∧ '`' ∉ name ∧
    ∀ earlier later, text = earlier ++ marker ++ later → before.length ≤ earlier.length

/-- **The field that a text calls missing** is the one that is found. -/
theorem missingField?_eq_some_iff {text name : List Char} :
    missingField? text = some name ↔ CallsMissing text name := by
  have hcut (after : List Char) :
      (Text.cut '`' after).2.isSome = true ∧ (Text.cut '`' after).1 = name ↔
        ∃ more, '`' ∉ name ∧ after = name ++ '`' :: more := by
    obtain ⟨before, more, hbefore, rfl⟩ | hnone := exists_append_or_not_mem '`' after
    · rw [cut_append hbefore]
      constructor
      · rintro ⟨-, rfl⟩
        exact ⟨more, hbefore, rfl⟩
      · rintro ⟨more', hname, heq⟩
        have := cut_append hbefore more
        rw [heq, cut_append hname] at this
        exact ⟨rfl, (Prod.mk.inj this).1.symm⟩
    · rw [cut_of_not_mem hnone]
      refine iff_of_false nofun ?_
      rintro ⟨more, -, rfl⟩
      exact hnone (by simp)
  have hfound : missingField? text = some name ↔ ∃ after, textAfter? marker text = some after ∧
      (cut '\x60' after).2.isSome = true ∧ (cut '\x60' after).1 = name := by
    simp only [missingField?_eq, Option.bind_eq_some_iff, Option.ite_none_right_eq_some,
      Option.some.injEq]
  simp only [hfound, hcut, textAfter?_eq_some_iff]
  constructor
  · rintro ⟨after, ⟨before, htext, hfirst⟩, more, hname, rfl⟩
    exact ⟨before, more, htext, hname, hfirst⟩
  · rintro ⟨before, more, htext, hname, hfirst⟩
    exact ⟨_, ⟨before, htext, hfirst⟩, more, hname, rfl⟩

/-- A text in front that the search for the marker passes over. -/
def Passed (before : List Char) : Prop :=
  ∀ s, textAfter? marker (before ++ s) = textAfter? marker s

/-- The marker does not begin in it. -/
theorem Passed.textAfter?_eq_none {s : List Char} (h : Passed s) : textAfter? marker s = none := by
  have hs := h []
  rw [List.append_nil] at hs
  exact hs

theorem textAfter?_marker_of_ne {c : Char} (h : c ≠ 'm') (s : List Char) :
    textAfter? marker (c :: s) = textAfter? marker s := by
  rw [textAfter?, if_neg]
  rw [marker_eq]
  simp [List.isPrefixOf, h.symm]

theorem Passed.append {s t : List Char} (hs : Passed s) (ht : Passed t) : Passed (s ++ t) := by
  intro u
  rw [List.append_assoc, hs, ht]

/-- The marker does not begin where an `m` is not followed by an `i`. -/
theorem passed_of_isChain {s : List Char} (h : s.IsChain fun c d => c = 'm' → d ≠ 'i')
    (hlast : s.getLast? ≠ some 'm') : Passed s := by
  induction s with
  | nil => exact fun _ => rfl
  | cons c s ih =>
      have hs : Passed s := by
        refine ih h.of_cons fun hm => hlast ?_
        rw [List.getLast?_cons, hm]
        rfl
      intro t
      rw [List.cons_append]
      by_cases hc : c = 'm'
      · cases s with
        | nil => exact absurd (hc ▸ rfl) hlast
        | cons d s =>
            have hd : d ≠ 'i' := (List.isChain_cons_cons.mp h).1 hc
            rw [← hs t, textAfter?, if_neg]
            rw [marker_eq]
            simp [List.isPrefixOf, hd.symm]
      · rw [textAfter?_marker_of_ne hc, hs]

/-- Where there is no `m` at all, the marker does not begin. -/
theorem passed_of_not_mem {s : List Char} (h : 'm' ∉ s) : Passed s := by
  induction s with
  | nil => exact fun _ => rfl
  | cons c s ih =>
      rw [List.mem_cons, not_or] at h
      intro t
      rw [List.cons_append, textAfter?_marker_of_ne (Ne.symm h.1), ih h.2]

theorem textAfter?_marker_append (s : List Char) : textAfter? marker (marker ++ s) = some s := by
  rw [show marker ++ s = 'm' :: ("issing field \x60".toList ++ s) from rfl, textAfter?, if_pos]
  · rfl
  · exact List.isPrefixOf_iff_prefix.mpr (List.prefix_append ..)

/-! ## Quoted texts -/

/-- What shows as itself stands at the front of a quoted text exactly if it does so in the text. -/
theorem isPrefixOf_flatMap_quotedChar {part : List Char} (h : ∀ c ∈ part, quotedChar c = [c])
    (s tail : List Char) :
    part.isPrefixOf (s.flatMap quotedChar ++ '"' :: tail) = part.isPrefixOf s := by
  induction part generalizing s with
  | nil => rw [List.isPrefixOf_nil_left, List.isPrefixOf_nil_left]
  | cons p part ih =>
      obtain ⟨hp, hpart⟩ := List.forall_mem_cons.mp h
      have hquote : p ≠ '"' := by
        rintro rfl
        exact absurd hp (by decide)
      have hescape : p ≠ '\\' := by
        rintro rfl
        exact absurd hp (by decide)
      cases s with
      | nil => simp [List.isPrefixOf, hquote]
      | cons c s =>
          rw [List.flatMap_cons, List.append_assoc]
          by_cases hc : quotedChar c = [c]
          · rw [hc, List.singleton_append, List.isPrefixOf, List.isPrefixOf, ih hpart]
          · obtain ⟨more, heq, -, -⟩ := (quotedChar_cases c).resolve_left hc
            have hne : p ≠ c := by
              rintro rfl
              exact hc hp
            rw [heq, List.cons_append, List.isPrefixOf, List.isPrefixOf,
              beq_false_of_ne hescape, beq_false_of_ne hne]
            rfl

/-- The marker is found between quotes where it is found in the text. -/
theorem textAfter?_flatMap_quotedChar (s : List Char) {tail : List Char}
    (htail : textAfter? marker ('"' :: tail) = none) :
    textAfter? marker (s.flatMap quotedChar ++ '"' :: tail) =
      (textAfter? marker s).map fun after => after.flatMap quotedChar ++ '"' :: tail := by
  have hall : marker.all (fun c => quotedChar c == [c]) = true := by decide
  have hmarker : ∀ c ∈ marker, quotedChar c = [c] :=
    fun c hc => eq_of_beq (List.all_eq_true.mp hall c hc)
  induction s with
  | nil => exact htail
  | cons c s ih =>
      -- The marker stands in front of both texts or of neither, and an escape does not begin one.
      have hfront := isPrefixOf_flatMap_quotedChar hmarker (c :: s) tail
      by_cases h : marker.isPrefixOf (c :: s) = true
      · obtain ⟨after, hafter⟩ := List.isPrefixOf_iff_prefix.mp h
        have hquoted : marker.flatMap quotedChar = marker := by decide
        rw [← hafter, List.flatMap_append, hquoted, List.append_assoc, textAfter?_marker_append,
          textAfter?_marker_append]
        rfl
      · rw [show textAfter? marker (c :: s) = textAfter? marker s by rw [textAfter?, if_neg h],
          ← ih, List.flatMap_cons, List.append_assoc]
        obtain heq | ⟨more, heq, hmore, -⟩ := quotedChar_cases c
        · rw [List.flatMap_cons, List.append_assoc, heq, List.singleton_append] at hfront
          rw [heq, List.singleton_append, textAfter?, if_neg (hfront ▸ h)]
        · have hpassed : Passed ('\\' :: more) :=
            passed_of_not_mem (List.not_mem_cons_of_ne_of_not_mem (by decide) hmore)
          rw [heq, hpassed]

/-- **A quoted text calls missing what the text itself calls missing**, with the name quoted. -/
theorem missingField?_quoted {before tail : List Char} (hbefore : Passed before)
    (htail : textAfter? marker ('"' :: tail) = none) (hclosed : '\x60' ∉ tail) (s : List Char) :
    missingField? (before ++ (quotedChars s ++ tail)) =
      (missingField? s).map fun name => name.flatMap quotedChar := by
  have hquoted : quotedChars s ++ tail = '"' :: (s.flatMap quotedChar ++ '"' :: tail) := by
    simp [quotedChars]
  rw [missingField?_eq, missingField?_eq, hbefore, hquoted,
    textAfter?_marker_of_ne (by decide), textAfter?_flatMap_quotedChar s htail]
  cases textAfter? marker s with
  | none => rfl
  | some after =>
      simp only [Option.map_some, Option.bind_some]
      obtain ⟨name, more, hname, rfl⟩ | hnone := exists_append_or_not_mem '\x60' after
      · have hback : quotedChar '\x60' = ['\x60'] := by decide
        rw [List.flatMap_append, List.flatMap_cons, hback, List.append_assoc,
          List.append_assoc, List.singleton_append, cut_append (not_mem_flatMap_quotedChar hname),
          cut_append hname]
        rfl
      · have hnone' : '\x60' ∉ after.flatMap quotedChar ++ '"' :: tail := by
          simp [not_mem_flatMap_quotedChar hnone, hclosed]
        rw [cut_of_not_mem hnone', cut_of_not_mem hnone]
        rfl

end Http

end AnalysisGateway
