import Mathlib.Data.List.DropRight
import AnalysisGateway.Text.Blank

/-!
# Texts without the blanks around them

What trimming leaves, said without trimming: a part of the text with nothing but blanks on either
side, which neither begins nor ends with a blank (`Strips`). Every text has exactly one such part,
so further blanks around a text leave the same.
-/

namespace AnalysisGateway.Text

/-- Nothing but blanks. -/
def AllBlank (s : List Char) : Prop := ∀ c ∈ s, isBlank c = true

/-- A text that neither begins nor ends with a blank. -/
structure Bare (s : List Char) : Prop where
  head : ∀ c ∈ s.head?, isBlank c = false
  last : ∀ c ∈ s.getLast?, isBlank c = false

/-- What is left of a text without the blanks around it. -/
structure Strips (s t : List Char) : Prop where
  exists_eq : ∃ before after, AllBlank before ∧ AllBlank after ∧ s = before ++ t ++ after
  bare : Bare t

variable {s t before after : List Char}

theorem AllBlank.append (h : AllBlank s) (h' : AllBlank t) : AllBlank (s ++ t) := fun c hc =>
  (List.mem_append.mp hc).elim (h c) (h' c)

/-! ## Trimming -/

/-- A text has nothing but blanks if nothing is left of it without the blanks around it. -/
theorem trim_eq_nil_iff (s : List Char) : trim s = [] ↔ ∀ c ∈ s, isBlank c = true := by
  rw [trim, trimEnd, List.reverse_eq_nil_iff, List.dropWhile_eq_nil_iff]
  simp only [List.mem_reverse]
  rw [← List.dropWhile_eq_nil_iff, trimStart, List.dropWhile_idempotent, List.dropWhile_eq_nil_iff]

theorem trimStart_append (h : AllBlank before) (s : List Char) :
    trimStart (before ++ s) = trimStart s :=
  List.dropWhile_append_of_pos h

theorem trimEnd_append (h : AllBlank after) (s : List Char) : trimEnd (s ++ after) = trimEnd s := by
  have hreverse : ∀ c ∈ after.reverse, isBlank c = true := fun c hc => h c (List.mem_reverse.mp hc)
  rw [trimEnd, List.reverse_append, List.dropWhile_append_of_pos hreverse, trimEnd]

/-- Trimming takes the blanks around a bare text, and no more. -/
theorem Bare.trim_append (h : Bare t) (hbefore : AllBlank before) (hafter : AllBlank after) :
    trim (before ++ t ++ after) = t := by
  cases t with
  | nil =>
      rw [trim_eq_nil_iff, List.append_nil]
      exact hbefore.append hafter
  | cons c rest =>
      have hc : ¬ isBlank c = true := by simp [h.head c rfl]
      have hlast : ∀ hne : c :: rest ≠ [], ¬ isBlank ((c :: rest).getLast hne) = true := by
        intro hne
        simp [h.last _ (List.getLast?_eq_some_getLast hne)]
      have hstart : trimStart (before ++ c :: rest ++ after) = c :: rest ++ after := by
        rw [List.append_assoc, trimStart_append hbefore]
        exact List.dropWhile_cons_of_neg hc
      rw [trim, hstart, trimEnd_append hafter]
      exact List.rdropWhile_eq_self_iff.mpr hlast

/-- What trimming leaves has no blank at either end. -/
theorem bare_trim (s : List Char) : Bare (trim s) where
  head := by
    -- Trimming the end takes nothing from the front, unless nothing is left.
    intro c hc
    obtain ⟨taken, htaken⟩ : trim s <+: trimStart s := List.rdropWhile_prefix isBlank _
    have hhead := List.head?_dropWhile_not isBlank s
    rw [← trimStart, ← htaken, List.head?_append, Option.mem_def.mp hc] at hhead
    exact hhead
  last := by
    intro c hc
    obtain ⟨hne, rfl⟩ := List.mem_getLast?_eq_getLast hc
    exact Bool.eq_false_iff.mpr (List.rdropWhile_last_not isBlank (trimStart s) hne)

/-- Trimming strips. -/
theorem strips_trim (s : List Char) : Strips s (trim s) where
  exists_eq := by
    refine ⟨s.takeWhile isBlank, (trimStart s).rtakeWhile isBlank,
      fun _ => List.mem_takeWhile_imp, fun _ => List.mem_rtakeWhile_imp, ?_⟩
    have hend : trim s ++ (trimStart s).rtakeWhile isBlank = trimStart s :=
      List.rdropWhile_append_rtakeWhile
    rw [List.append_assoc, hend]
    exact List.takeWhile_append_dropWhile.symm
  bare := bare_trim s

/-- **What is left of a text without the blanks around it is what trimming leaves.** -/
theorem strips_iff : Strips s t ↔ trim s = t := by
  refine ⟨fun h => ?_, fun h => h ▸ strips_trim s⟩
  obtain ⟨before, after, hbefore, hafter, rfl⟩ := h.exists_eq
  exact h.bare.trim_append hbefore hafter

/-- Nothing is left to trim of a trimmed text. -/
theorem trim_trim (s : List Char) : trim (trim s) = trim s := by
  have hnone : AllBlank [] := nofun
  simpa using (bare_trim s).trim_append hnone hnone

/-- Further blanks around a text leave the same. -/
theorem trim_append (hbefore : AllBlank before) (hafter : AllBlank after) :
    trim (before ++ s ++ after) = trim s := by
  obtain ⟨before', after', hbefore', hafter', hs⟩ := (strips_trim s).exists_eq
  have hsplit : before ++ s ++ after = before ++ before' ++ trim s ++ (after' ++ after) := by
    conv_lhs => rw [hs]
    simp only [List.append_assoc]
  rw [hsplit]
  exact (bare_trim s).trim_append (hbefore.append hbefore') (hafter'.append hafter)

end AnalysisGateway.Text
