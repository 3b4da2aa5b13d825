import Mathlib.Data.List.Forall2
import AnalysisGateway.Proofs.Text.Trim
import AnalysisGateway.Proofs.Text.Utf8Sound
import AnalysisGateway.Text.Lowercase

/-!
# Lower case and ASCII

`Char.toLower` changes the letters A to Z only. Two facts relate it to the lower case of Unicode:

1. A text whose lower case is an ASCII word has the letters of that word, as capitals or not, one by
   one; only the Kelvin sign can stand in place of a `k` (`lowercase_eq_iff`). All other characters
   keep one beyond ASCII in their lower case, also those that become two characters and those that
   look at their neighbours.
2. The case of ASCII letters is of no importance for the lower case of a text, nor for the lower
   case of what stands beside them (`lowercase_map_toLower`).
-/

namespace AnalysisGateway.Text

variable {c d w : Char} {before s t word : List Char}

/-! ## Characters -/

/-- The letters A to Z have the letters a to z as their ASCII lower case. -/
theorem toNat_toLower_ofNat : ∀ n < 26, (Char.ofNat (0x41 + n)).toNat = 0x41 + n ∧
    (Char.ofNat (0x41 + n)).toLower = Char.ofNat (0x61 + n) ∧
    (Char.ofNat (0x61 + n)).toNat = 0x61 + n := by
  decide

/-- A character is a letter A to Z, or has itself as its ASCII lower case. -/
theorem exists_eq_ofNat_or_toLower_eq (c : Char) :
    (∃ n < 26, c = Char.ofNat (0x41 + n)) ∨
      ¬ (0x41 ≤ c.toNat ∧ c.toNat ≤ 0x5A) ∧ c.toLower = c := by
  by_cases hupper : 0x41 ≤ c.toNat ∧ c.toNat ≤ 0x5A
  · refine .inl ⟨c.toNat - 0x41, by omega, ?_⟩
    rw [Nat.add_sub_cancel' hupper.1, Char.ofNat_toNat]
  · exact .inr ⟨hupper, dif_neg fun hrange => hupper ⟨hrange.1, hrange.2⟩⟩

/-- What is the same for each letter A to Z and its small letter does not depend on the case of
ASCII letters. -/
theorem apply_toLower {α : Type} (f : Char → α)
    (h : ∀ n < 26, f (Char.ofNat (0x61 + n)) = f (Char.ofNat (0x41 + n))) (c : Char) :
    f c.toLower = f c := by
  obtain ⟨n, hn, rfl⟩ | ⟨-, hself⟩ := exists_eq_ofNat_or_toLower_eq c
  · rw [(toNat_toLower_ofNat n hn).2.1, h n hn]
  · rw [hself]

/-- The ASCII lower case of a character is in ASCII only if the character is. -/
theorem toNat_toLower_lt_iff : c.toLower.toNat < 0x80 ↔ c.toNat < 0x80 :=
  decide_eq_decide.mp (apply_toLower (fun c => decide (c.toNat < 0x80)) (by decide) c)

theorem isBlank_toLower (c : Char) : isBlank c.toLower = isBlank c :=
  apply_toLower isBlank (by decide) c

/-- An ASCII character has its ASCII lower case. -/
theorem lowerOf_of_lt (hc : c.toNat < 0x80) : lowerOf c = [c.toLower] := by
  -- Only the first run has capitals in ASCII.
  have hfirst : ∀ r ∈ capitalRuns.tail, 0x80 ≤ r.first := by decide +kernel
  have hruns : capitalRuns = ⟨0x41, 0x5A, 1, 0x61⟩ :: capitalRuns.tail := rfl
  have htail : capitalRuns.tail.find? (·.covers c.toNat) = none := by
    rw [List.find?_eq_none]
    intro r hr
    have hbeyond := hfirst r hr
    simp only [CapitalRun.covers, Bool.and_eq_true, decide_eq_true_eq]
    omega
  rw [lowerOf, if_neg (by omega), hruns, List.find?_cons, htail]
  obtain ⟨n, hn, rfl⟩ | ⟨hupper, hself⟩ := exists_eq_ofNat_or_toLower_eq c
  · obtain ⟨hnat, hlower, -⟩ := toNat_toLower_ofNat n hn
    have hcovers : CapitalRun.covers ⟨0x41, 0x5A, 1, 0x61⟩ (0x41 + n) = true := by
      simp only [CapitalRun.covers, Bool.and_eq_true, decide_eq_true_eq, beq_iff_eq]
      omega
    simp only [hnat, hlower, hcovers, Nat.add_sub_cancel_left]
  · have hcovers : CapitalRun.covers ⟨0x41, 0x5A, 1, 0x61⟩ c.toNat = false := by
      rw [← Bool.not_eq_true]
      simp only [CapitalRun.covers, Bool.and_eq_true, decide_eq_true_eq, beq_iff_eq]
      omega
    simp only [hcovers, hself]

theorem lowerOf_toLower (c : Char) : lowerOf c.toLower = lowerOf c := by
  refine apply_toLower lowerOf (fun n hn => ?_) c
  obtain ⟨hupper, hlower, hsmall⟩ := toNat_toLower_ofNat n hn
  have hself : (Char.ofNat (0x61 + n)).toLower = Char.ofNat (0x61 + n) := by
    revert n
    decide
  rw [lowerOf_of_lt (by omega), lowerOf_of_lt (by omega), hlower, hself]

/-- Capitals beyond ASCII have their lower cases beyond ASCII, but for the Kelvin sign. -/
theorem image_of_mem_capitalRuns {r : CapitalRun} (h : r ∈ capitalRuns) :
    r.last < 0x80 ∨ r.first = 0x212A ∧ r.last = 0x212A ∨
      0x80 ≤ r.image ∧ (r.image + (r.last - r.first) < 0xD800 ∨
        0xE000 ≤ r.image ∧ r.image + (r.last - r.first) < 0x110000) := by
  have hall : ∀ r ∈ capitalRuns, r.last < 0x80 ∨ r.first = 0x212A ∧ r.last = 0x212A ∨
      0x80 ≤ r.image ∧ (r.image + (r.last - r.first) < 0xD800 ∨
        0xE000 ≤ r.image ∧ r.image + (r.last - r.first) < 0x110000) := by
    decide +kernel
  exact hall r h

/-- A character beyond ASCII keeps one in its lower case, unless it is the Kelvin sign. -/
theorem exists_mem_lowerOf (hc : 0x80 ≤ c.toNat) (hkelvin : c ≠ '\u212a') :
    ∃ d ∈ lowerOf c, 0x80 ≤ d.toNat := by
  rw [lowerOf]
  split
  · exact ⟨Char.ofNat 0x307, by simp, by decide⟩
  split
  · next r hfind =>
    have hcovers := List.find?_some hfind
    simp only [CapitalRun.covers, Bool.and_eq_true, decide_eq_true_eq] at hcovers
    refine ⟨_, List.mem_singleton_self _, ?_⟩
    obtain hascii | hone | ⟨himage, hvalid⟩ :=
      image_of_mem_capitalRuns (List.mem_of_find?_eq_some hfind)
    · omega
    · exact absurd (Char.toNat_inj.mp (by change c.toNat = 0x212A; omega)) hkelvin
    · have hnat : (Char.ofNat (r.image + (c.toNat - r.first))).toNat =
          r.image + (c.toNat - r.first) := val_ofNat (by omega)
      omega
  · exact ⟨c, List.mem_singleton_self _, hc⟩

/-! ## Words -/

/-- A character is a letter up to its case: an ASCII character whose ASCII lower case is the letter,
or the Kelvin sign for a `k`. -/
def LowersTo (c w : Char) : Prop := c.toLower = w ∨ c = '\u212a' ∧ w = 'k'

/-- The lower case of a character with other characters around it. -/
def lowerBetween (before : List Char) (c : Char) (rest : List Char) : List Char :=
  if c.toNat = 0x3A3 then
    [if beginsCased before && !beginsCased rest then Char.ofNat 0x3C2 else Char.ofNat 0x3C3]
  else lowerOf c

theorem lowercaseAfter_cons (before : List Char) (c : Char) (s : List Char) :
    lowercaseAfter before (c :: s) =
      lowerBetween before c s ++ lowercaseAfter (c :: before) s := rfl

/-- An ASCII character has its ASCII lower case, whatever stands around it. -/
theorem lowerBetween_of_lt (hc : c.toNat < 0x80) (before rest : List Char) :
    lowerBetween before c rest = [c.toLower] := by
  rw [lowerBetween, if_neg (by omega), lowerOf_of_lt hc]

/-- A character beyond ASCII keeps one there, unless it is the Kelvin sign. -/
theorem exists_mem_lowerBetween (hc : 0x80 ≤ c.toNat) (hkelvin : c ≠ '\u212a')
    (before rest : List Char) : ∃ d ∈ lowerBetween before c rest, 0x80 ≤ d.toNat := by
  rw [lowerBetween]
  split
  · refine ⟨_, List.mem_singleton_self _, ?_⟩
    split <;> decide
  · exact exists_mem_lowerOf hc hkelvin

/-- A character that is an ASCII letter up to its case becomes that letter. -/
theorem LowersTo.lowerBetween_eq (h : LowersTo c w) (hw : w.toNat < 0x80)
    (before rest : List Char) :
    lowerBetween before c rest = [w] := by
  obtain rfl | ⟨rfl, rfl⟩ := h
  · exact lowerBetween_of_lt (toNat_toLower_lt_iff.mp hw) before rest
  · rfl

/-- A character that leaves nothing beyond ASCII is a letter up to its case. -/
theorem exists_lowersTo (h : ∀ d ∈ lowerBetween before c t, d.toNat < 0x80) :
    ∃ w, LowersTo c w ∧ lowerBetween before c t = [w] := by
  by_cases hc : c.toNat < 0x80
  · exact ⟨_, .inl rfl, lowerBetween_of_lt hc before t⟩
  by_cases hkelvin : c = '\u212a'
  · subst hkelvin
    exact ⟨'k', .inr ⟨rfl, rfl⟩, rfl⟩
  · obtain ⟨d, hmem, hd⟩ := exists_mem_lowerBetween (Nat.le_of_not_lt hc) hkelvin before t
    exact absurd (h d hmem) (Nat.not_lt_of_le hd)

/-- Behind any text, a text becomes an ASCII word letter by letter. -/
theorem lowercaseAfter_eq_iff (hword : ∀ w ∈ word, w.toNat < 0x80) :
    lowercaseAfter before t = word ↔ List.Forall₂ LowersTo t word := by
  induction t generalizing before word with
  | nil => rw [lowercaseAfter, List.forall₂_nil_left_iff, eq_comm]
  | cons c t ih =>
      rw [lowercaseAfter_cons, List.forall₂_cons_left_iff]
      constructor
      · rintro rfl
        obtain ⟨w, hlowers, hw⟩ := exists_lowersTo fun d hd => hword d (List.mem_append_left _ hd)
        rw [hw] at hword ⊢
        have hrest := (ih fun d hd => hword d (List.mem_append_right _ hd)).mp rfl
        exact ⟨w, _, hlowers, hrest, rfl⟩
      · rintro ⟨w, word', hlowers, hrest, rfl⟩
        obtain ⟨hw, hword'⟩ := List.forall_mem_cons.mp hword
        rw [hlowers.lowerBetween_eq hw, (ih hword').mpr hrest]
        rfl

/-- **A text has an ASCII word as its lower case exactly if it has the word's letters**, up to their
case. -/
theorem lowercase_eq_iff (hword : ∀ w ∈ word, w.toNat < 0x80) :
    lowercase t = word ↔ List.Forall₂ LowersTo t word :=
  lowercaseAfter_eq_iff hword

/-- Without a `k` in the word, only ASCII letters are its letters. -/
theorem forall₂_lowersTo_iff (hk : 'k' ∉ word) :
    List.Forall₂ LowersTo t word ↔ t.map Char.toLower = word := by
  rw [← List.forall₂_eq_eq_eq, List.forall₂_map_left_iff]
  induction word generalizing t with
  | nil => simp
  | cons w word ih =>
      obtain ⟨hw, hword⟩ := List.ne_and_not_mem_of_not_mem_cons hk
      have hlowers (c : Char) : LowersTo c w ↔ c.toLower = w := by
        simp [LowersTo, Ne.symm hw]
      simp only [List.forall₂_cons_right_iff, hlowers, ih hword]

/-- At a `k` in the word, the Kelvin sign is the only other character. -/
theorem forall₂_lowersTo_append_iff {left right : List Char} (hleft : 'k' ∉ left)
    (hright : 'k' ∉ right) :
    List.Forall₂ LowersTo t (left ++ 'k' :: right) ↔
      t.map Char.toLower = left ++ 'k' :: right ∨
        ∃ before after, t = before ++ '\u212a' :: after ∧ before.map Char.toLower = left ∧
          after.map Char.toLower = right := by
  constructor
  · intro h
    have hbefore := (forall₂_lowersTo_iff hleft).mp (List.forall₂_take_append t left _ h)
    obtain ⟨c, after, hc, hafter, hdrop⟩ :=
      List.forall₂_cons_right_iff.mp (List.forall₂_drop_append t left _ h)
    have hafter := (forall₂_lowersTo_iff hright).mp hafter
    have ht : t = t.take left.length ++ c :: after := by rw [← hdrop, List.take_append_drop]
    obtain hlower | ⟨rfl, -⟩ := hc
    · rw [ht, List.map_append, List.map_cons, hbefore, hlower, hafter]
      exact .inl rfl
    · exact .inr ⟨_, _, ht, hbefore, hafter⟩
  · rintro (hsame | ⟨before, after, rfl, hbefore, hafter⟩)
    · rw [← List.forall₂_eq_eq_eq, List.forall₂_map_left_iff] at hsame
      exact hsame.imp fun c w h => .inl h
    · exact List.rel_append ((forall₂_lowersTo_iff hleft).mpr hbefore)
        (.cons (.inr ⟨rfl, rfl⟩) ((forall₂_lowersTo_iff hright).mpr hafter))

/-! ## The case of ASCII letters -/

theorem dropWhile_map_toLower {p : Char → Bool} (hp : ∀ c : Char, p c.toLower = p c)
    (s : List Char) :
    (s.map Char.toLower).dropWhile p = (s.dropWhile p).map Char.toLower := by
  have hcomp : p ∘ Char.toLower = p := funext hp
  rw [List.dropWhile_map, hcomp]

/-- A code point between bounds is in no range that leaves out what lies between them. -/
theorem inRanges_eq_false {ranges : List (Nat × Nat)} {low high n : Nat}
    (h : ∀ r ∈ ranges, r.2 < low ∨ high < r.1) (hlow : low ≤ n) (hhigh : n ≤ high) :
    inRanges ranges n = false := by
  rw [inRanges, List.any_eq_false]
  intro r hr
  have hout := h r hr
  simp only [Bool.and_eq_true, decide_eq_true_eq]
  omega

/-- Whether a text begins with a cased character does not depend on the case of ASCII letters. -/
theorem beginsCased_map_toLower (s : List Char) :
    beginsCased (s.map Char.toLower) = beginsCased s := by
  have hletters : ∀ r ∈ caseIgnorableRanges,
      (r.2 < 0x41 ∨ 0x5A < r.1) ∧ (r.2 < 0x61 ∨ 0x7A < r.1) := by
    decide +kernel
  have hignorable : ∀ c : Char, inRanges caseIgnorableRanges c.toLower.toNat =
      inRanges caseIgnorableRanges c.toNat := by
    refine apply_toLower (fun c => inRanges caseIgnorableRanges c.toNat) fun n hn => ?_
    obtain ⟨hupper, -, hsmall⟩ := toNat_toLower_ofNat n hn
    simp only [hupper, hsmall]
    rw [inRanges_eq_false (fun r hr => (hletters r hr).2) (by omega) (by omega),
      inRanges_eq_false (fun r hr => (hletters r hr).1) (by omega) (by omega)]
  have hcased : ∀ c : Char, inRanges casedRanges c.toLower.toNat = inRanges casedRanges c.toNat :=
    apply_toLower (fun c => inRanges casedRanges c.toNat) (by decide +kernel)
  rw [beginsCased, beginsCased, dropWhile_map_toLower hignorable]
  cases s.dropWhile fun c => inRanges caseIgnorableRanges c.toNat with
  | nil => rfl
  | cons c rest => exact hcased c

theorem lowercaseAfter_map_toLower (before s : List Char) :
    lowercaseAfter (before.map Char.toLower) (s.map Char.toLower) = lowercaseAfter before s := by
  have hsigma : ∀ c : Char, (c.toLower.toNat = 0x3A3) = (c.toNat = 0x3A3) := fun c =>
    propext (decide_eq_decide.mp
      (apply_toLower (fun c => decide (c.toNat = 0x3A3)) (by decide +kernel) c))
  induction s generalizing before with
  | nil => rfl
  | cons c s ih =>
      rw [List.map_cons, lowercaseAfter_cons, lowercaseAfter_cons, ← List.map_cons, ih]
      simp only [lowerBetween, hsigma, beginsCased_map_toLower, lowerOf_toLower]

/-- **The case of ASCII letters is of no importance for the lower case**, not even of other
characters. -/
theorem lowercase_map_toLower (s : List Char) :
    lowercase (s.map Char.toLower) = lowercase s :=
  lowercaseAfter_map_toLower [] s

/-- Nor is it for trimming. -/
theorem trim_map_toLower (s : List Char) :
    trim (s.map Char.toLower) = (trim s).map Char.toLower := by
  rw [trim, trimStart, dropWhile_map_toLower isBlank_toLower, trimEnd, ← List.map_reverse,
    dropWhile_map_toLower isBlank_toLower, ← List.map_reverse]
  rfl

end AnalysisGateway.Text
