import AnalysisGateway.Proofs.Answer.Verdict
import AnalysisGateway.Proofs.Text.Places
import AnalysisGateway.Proofs.Text.Split

/-!
# What stands around an object

An answer is cut down to the part between its outermost braces before anything else is done with
it. So the whole verdict on an answer, a flaw with its place included, is the verdict on this part
alone, and text that brings no further opening brace before it and no further closing one behind it
changes nothing.

The part is given by places in the answer's UTF-8, from the first byte of an opening brace through
the last one of a closing brace (`Braced`). Both bytes are characters of their own, so the part is
never cut inside a character, whatever stands around it.
-/

namespace AnalysisGateway

open Text (encode FirstAt LastAt Covers)

/-! ## The outermost braces -/

/-- The first opening brace of a text stands at one place of its bytes, and its last closing brace
at another. -/
structure Braced (text : List Char) (first last : Nat) : Prop where
  firstAt : FirstAt 0x7B (encode text) first
  lastAt : LastAt 0x7D (encode text) last

section

variable {before text after span : List Char} {first last : Nat}

/-- A text has outermost braces if it has braces of both kinds. -/
theorem exists_braced (hopen : '\x7b' ∈ text) (hclose : '\x7d' ∈ text) :
    ∃ first last, Braced text first last := by
  obtain ⟨before, fromFirst, hfirst, hbefore⟩ := List.eq_append_cons_of_mem hopen
  obtain ⟨toLast, after, hlast, hafter⟩ := Text.exists_eq_append_cons_of_mem hclose
  refine ⟨(encode before).length, (encode toLast).length, ?_, ?_⟩
  · rw [hfirst]
    exact Text.firstAt_encode (by decide) hbefore fromFirst
  · rw [hlast]
    exact Text.lastAt_encode (by decide) toLast hafter

/-- They stand at no other places. -/
theorem Braced.unique {first' last' : Nat} (h : Braced text first last)
    (h' : Braced text first' last') : first = first' ∧ last = last' :=
  ⟨h.firstAt.unique h'.firstAt, h.lastAt.unique h'.lastAt⟩

/-- The part between the outermost braces covers their places and what lies between. -/
theorem IsBraceSpan.exists_covers (h : IsBraceSpan span text) :
    ∃ first last, Braced text first last ∧ first < last ∧ Covers text span first last := by
  obtain ⟨before, inner, after, rfl, rfl, hbefore, hafter⟩ := h
  have hfirst := Text.firstAt_encode (c := '\x7b') (by decide) hbefore (inner ++ ['\x7d'] ++ after)
  have hlast := Text.lastAt_encode (c := '\x7d') (by decide) (before ++ '\x7b' :: inner) hafter
  have hbraced : Braced (before ++ ('\x7b' :: inner ++ ['\x7d']) ++ after) (encode before).length
      (encode (before ++ '\x7b' :: inner)).length :=
    ⟨by simpa using hfirst, by simpa using hlast⟩
  refine ⟨_, _, hbraced, ?_, before, after, rfl, rfl, ?_⟩
  · rw [Text.encode_append, Text.encode_cons_of_lt (by decide), List.length_append,
      List.length_cons]
    omega
  · rw [← List.append_assoc, Text.encode_append (before ++ _), List.length_append]
    rfl

/-- If the first opening brace stands before the last closing one, the part between them consists of
whole characters. -/
theorem Braced.exists_isBraceSpan (h : Braced text first last) (hlt : first < last) :
    ∃ span, IsBraceSpan span text ∧ Covers text span first last := by
  obtain ⟨before, fromFirst, htext, hbefore, rfl⟩ :=
    FirstAt.exists_eq_append (c := '\x7b') (by decide) h.firstAt
  obtain ⟨toLast, after, hsplit, hafter, rfl⟩ :=
    LastAt.exists_eq_append (c := '\x7d') (by decide) h.lastAt
  obtain ⟨more, rfl, hmore⟩ | ⟨more, rfl, -⟩ :=
    List.append_eq_append_iff.mp (htext.symm.trans hsplit)
  · cases more with
    | nil => exact absurd (List.cons.inj hmore).1 (by decide)
    | cons c inner =>
        obtain rfl : '\x7b' = c := (List.cons.inj hmore).1
        have hspan : text = before ++ ('\x7b' :: inner ++ ['\x7d']) ++ after := by
          rw [hsplit]
          simp
        have hcovers : Covers text ('\x7b' :: inner ++ ['\x7d']) (encode before).length
            (encode (before ++ '\x7b' :: inner)).length := by
          refine ⟨before, after, hspan, rfl, ?_⟩
          rw [← List.append_assoc, Text.encode_append (before ++ _), List.length_append]
          rfl
        exact ⟨_, ⟨before, inner, after, hspan, rfl, hbefore, hafter⟩, hcovers⟩
  · rw [Text.encode_append, List.length_append] at hlt
    omega

/-- **The span is what the outermost braces cover**, if they stand in this order. -/
theorem braceSpan?_eq_some_iff_covers :
    braceSpan? text = some span ↔
      ∃ first last, Braced text first last ∧ first < last ∧ Covers text span first last := by
  rw [braceSpan?_eq_some_iff]
  refine ⟨IsBraceSpan.exists_covers, ?_⟩
  rintro ⟨first, last, hbraced, hlt, hcovers⟩
  obtain ⟨other, hother, hcovers'⟩ := hbraced.exists_isBraceSpan hlt
  rwa [hcovers.unique hcovers']

/-- **There is no span** if a brace is missing, or if the last closing one stands before the first
opening one. -/
theorem braceSpan?_eq_none_iff :
    braceSpan? text = none ↔
      '\x7b' ∉ text ∨ '\x7d' ∉ text ∨ ∃ first last, Braced text first last ∧ last < first := by
  constructor
  · intro hnone
    by_contra hnot
    simp only [not_or, not_not, not_exists, not_and] at hnot
    obtain ⟨hopen, hclose, horder⟩ := hnot
    obtain ⟨first, last, hbraced⟩ := exists_braced hopen hclose
    have hne : first ≠ last := by
      rintro rfl
      exact absurd (hbraced.firstAt.getElem?_eq.symm.trans hbraced.lastAt.getElem?_eq) (by decide)
    have hle := horder first last hbraced
    obtain ⟨span, hspan, -⟩ := hbraced.exists_isBraceSpan (by omega)
    exact absurd (hnone.symm.trans (braceSpan?_eq_some_iff.mpr hspan)) (by simp)
  · intro h
    rw [Option.eq_none_iff_forall_ne_some]
    intro span hspan
    obtain ⟨first, last, hbraced, hlt, -⟩ := braceSpan?_eq_some_iff_covers.mp hspan
    obtain hopen | hclose | ⟨first', last', hbraced', hlt'⟩ := h
    · exact hopen ((Text.mem_encode_iff (c := '\x7b') (by decide)).mp hbraced.firstAt.mem)
    · exact hclose ((Text.mem_encode_iff (c := '\x7d') (by decide)).mp hbraced.lastAt.mem)
    · obtain ⟨rfl, rfl⟩ := hbraced.unique hbraced'
      omega

/-! ## Text around the braces -/

/-- What follows the last closing brace is left out. -/
theorem dropWhile_reverse_append (hafter : '\x7d' ∉ after) (s : List Char) :
    (s ++ after).reverse.dropWhile (· != '\x7d') = s.reverse.dropWhile (· != '\x7d') := by
  have hreverse : '\x7d' ∉ after.reverse := mt List.mem_reverse.mp hafter
  rw [List.reverse_append, List.dropWhile_append_of_pos (Text.bne_of_not_mem hreverse)]

/-- **The span of a text is not changed by what stands around it**, if no opening brace comes before
it and no closing one behind it. The text itself may have any braces or none. -/
theorem braceSpan?_append_of_not_mem (hbefore : '\x7b' ∉ before) (hafter : '\x7d' ∉ after) :
    braceSpan? (before ++ text ++ after) = braceSpan? text := by
  rw [braceSpan?, braceSpan?, List.append_assoc,
    List.dropWhile_append_of_pos (Text.bne_of_not_mem hbefore), List.dropWhile_append]
  split
  · next hempty =>
    -- The text has no opening brace, and if one follows it, no closing one comes after that.
    have hrest : '\x7d' ∉ after.dropWhile (· != '\x7b') := fun hmem =>
      hafter ((List.dropWhile_suffix _).mem hmem)
    rw [List.isEmpty_iff.mp hempty, ← List.nil_append (after.dropWhile _),
      dropWhile_reverse_append hrest]
  · rw [dropWhile_reverse_append hafter]

end

/-! ## The verdict -/

namespace Report

/-- Answers with the same span are judged alike. -/
theorem ofAnswer_congr {answer answer' : String}
    (h : braceSpan? answer.toList = braceSpan? answer'.toList) :
    ofAnswer answer = ofAnswer answer' := by
  rw [ofAnswer, ofAnswer, h]

/-- **The verdict on an answer does not depend on what stands around its outermost braces.**

1. Text without an opening brace before an answer, and text without a closing one behind it, leave
   the verdict as it is: the report, or the flaw with its place and so its wording. The answer may
   have any braces or none.
2. So an answer is judged as its span is by itself, and places are counted from there.
3. The span is the part from the first opening brace through the last closing one, in bytes.
4. There is exactly one such part if the braces stand in this order, and it consists of whole
   characters.
5. Otherwise there is no span: one of the braces is missing, or the last closing one stands before
   the first opening one. -/
theorem ofAnswer_surrounded :
    (∀ before answer after : String, '\x7b' ∉ before.toList → '\x7d' ∉ after.toList →
      ofAnswer (before ++ answer ++ after) = ofAnswer answer) ∧
    (∀ (answer : String) (span : List Char), braceSpan? answer.toList = some span →
      ofAnswer answer = ofAnswer (String.ofList span)) ∧
    ∀ text : List Char,
      (∀ span, braceSpan? text = some span ↔
        ∃ first last, Braced text first last ∧ first < last ∧ Covers text span first last) ∧
      (∀ first last, Braced text first last → first < last →
        ∃! span, Covers text span first last) ∧
      (braceSpan? text = none ↔
        '\x7b' ∉ text ∨ '\x7d' ∉ text ∨ ∃ first last, Braced text first last ∧ last < first) := by
  have hsurrounded (before answer after : String) (hbefore : '\x7b' ∉ before.toList)
      (hafter : '\x7d' ∉ after.toList) :
      ofAnswer (before ++ answer ++ after) = ofAnswer answer := by
    refine ofAnswer_congr ?_
    rw [String.toList_append, String.toList_append]
    exact braceSpan?_append_of_not_mem hbefore hafter
  refine ⟨hsurrounded, ?_, fun text =>
    ⟨fun span => braceSpan?_eq_some_iff_covers, ?_, braceSpan?_eq_none_iff⟩⟩
  · intro answer span hspan
    obtain ⟨before, inner, after, hanswer, -, hbefore, hafter⟩ := braceSpan?_eq_some_iff.mp hspan
    have hsplit : answer = String.ofList before ++ String.ofList span ++ String.ofList after := by
      rw [← String.ofList_append, ← String.ofList_append, ← hanswer, String.ofList_toList]
    conv_lhs => rw [hsplit]
    exact hsurrounded _ _ _ (by rwa [String.toList_ofList]) (by rwa [String.toList_ofList])
  · intro first last hbraced hlt
    obtain ⟨span, -, hcovers⟩ := hbraced.exists_isBraceSpan hlt
    exact ⟨span, hcovers, fun other hother => hother.unique hcovers⟩

/-- Characters of several bytes around an object that is none, with braces of the other kind among
them; and an object whose braces are the third and the fourth byte. -/
theorem ofAnswer_surrounded_not_json :
    ofAnswer ("é\x7d\n" ++ "\x7b not json \x7d" ++ "\x7b𝄞") = ofAnswer "\x7b not json \x7d" ∧
    ofAnswer "é\x7b\x7d" = ofAnswer (String.ofList ['\x7b', '\x7d']) ∧
    ∃! span, Covers "é\x7b\x7d".toList span 2 3 := by
  obtain ⟨hverdict, hspan, htext⟩ := ofAnswer_surrounded
  have hbraced : Braced "é\x7b\x7d".toList 2 3 :=
    ⟨⟨by decide, by decide⟩, Text.lastAt_append [0xC3, 0xA9, 0x7B] (by decide)⟩
  exact ⟨hverdict "é\x7d\n" _ "\x7b𝄞" (by decide) (by decide),
    hspan "é\x7b\x7d" ['\x7b', '\x7d'] (by decide), (htext _).2.1 2 3 hbraced (by decide)⟩

end Report

end AnalysisGateway
