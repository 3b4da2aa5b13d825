import Mathlib.Data.List.DropRight
import AnalysisGateway.Proofs.Json.Items
import AnalysisGateway.Proofs.Json.Numeral

/-!
# Where a value stands

Which bytes stand for which value, in every spelling: numbers of any form that is in range, texts
with any escapes, and white space wherever JSON has it. `Stands depth v s rest` says that the text
`s` begins with the value, after any white space, and that `rest` follows. Like the spellings of a
value it goes by the levels of lists and objects, and a value of any kind is read exactly where it
stands (`readsItems_readValue`).
-/

namespace AnalysisGateway.Json

/-! ## Objects -/

section

variable {α : Type} (name : α → String) (item : α → Bytes → Bytes → Prop)

/-- An object with these members. -/
def BracedForm (items : List α) (s rest : Bytes) : Prop :=
  ∃ u, Spaced s (0x7B :: u) ∧ MembersForm name item items u rest

end

/-! ## Texts -/

theorem innerForm_of_forall {bytes : Bytes} (h : ∀ b ∈ bytes, IsPlainByte b) :
    InnerForm bytes := by
  induction bytes with
  | nil => exact .nil
  | cons b bytes ih =>
      obtain ⟨hb, hbytes⟩ := List.forall_mem_cons.mp h
      exact .plain hb (ih hbytes)

theorem InnerForm.append {s t : Bytes} (hs : InnerForm s) (ht : InnerForm t) :
    InnerForm (s ++ t) := by
  induction hs with
  | nil => exact ht
  | plain hb _ ih => exact .plain hb ih
  | short hb _ ih => exact .short hb ih
  | unit hquad _ ih => exact .unit hquad ih

/-- The escape of a unit has the form of one. -/
theorem innerForm_of_spellsUnit {n : Nat} {quad : List Char} (h : SpellsUnit n quad) :
    InnerForm (Text.encode ('\\' :: 'u' :: quad)) := by
  have hread := readQuad_of_spellsUnit h []
  rw [List.append_nil, readQuad.eq_def] at hread
  split at hread
  · next a b c d rest hquad =>
    split at hread
    · next m hvalue =>
      obtain rfl : rest = [] := (Prod.mk.inj (Except.ok.inj hread)).2
      have hencode : Text.encode ('\\' :: 'u' :: quad) = [0x5C, 0x75, a, b, c, d] := by
        rw [Text.encode_cons, Text.encode_cons, hquad]
        rfl
      rw [hencode]
      exact .unit (by rw [hvalue]; rfl) .nil
    · contradiction
  · contradiction

/-- So has every spelling of a character. -/
theorem innerForm_of_spellsChar {c : Char} {piece : List Char} (h : SpellsChar c piece) :
    InnerForm (Text.encode piece) := by
  cases h with
  | plain hcontrol hquote hescape =>
      rw [Text.encode_cons, Text.encode_nil, List.append_nil]
      exact innerForm_of_forall (isPlainByte_of_mem hcontrol hquote hescape)
  | short hletter =>
      simp only [shortEscapes, List.mem_cons, Prod.mk.injEq, List.not_mem_nil, or_false] at hletter
      obtain ⟨rfl, -⟩ | ⟨rfl, -⟩ | ⟨rfl, -⟩ | ⟨rfl, -⟩ | ⟨rfl, -⟩ | ⟨rfl, -⟩ | ⟨rfl, -⟩ |
        ⟨rfl, -⟩ := hletter
      all_goals exact .short rfl .nil
  | unit hquad => exact innerForm_of_spellsUnit hquad
  | @pair first second _ hfirst hsecond =>
      have hboth := (innerForm_of_spellsUnit hfirst).append (innerForm_of_spellsUnit hsecond)
      rwa [← Text.encode_append] at hboth

/-- **What is spelled as a text has the form of one.** -/
theorem innerForm_of_spellsChars {text inner : List Char} (h : SpellsChars text inner) :
    InnerForm (Text.encode inner) := by
  induction h with
  | nil => exact .nil
  | cons hc _ ih =>
      rw [Text.encode_append]
      exact (innerForm_of_spellsChar hc).append ih

/-! ## The form of what stands -/

section

variable {α : Type} {name : α → String} {item : α → Bytes → Bytes → Prop}
  (hitem : ∀ {a : α} {s rest : Bytes}, item a s rest → ValueForm s rest)

include hitem

theorem FurtherItems.afterForm {items : List α} {s rest : Bytes}
    (h : FurtherItems item items s rest) : AfterForm .list s rest := by
  induction h with
  | done h => exact .closed h
  | next hcomma ha _ ih => exact .next hcomma (.list _) (hitem ha) ih

/-- A list of values is a value. -/
theorem ListForm.valueForm {items : List α} {s rest : Bytes} (h : ListForm item items s rest) :
    ValueForm s rest := by
  obtain ⟨u, hopen, hitems⟩ := h
  cases hitems with
  | none hclose => exact .bracket (f := .list) hopen (.closed hclose)
  | some ha hitems =>
      exact .bracket (f := .list) hopen (.first (.list _) (hitem ha) (hitems.afterForm hitem))

theorem MemberForm.exists_keyForm {a : α} {s t rest : Bytes} (hquote : Spaced s (0x22 :: t))
    (h : MemberForm name item a t rest) : ∃ u, KeyForm .object s u ∧ ValueForm u rest := by
  obtain ⟨⟨inner, hinner, rfl⟩, hcolon, ha⟩ := h
  exact ⟨_, .object (innerForm_of_spellsChars hinner) hquote hcolon, hitem ha⟩

theorem FurtherForm.afterForm {items : List α} {s rest : Bytes}
    (h : FurtherForm name item items s rest) : AfterForm .object s rest := by
  induction h with
  | done h => exact .closed h
  | next hcomma hquote ha _ ih =>
      obtain ⟨u, hkey, hvalue⟩ := ha.exists_keyForm hitem hquote
      exact .next hcomma hkey hvalue ih

/-- An object of values is a value. -/
theorem BracedForm.valueForm {items : List α} {s rest : Bytes}
    (h : BracedForm name item items s rest) : ValueForm s rest := by
  obtain ⟨u, hopen, hmembers⟩ := h
  cases hmembers with
  | none hclose => exact .bracket (f := .object) hopen (.closed hclose)
  | some hquote ha hmembers =>
      obtain ⟨v, hkey, hvalue⟩ := ha.exists_keyForm hitem hquote
      exact .bracket (f := .object) hopen (.first hkey hvalue (hmembers.afterForm hitem))

end

/-- White space in front of a value does not matter. -/
theorem spaced_skipBlank_iff {s rest : Bytes} {b : UInt8} (hb : isBlankByte b = false) :
    Spaced (skipBlank s) (b :: rest) ↔ Spaced s (b :: rest) := by
  rw [spaced_cons_iff hb, spaced_cons_iff hb, skipBlank, skipBlank, List.dropWhile_idempotent]

/-! ## Scalars -/

/-- The bytes of a value that is neither a list nor an object. -/
inductive ScalarFor : Value → Bytes → Prop where
  | null : ScalarFor .null [0x6E, 0x75, 0x6C, 0x6C]
  | yes : ScalarFor (.boolean true) [0x74, 0x72, 0x75, 0x65]
  | no : ScalarFor (.boolean false) [0x66, 0x61, 0x6C, 0x73, 0x65]
  | unsigned {n : Number} {digits : Bytes} (h : Number.StandFor false digits n) :
      ScalarFor (.number n) digits
  | negative {n : Number} {digits : Bytes} (h : Number.StandFor true digits n) :
      ScalarFor (.number n) (0x2D :: digits)
  | text {t : String} {inner : List Char} (h : SpellsChars t.toList inner) :
      ScalarFor (.text t) (0x22 :: (Text.encode inner ++ [0x22]))

/-- Such a value at the front of a text. -/
def ScalarStands (v : Value) (s rest : Bytes) : Prop :=
  ∃ word, ScalarFor v word ∧ Spaced s (word ++ rest)

theorem ScalarStands.of_spaced {v : Value} {s t rest : Bytes} (hs : Spaced s t)
    (h : ScalarStands v t rest) : ScalarStands v s rest := by
  obtain ⟨word, hword, ht⟩ := h
  exact ⟨word, hword, hs.trans ht⟩

/-- A text stands where it is spelled. -/
theorem scalarStands_text_iff {t : String} {s rest : Bytes} :
    ScalarStands (.text t) s rest ↔ StringForm t s rest := by
  constructor
  · rintro ⟨word, hword, hs⟩
    obtain _ | _ | _ | _ | _ | hinner := hword
    exact ⟨_, hs, _, hinner, by simp⟩
  · rintro ⟨u, hquote, inner, hinner, rfl⟩
    exact ⟨_, .text hinner, by simpa using hquote⟩

/-- Bytes of a scalar have the form of one. -/
theorem ScalarFor.scalarForm {v : Value} {word : Bytes} (h : ScalarFor v word) :
    ScalarForm word := by
  cases h with
  | null => exact .null
  | yes => exact .yes
  | no => exact .no
  | unsigned h => exact .unsigned h.unsignedForm
  | negative h => exact .negative h.unsignedForm
  | text h => exact .text (innerForm_of_spellsChars h)

theorem ScalarStands.valueForm {v : Value} {s rest : Bytes} (h : ScalarStands v s rest) :
    ValueForm s rest := by
  obtain ⟨word, hword, hs⟩ := h
  exact .scalar hword.scalarForm hs

theorem ScalarFor.reads {v : Value} {word : Bytes} (h : ScalarFor v word) (depth : Nat) :
    Reads (readValue depth) v word := by
  cases h with
  | null => exact reads_null
  | yes => exact reads_true
  | no => exact reads_false
  | unsigned h =>
      obtain ⟨b, tail, rfl, hb⟩ := h.unsignedForm.begins
      exact reads_unsigned hb fun rest hrest => h.read_append hrest
  | negative h => exact reads_negative fun rest hrest => h.read_append hrest
  | @text t inner h =>
      have hreads : Reads (readValue depth) _ _ := reads_text (.quoted h)
      rwa [encode_quoted] at hreads

theorem scalarStands_skipBlank_iff {v : Value} {s rest : Bytes} :
    ScalarStands v (skipBlank s) rest ↔ ScalarStands v s rest := by
  refine ⟨fun h => h.of_spaced (spaced_skipBlank s), ?_⟩
  rintro ⟨word, hword, hs⟩
  obtain ⟨b, tail, rfl, hb, -⟩ := hword.scalarForm.begins
  exact ⟨_, hword, (spaced_skipBlank_iff hb).mpr hs⟩

/-- **A text is read as an element exactly where it stands.** -/
theorem readsItems_readText : ReadsItems StringForm readText where
  sound h := readText_eq_ok_iff.mp h
  complete h _ := readText_eq_ok_iff.mpr h
  valueForm h := (scalarStands_text_iff.mpr h).valueForm
  skipBlank_iff := by
    intro t s rest
    rw [← scalarStands_text_iff, ← scalarStands_text_iff, scalarStands_skipBlank_iff]

/-- A scalar is read at any depth. -/
theorem ScalarStands.readValue_eq {v : Value} {s rest : Bytes} (h : ScalarStands v s rest)
    (hrest : Ends rest) (depth : Nat) : readValue depth s = .ok (v, rest) := by
  obtain ⟨word, hword, blanks, hblanks, rfl⟩ := h
  exact (hword.reads depth).read_eq hblanks hrest

/-! ## Values -/

/-- A value at the front of a text whose elements and members stand as `part` says. -/
inductive StandsOver (part : Value → Bytes → Bytes → Prop) : Value → Bytes → Bytes → Prop where
  | scalar {v : Value} {s rest : Bytes} (h : ScalarStands v s rest) : StandsOver part v s rest
  | list {items : List Value} {s rest : Bytes} (h : ListForm part items s rest) :
      StandsOver part (.list items) s rest
  | object {members : List (String × Value)} {s rest : Bytes}
      (h : BracedForm Prod.fst (fun m => part m.2) members s rest) :
      StandsOver part (.object members) s rest

/-- A value at the front of a text, with at most `depth` levels of lists and objects. -/
def Stands : (depth : Nat) → Value → Bytes → Bytes → Prop
  | 0 => ScalarStands
  | depth + 1 => StandsOver (Stands depth)

theorem ScalarStands.stands {v : Value} {s rest : Bytes} (h : ScalarStands v s rest)
    (depth : Nat) : Stands depth v s rest := by
  cases depth with
  | zero => exact h
  | succ depth => exact .scalar h

theorem stands_text_iff {depth : Nat} {t : String} {s rest : Bytes} :
    Stands depth (.text t) s rest ↔ StringForm t s rest := by
  rw [← scalarStands_text_iff]
  refine ⟨fun h => ?_, fun h => h.stands depth⟩
  cases depth with
  | zero => exact h
  | succ depth =>
      obtain h | _ | _ := h
      exact h

/-- No list stands as a scalar. -/
theorem stands_list_iff {depth : Nat} {items : List Value} {s rest : Bytes} :
    Stands (depth + 1) (.list items) s rest ↔ ListForm (Stands depth) items s rest := by
  refine ⟨fun h => ?_, .list⟩
  obtain ⟨_, ⟨⟩, -⟩ | h | _ := h
  exact h

theorem stands_object_iff {depth : Nat} {members : List (String × Value)} {s rest : Bytes} :
    Stands (depth + 1) (.object members) s rest ↔
      BracedForm Prod.fst (fun m => Stands depth m.2) members s rest := by
  refine ⟨fun h => ?_, .object⟩
  obtain ⟨_, ⟨⟩, -⟩ | _ | h := h
  exact h

/-- A list of texts stands where each of them does. -/
theorem stands_texts_iff {depth : Nat} {texts : List String} {s rest : Bytes} :
    Stands (depth + 1) (.list (texts.map .text)) s rest ↔ ListForm StringForm texts s rest := by
  have htext : (fun t => Stands depth (.text t)) = StringForm :=
    funext fun t => funext fun s => funext fun rest => propext stands_text_iff
  simp only [stands_list_iff, ListForm, itemsForm_map_iff, htext]

/-- A word that is read stands for its value. -/
theorem scalarStands_of_readWord {v w : Value} {b : UInt8} {word s t rest : Bytes}
    (hv : ScalarFor v (b :: word)) (hs : Spaced s (b :: t))
    (h : ((readWord word t).map fun r => (v, r.2)) = .ok (w, rest)) : ScalarStands w s rest := by
  obtain ⟨⟨⟨⟩, u⟩, hword, heq⟩ := map_eq_ok_iff.mp h
  obtain ⟨rfl, rfl⟩ := Prod.mk.inj heq
  rw [readWord_eq_ok_iff.mp hword] at hs
  exact ⟨_, hv, hs⟩

/-- What is read as a value is a scalar, or a bracket whose inside is read one level below. -/
theorem cases_readValue {depth : Nat} {v : Value} {s rest : Bytes}
    (h : readValue depth s = .ok (v, rest)) :
    ScalarStands v s rest ∨
      ∃ below t, depth = below + 1 ∧
        ((∃ items, v = .list items ∧ Spaced s (0x5B :: t) ∧
          readItems (readValue below) t = .ok (items, rest)) ∨
        ∃ members, v = .object members ∧ Spaced s (0x7B :: t) ∧
          readMembers (readMember (readValue below)) [] t = .ok (members.reverse, rest)) := by
  unfold readValue at h
  split at h
  · contradiction
  next b t hs =>
    have hspaced : Spaced s (b :: t) := spaced_of_skipBlank hs
    split at h
    · next hb => exact .inl (scalarStands_of_readWord .null (hb ▸ hspaced) h)
    split at h
    · next hb => exact .inl (scalarStands_of_readWord .yes (hb ▸ hspaced) h)
    split at h
    · next hb => exact .inl (scalarStands_of_readWord .no (hb ▸ hspaced) h)
    split at h
    · next hb =>
      obtain ⟨⟨n, u⟩, hnumber, heq⟩ := map_eq_ok_iff.mp h
      obtain ⟨rfl, rfl⟩ := Prod.mk.inj heq
      obtain ⟨digits, hstand, rfl⟩ := Number.exists_standFor hnumber
      exact .inl ⟨_, .negative hstand, hb ▸ hspaced⟩
    split at h
    · obtain ⟨⟨n, u⟩, hnumber, heq⟩ := map_eq_ok_iff.mp h
      obtain ⟨rfl, rfl⟩ := Prod.mk.inj heq
      obtain ⟨digits, hstand, hdigits⟩ := Number.exists_standFor hnumber
      exact .inl ⟨_, .unsigned hstand, hdigits ▸ hspaced⟩
    split at h
    · next hb =>
      obtain ⟨⟨text, u⟩, htext, heq⟩ := map_eq_ok_iff.mp h
      obtain ⟨rfl, rfl⟩ := Prod.mk.inj heq
      exact .inl (scalarStands_text_iff.mpr ⟨t, hb ▸ hspaced, readTextTail_eq_ok_iff.mp htext⟩)
    -- A bracket is read only where a level is left.
    split at h
    · next hb =>
      cases depth with
      | zero => contradiction
      | succ below =>
          obtain ⟨⟨items, u⟩, hitems, heq⟩ := map_eq_ok_iff.mp h
          obtain ⟨rfl, rfl⟩ := Prod.mk.inj heq
          exact .inr ⟨below, t, rfl, .inl ⟨items, rfl, hb ▸ hspaced, hitems⟩⟩
    split at h
    · next hb =>
      cases depth with
      | zero => contradiction
      | succ below =>
          obtain ⟨⟨members, u⟩, hmembers, heq⟩ := map_eq_ok_iff.mp h
          obtain ⟨rfl, rfl⟩ := Prod.mk.inj heq
          rw [← members.reverse_reverse] at hmembers
          exact .inr ⟨below, t, rfl, .inr ⟨_, rfl, hb ▸ hspaced, hmembers⟩⟩
    · contradiction

/-! ## Reading -/

theorem readValue_list {depth : Nat} {items : List Value} {s t rest : Bytes}
    (hopen : Spaced s (0x5B :: t)) (h : readItems (readValue depth) t = .ok (items, rest)) :
    readValue (depth + 1) s = .ok (.list items, rest) := by
  rw [readValue, hopen.skipBlank_eq rfl]
  simp [isDigit, digit?, h, Except.map]

theorem readValue_object {depth : Nat} {members : List (String × Value)} {s t rest : Bytes}
    (hopen : Spaced s (0x7B :: t))
    (h : readMembers (readMember (readValue depth)) [] t = .ok (members.reverse, rest)) :
    readValue (depth + 1) s = .ok (.object members, rest) := by
  rw [readValue, hopen.skipBlank_eq rfl]
  simp [isDigit, digit?, h, Except.map]

/-- What is pushed, latest first. -/
theorem leads_push_iff {α : Type} {items done final : List α} :
    Leads (fun done a next => next = a :: done) done items final ↔
      final = items.reverse ++ done := by
  refine ⟨fun h => ?_, fun h => h ▸ leads_push items done⟩
  induction h with
  | nil => rfl
  | cons ha _ ih => rw [ih, ha, List.reverse_cons, List.append_assoc, List.singleton_append]

section

variable {part : Value → Bytes → Bytes → Prop} {read : Reader Value} (h : ReadsItems part read)

include h

/-- The reader of members reads a value behind a colon, and pushes it with its name. -/
theorem readsMembers_readMember :
    ReadsMembers Prod.fst (fun m => part m.2) (fun done m next => next = m :: done)
      (readMember read) where
  sound := by
    intro key state next s rest hread
    rw [readMember] at hread
    split at hread
    · contradiction
    next v t hvalue =>
      obtain ⟨rfl, rfl⟩ := Prod.mk.inj (Except.ok.inj hread)
      obtain ⟨u, hcolon, hv⟩ := readMemberValue_eq_ok_iff.mp hvalue
      exact ⟨(key, v), u, rfl, hcolon, h.sound hv, rfl⟩
  complete := by
    intro m state next s t rest hcolon hitem hstep hrest
    have hvalue : readMemberValue m.1 read s = .ok (m.2, rest) :=
      readMemberValue_eq_ok_iff.mpr ⟨t, hcolon, h.complete hitem hrest⟩
    have hs := hcolon.length_le
    have ht := (h.valueForm hitem).length_le
    rw [List.length_cons] at hs
    rw [readMember, hvalue, hstep]
    exact ⟨rfl, by omega⟩

/-- The members of an object are read exactly if they stand there. -/
theorem readMembers_readMember_eq_ok_iff {members : List (String × Value)} {s rest : Bytes} :
    readMembers (readMember read) [] s = .ok (members.reverse, rest) ↔
      MembersForm Prod.fst (fun m => part m.2) members s rest := by
  rw [(readsMembers_readMember h).readMembers_eq_ok_iff]
  simp only [leads_push_iff, List.append_nil, List.reverse_inj]
  exact ⟨fun ⟨items, hitems, heq⟩ => heq ▸ hitems, fun hmembers => ⟨members, hmembers, rfl⟩⟩

end

theorem standsOver_valueForm {part : Value → Bytes → Bytes → Prop}
    (hpart : ∀ {v : Value} {s rest : Bytes}, part v s rest → ValueForm s rest) {v : Value}
    {s rest : Bytes} (h : StandsOver part v s rest) : ValueForm s rest := by
  cases h with
  | scalar h => exact h.valueForm
  | list h => exact h.valueForm hpart
  | object h => exact h.valueForm hpart

theorem standsOver_skipBlank_iff {part : Value → Bytes → Bytes → Prop} {v : Value}
    {s rest : Bytes} : StandsOver part v (skipBlank s) rest ↔ StandsOver part v s rest := by
  constructor
  · rintro (h | ⟨u, hopen, h⟩ | ⟨u, hopen, h⟩)
    · exact .scalar (scalarStands_skipBlank_iff.mp h)
    · exact .list ⟨u, (spaced_skipBlank_iff rfl).mp hopen, h⟩
    · exact .object ⟨u, (spaced_skipBlank_iff rfl).mp hopen, h⟩
  · rintro (h | ⟨u, hopen, h⟩ | ⟨u, hopen, h⟩)
    · exact .scalar (scalarStands_skipBlank_iff.mpr h)
    · exact .list ⟨u, (spaced_skipBlank_iff rfl).mpr hopen, h⟩
    · exact .object ⟨u, (spaced_skipBlank_iff rfl).mpr hopen, h⟩

/-- **The reader of values reads them exactly where they stand.** -/
theorem readsItems_readValue (depth : Nat) : ReadsItems (Stands depth) (readValue depth) := by
  induction depth with
  | zero =>
      refine ⟨fun {v s rest} h => ?_, fun h hrest => h.readValue_eq hrest 0,
        ScalarStands.valueForm, scalarStands_skipBlank_iff⟩
      obtain h | ⟨below, t, hdepth, -⟩ := cases_readValue h
      · exact h
      · contradiction
  | succ depth ih =>
      refine ⟨fun {v s rest} h => ?_, fun {v s rest} h hrest => ?_,
        standsOver_valueForm ih.valueForm, standsOver_skipBlank_iff⟩
      · obtain h | ⟨below, t, hdepth, ⟨items, rfl, hopen, h⟩ | ⟨members, rfl, hopen, h⟩⟩ :=
          cases_readValue h
        · exact .scalar h
        · obtain rfl := Nat.succ.inj hdepth
          exact .list ⟨t, hopen, ih.readItems_eq_ok_iff.mp h⟩
        · obtain rfl := Nat.succ.inj hdepth
          exact .object ⟨t, hopen, (readMembers_readMember_eq_ok_iff ih).mp h⟩
      · obtain h | ⟨t, hopen, h⟩ | ⟨t, hopen, h⟩ := h
        · exact h.readValue_eq hrest _
        · exact readValue_list hopen (ih.readItems_eq_ok_iff.mpr h)
        · exact readValue_object hopen ((readMembers_readMember_eq_ok_iff ih).mpr h)

end AnalysisGateway.Json
