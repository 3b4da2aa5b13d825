import AnalysisGateway.Proofs.Json.Detached
import AnalysisGateway.Proofs.Json.Writer

/-!
# Objects as they are written

A text that is one object, with its entries as they are written: what stands between the quotes of a
key, and a value, of any form and depth. Whatever a reader of members makes of such a text, it makes
it of one entry after the other (`membersForm_iff`, `IsObject.readWhole_eq_ok_iff`), since there is
only one way to take the text apart. So readers can be compared by what they make of an entry, and
nothing else of the text matters.
-/

namespace AnalysisGateway.Json

/-! ## Entries -/

/-- A member as it is written. -/
structure Entry where
  /-- What stands between the quotes of the key. -/
  key : List Char
  value : List Char

/-- An entry in a text. Its key must have the form of a text, and its value that of a value; what
they stand for is left open. -/
inductive SpellsEntry (e : Entry) : List Char → Prop where
  | bound {before after : List Char} (hkey : InnerForm (Text.encode e.key))
      (hvalue : ValueForm (Text.encode e.value) []) (hbefore : Blanks before)
      (hafter : Blanks after) :
      SpellsEntry e ('"' :: (e.key ++ '"' :: (before ++ ':' :: (after ++ e.value))))

/-- A text that is one object with these entries, and white space around it. -/
def IsObject (entries : List Entry) (text : List Char) : Prop :=
  ∃ before inner after, Blanks before ∧ Elements SpellsEntry entries inner ∧ Blanks after ∧
    text = before ++ ('\x7b' :: inner ++ ['\x7d']) ++ after

/-- The name that a key spells. -/
def Entry.Named (e : Entry) (name : String) : Prop := SpellsChars name.toList e.key

/-- What may stand behind a name: a value, of which neither the white space in front nor what
follows matters. -/
structure Delimits {α : Type} (item : α → Bytes → Bytes → Prop) : Prop where
  valueForm : ∀ {a : α} {s rest : Bytes}, item a s rest → ValueForm s rest
  skipBlank_iff : ∀ {a : α} {s rest : Bytes}, item a (skipBlank s) rest ↔ item a s rest
  detached : ∀ a, Detached (item a)

variable {α : Type} {name : α → String} {item : α → Bytes → Bytes → Prop}

/-- The member that an entry is: its key spells the name, and its value is the item. -/
def Entry.Is (name : α → String) (item : α → Bytes → Bytes → Prop) (e : Entry) (a : α) : Prop :=
  e.Named (name a) ∧ item a (Text.encode e.value) []

theorem encode_object (before inner after : List Char) :
    Text.encode (before ++ ('\x7b' :: inner ++ ['\x7d']) ++ after) =
      Text.encode before ++ 0x7B :: (Text.encode inner ++ 0x7D :: Text.encode after) := by
  rw [Text.encode_append, Text.encode_append, encode_braced]
  simp

/-! ## One entry -/

theorem spaced_append_iff {blanks : Bytes} {b c : UInt8} {s t : Bytes} (hblanks : BlankBytes blanks)
    (hb : isBlankByte b = false) (hc : isBlankByte c = false) :
    Spaced (blanks ++ b :: s) (c :: t) ↔ b = c ∧ s = t := by
  rw [spaced_cons_iff hc, skipBlank_append hblanks hb, List.cons.injEq]

/-- A key ends at its quote only. -/
theorem textForm_encode_iff {t : String} {key : List Char} (hkey : InnerForm (Text.encode key))
    {s rest : Bytes} :
    TextForm t (Text.encode key ++ 0x22 :: s) rest ↔ SpellsChars t.toList key ∧ rest = s := by
  constructor
  · rintro ⟨inner, hinner, heq⟩
    have hskip : skipText (Text.encode key ++ 0x22 :: s) (Text.encode key ++ 0x22 :: s) = .ok s :=
      skipText_eq_ok_iff.mpr ⟨_, hkey, rfl⟩
    have hskip' := skipText_eq_ok_iff.mpr ⟨_, innerForm_of_spellsChars hinner, heq⟩
    obtain rfl : s = rest := Except.ok.inj (hskip.symm.trans hskip')
    have hchars : some key = some inner := by
      rw [← Text.decode?_encode key, ← Text.decode?_encode inner, List.append_cancel_right heq]
    exact ⟨Option.some.inj hchars ▸ hinner, rfl⟩
  · rintro ⟨hspells, rfl⟩
    exact ⟨key, hspells, rfl⟩

/-- A key spells one name at most. -/
theorem Entry.Named.unique {e : Entry} {first second : String} (h : e.Named first)
    (h' : e.Named second) : first = second := by
  have hread := readTextTail_of_spellsChars h []
  rw [readTextTail_of_spellsChars h' []] at hread
  exact (Prod.mk.inj (Except.ok.inj hread)).1.symm

section

variable (h : Delimits item)

include h

theorem Delimits.append_iff {blanks : Bytes} (hblanks : BlankBytes blanks) {a : α}
    {s rest : Bytes} : item a (blanks ++ s) rest ↔ item a s rest := by
  have hskip : skipBlank (blanks ++ s) = skipBlank s := List.dropWhile_append_of_pos hblanks
  rw [← h.skipBlank_iff, hskip, h.skipBlank_iff]

/-- A value ends in one place only. -/
theorem Delimits.value_iff {a : α} {value : Bytes} (hvalue : ValueForm value []) {s rest : Bytes}
    (hs : Ends s) (hrest : Ends rest) :
    item a (value ++ s) rest ↔ item a value [] ∧ rest = s := by
  constructor
  · intro ha
    have hskip := (skipValue_eq_ok_iff hs).mpr (detached_valueForm.append_iff.mpr hvalue)
    have hskip' := (skipValue_eq_ok_iff hrest).mpr (h.valueForm ha)
    obtain rfl : s = rest := congrArg Prod.snd (Except.ok.inj (hskip.symm.trans hskip'))
    exact ⟨(h.detached a).append_iff.mp ha, rfl⟩
  · rintro ⟨ha, rfl⟩
    exact (h.detached a).append_iff.mpr ha

variable (name) in
/-- **An entry in a text is a member in one way only.** -/
theorem exists_memberForm_iff {e : Entry} {text : List Char} (he : SpellsEntry e text) :
    ∃ tail, Text.encode text = 0x22 :: tail ∧ ∀ {a : α} {s rest : Bytes}, Ends s → Ends rest →
      (MemberForm name item a (tail ++ s) rest ↔ e.Is name item a ∧ rest = s) := by
  obtain @⟨before, after, hkey, hvalue, hbefore, hafter⟩ := he
  refine ⟨Text.encode (e.key ++ '"' :: (before ++ ':' :: (after ++ e.value))), rfl,
    fun {a s rest} hs hrest => ?_⟩
  have htail : Text.encode (e.key ++ '"' :: (before ++ ':' :: (after ++ e.value))) ++ s =
      Text.encode e.key ++ 0x22 :: (Text.encode before ++
        0x3A :: (Text.encode after ++ (Text.encode e.value ++ s))) := by
    simp only [Text.encode_append, Text.encode_cons, List.append_assoc]
    rfl
  rw [htail]
  constructor
  · rintro ⟨hname, hcolon, ha⟩
    obtain ⟨hspells, rfl⟩ := (textForm_encode_iff hkey).mp hname
    obtain ⟨-, rfl⟩ := (spaced_append_iff hbefore.encode rfl rfl).mp hcolon
    obtain ⟨hitem, rfl⟩ := (h.value_iff hvalue hs hrest).mp ((h.append_iff hafter.encode).mp ha)
    exact ⟨⟨hspells, hitem⟩, rfl⟩
  · rintro ⟨⟨hspells, hitem⟩, rfl⟩
    exact ⟨(textForm_encode_iff hkey).mpr ⟨hspells, rfl⟩,
      (spaced_append_iff hbefore.encode rfl rfl).mpr ⟨rfl, rfl⟩,
      (h.append_iff hafter.encode).mpr ((h.value_iff hvalue hs hrest).mpr ⟨hitem, rfl⟩)⟩

/-! ## All entries -/

theorem furtherForm_iff {entries : List Entry} {inner : List Char}
    (hentries : Further SpellsEntry entries inner) {items : List α} {s rest : Bytes} :
    FurtherForm name item items (Text.encode inner ++ 0x7D :: s) rest ↔
      List.Forall₂ (Entry.Is name item) entries items ∧ rest = s := by
  induction hentries generalizing items with
  | @done blanks hblanks =>
      constructor
      · rintro (hclose | hcomma)
        · obtain ⟨-, rfl⟩ := (spaced_append_iff hblanks.encode rfl rfl).mp hclose
          exact ⟨.nil, rfl⟩
        · exact absurd ((spaced_append_iff hblanks.encode rfl rfl).mp hcomma).1 (by decide)
      · rintro ⟨⟨⟩, rfl⟩
        exact .done ((spaced_append_iff hblanks.encode rfl rfl).mpr ⟨rfl, rfl⟩)
  | @next before after text inner e entries hbefore hafter he hfurther ih =>
      obtain ⟨tail, htext, hmember⟩ := exists_memberForm_iff name h he
      have hends : Ends (Text.encode inner ++ 0x7D :: s) := hfurther.ends (ends_brace s)
      have hsplit : Text.encode (before ++ ',' :: (after ++ text ++ inner)) ++ 0x7D :: s =
          Text.encode before ++ 0x2C :: (Text.encode after ++
            0x22 :: (tail ++ (Text.encode inner ++ 0x7D :: s))) := by
        simp only [Text.encode_append, Text.encode_cons, List.append_assoc, htext, List.cons_append]
        rfl
      rw [hsplit]
      constructor
      · rintro (hclose | ⟨hcomma, hquote, ha, hitems⟩)
        · exact absurd ((spaced_append_iff hbefore.encode rfl rfl).mp hclose).1 (by decide)
        · obtain ⟨-, rfl⟩ := (spaced_append_iff hbefore.encode rfl rfl).mp hcomma
          obtain ⟨-, rfl⟩ := (spaced_append_iff hafter.encode rfl rfl).mp hquote
          obtain ⟨hentry, rfl⟩ := (hmember hends hitems.ends).mp ha
          obtain ⟨hothers, hrest⟩ := ih.mp hitems
          exact ⟨.cons hentry hothers, hrest⟩
      · rintro ⟨hall, rfl⟩
        obtain _ | ⟨hentry, hothers⟩ := hall
        exact .next ((spaced_append_iff hbefore.encode rfl rfl).mpr ⟨rfl, rfl⟩)
          ((spaced_append_iff hafter.encode rfl rfl).mpr ⟨rfl, rfl⟩)
          ((hmember hends hends).mpr ⟨hentry, rfl⟩) (ih.mpr ⟨hothers, rfl⟩)

/-- **An object's entries are its members, one by one.** -/
theorem membersForm_iff {entries : List Entry} {inner : List Char}
    (hentries : Elements SpellsEntry entries inner) {items : List α} {s rest : Bytes} :
    MembersForm name item items (Text.encode inner ++ 0x7D :: s) rest ↔
      List.Forall₂ (Entry.Is name item) entries items ∧ rest = s := by
  cases hentries with
  | @none blanks hblanks =>
      constructor
      · rintro (hclose | hquote)
        · obtain ⟨-, rfl⟩ := (spaced_append_iff hblanks.encode rfl rfl).mp hclose
          exact ⟨.nil, rfl⟩
        · exact absurd ((spaced_append_iff hblanks.encode rfl rfl).mp hquote).1 (by decide)
      · rintro ⟨⟨⟩, rfl⟩
        exact .none ((spaced_append_iff hblanks.encode rfl rfl).mpr ⟨rfl, rfl⟩)
  | @some blanks text inner e entries hblanks he hfurther =>
      obtain ⟨tail, htext, hmember⟩ := exists_memberForm_iff name h he
      have hends : Ends (Text.encode inner ++ 0x7D :: s) := hfurther.ends (ends_brace s)
      have hsplit : Text.encode (blanks ++ text ++ inner) ++ 0x7D :: s =
          Text.encode blanks ++ 0x22 :: (tail ++ (Text.encode inner ++ 0x7D :: s)) := by
        simp only [Text.encode_append, List.append_assoc, htext, List.cons_append]
      rw [hsplit]
      constructor
      · rintro (hclose | ⟨hquote, ha, hitems⟩)
        · exact absurd ((spaced_append_iff hblanks.encode rfl rfl).mp hclose).1 (by decide)
        · obtain ⟨-, rfl⟩ := (spaced_append_iff hblanks.encode rfl rfl).mp hquote
          obtain ⟨hentry, rfl⟩ := (hmember hends hitems.ends).mp ha
          obtain ⟨hothers, hrest⟩ := (furtherForm_iff h hfurther).mp hitems
          exact ⟨.cons hentry hothers, hrest⟩
      · rintro ⟨hall, rfl⟩
        obtain _ | ⟨hentry, hothers⟩ := hall
        exact .some ((spaced_append_iff hblanks.encode rfl rfl).mpr ⟨rfl, rfl⟩)
          ((hmember hends hends).mpr ⟨hentry, rfl⟩)
          ((furtherForm_iff h hfurther).mpr ⟨hothers, rfl⟩)

/-- **A whole text is an object of these members exactly if they are its entries, one by one.** -/
theorem IsObject.bracedForm_iff {entries : List Entry} {text : List Char}
    (htext : IsObject entries text) {items : List α} :
    (∃ rest, BracedForm name item items (Text.encode text) rest ∧ BlankBytes rest) ↔
      List.Forall₂ (Entry.Is name item) entries items := by
  obtain ⟨before, inner, after, hbefore, hinner, hafter, rfl⟩ := htext
  rw [encode_object]
  constructor
  · rintro ⟨rest, ⟨u, hopen, hmembers⟩, -⟩
    obtain ⟨-, rfl⟩ := (spaced_append_iff hbefore.encode rfl rfl).mp hopen
    exact ((membersForm_iff h hinner).mp hmembers).1
  · intro hitems
    exact ⟨_, ⟨_, (spaced_append_iff hbefore.encode rfl rfl).mpr ⟨rfl, rfl⟩,
      (membersForm_iff h hinner).mpr ⟨hitems, rfl⟩⟩, hafter.encode⟩

end

/-- Entries with commas between them make up such a text. -/
theorem isObject_separated {entries : List Entry}
    (h : ∀ e ∈ entries, InnerForm (Text.encode e.key) ∧ ValueForm (Text.encode e.value) []) :
    IsObject entries ('\x7b' ::
      separated (entries.map fun e => '"' :: (e.key ++ '"' :: ':' :: e.value)) ++ ['\x7d']) := by
  have hentries : List.Forall₂ SpellsEntry entries
      (entries.map fun e => '"' :: (e.key ++ '"' :: ':' :: e.value)) := by
    rw [List.forall₂_map_right_iff, List.forall₂_same]
    intro e he
    obtain ⟨hkey, hvalue⟩ := h e he
    exact .bound hkey hvalue blanks_nil blanks_nil
  exact ⟨[], _, [], blanks_nil, elements_separated hentries, blanks_nil, by simp⟩

/-- Such a text opens with a brace. -/
theorem IsObject.exists_spaced {entries : List Entry} {text : List Char}
    (h : IsObject entries text) : ∃ u, Spaced (Text.encode text) (0x7B :: u) := by
  obtain ⟨before, inner, after, hbefore, -, -, rfl⟩ := h
  exact ⟨_, Text.encode before, hbefore.encode, encode_object before inner after⟩

/-! ## Records -/

section

variable {σ β : Type} {r : Record σ β}

/-- A member that is a field is read where it stands, if it has not been read yet. -/
theorem Record.member_field_eq_ok_iff {key fieldName : String} {read : Reader α}
    {get : σ → Option α} {set : α → σ → σ}
    (hfield : r.fields.find? (·.name == key) = some (field fieldName read get set))
    {state next : σ} {s rest : Bytes} :
    r.member key state s = .ok (next, rest) ↔ get state = none ∧
      ∃ t a, Spaced s (0x3A :: t) ∧ read t = .ok (a, rest) ∧ set a state = next := by
  rw [Record.member, hfield]
  cases hget : get state with
  | some a => simp [field, hget]
  | none =>
      simp only [field, hget, Option.isSome_none, Bool.false_eq_true, if_false, true_and,
        map_eq_ok_iff, readMemberValue_eq_ok_iff, Prod.exists, Prod.mk.injEq]
      constructor
      · rintro ⟨_, _, ⟨t, hcolon, a, _, hread, rfl, rfl⟩, rfl, rfl⟩
        exact ⟨t, a, hcolon, hread, rfl⟩
      · rintro ⟨t, a, hcolon, hread, rfl⟩
        exact ⟨_, rest, ⟨t, hcolon, a, rest, hread, rfl, rfl⟩, rfl, rfl⟩

/-- Any other member is passed over. -/
theorem Record.member_other_eq_ok_iff {key : String}
    (hfield : r.fields.find? (·.name == key) = none) {state next : σ} {s rest : Bytes} :
    r.member key state s = .ok (next, rest) ↔
      (∃ t, Spaced s (0x3A :: t) ∧ skipValue t = .ok ((), rest)) ∧ state = next := by
  rw [Record.member, hfield]
  simp only [map_eq_ok_iff, readMemberValue_eq_ok_iff, Prod.exists, Prod.mk.injEq]
  constructor
  · rintro ⟨⟨⟩, _, hskip, rfl, rfl⟩
    exact ⟨hskip, rfl⟩
  · rintro ⟨hskip, rfl⟩
    exact ⟨(), rest, hskip, rfl, rfl⟩

/-- What has been read is complete exactly if nothing is missing. -/
theorem Record.complete_eq_ok_iff {state : σ} {left rest : Bytes} {b : β} :
    r.complete state left = .ok (b, rest) ↔ r.finish state = .ok b ∧ left = rest := by
  rw [Record.complete]
  cases r.finish state <;> simp

theorem Record.closeList_eq_ok_iff {s rest : Bytes} :
    Record.closeList s = .ok rest ↔ Spaced s (0x5D :: rest) := by
  rw [spaced_cons_iff rfl, Record.closeList.eq_def]
  split
  · next hs => simp [hs]
  · next hs =>
    rw [hs]
    split <;> simp
  · next hs => simp [hs]
  · next hclose _ _ => exact iff_of_false nofun fun hs => hclose _ hs

/-- A list is read as a record exactly if its elements lead to a state that is complete, and the
bracket closes behind them. -/
theorem Record.read_list_eq_ok_iff {s u rest : Bytes} (hopen : Spaced s (0x5B :: u)) {b : β} :
    r.read s = .ok (b, rest) ↔ ∃ state v,
      Record.elements r.describeLength r.fields 0 r.blank u = .ok (state, v) ∧
        Spaced v (0x5D :: rest) ∧ r.finish state = .ok b := by
  rw [Record.read, hopen.skipBlank_eq rfl]
  constructor
  · intro hread
    simp only at hread
    split at hread
    · contradiction
    next state v helements =>
      split at hread
      · contradiction
      next left hclose =>
        obtain ⟨hfinish, rfl⟩ := Record.complete_eq_ok_iff.mp hread
        exact ⟨state, v, helements, Record.closeList_eq_ok_iff.mp hclose, hfinish⟩
  · rintro ⟨state, v, helements, hclose, hfinish⟩
    simp only [helements, Record.closeList_eq_ok_iff.mpr hclose]
    exact Record.complete_eq_ok_iff.mpr ⟨hfinish, rfl⟩

variable {step : σ → α → σ → Prop} (h : ReadsMembers name item step r.member)

include h

/-- An object is read as a record exactly if its members lead to a state that is complete. -/
theorem Record.read_eq_ok_iff {s u rest : Bytes} (hopen : Spaced s (0x7B :: u)) {b : β} :
    r.read s = .ok (b, rest) ↔ ∃ items state, BracedForm name item items s rest ∧
      Leads step r.blank items state ∧ r.finish state = .ok b := by
  have hbraced (items : List α) :
      BracedForm name item items s rest ↔ MembersForm name item items u rest := by
    simp only [BracedForm, spaced_cons_iff (show isBlankByte 0x7B = false from rfl),
      hopen.skipBlank_eq rfl, List.cons.injEq, true_and, exists_eq_left']
  simp only [hbraced]
  rw [Record.read, hopen.skipBlank_eq rfl]
  constructor
  · intro hread
    simp only at hread
    split at hread
    · contradiction
    next state left hmembers =>
      obtain ⟨hfinish, rfl⟩ := Record.complete_eq_ok_iff.mp hread
      obtain ⟨items, hitems, hleads⟩ := h.readMembers_eq_ok_iff.mp hmembers
      exact ⟨items, state, hitems, hleads, hfinish⟩
  · rintro ⟨items, state, hitems, hleads, hfinish⟩
    simp only [h.readMembers_eq_ok_iff.mpr ⟨items, hitems, hleads⟩]
    exact Record.complete_eq_ok_iff.mpr ⟨hfinish, rfl⟩

/-- **A whole text is read as a record by its entries.** -/
theorem IsObject.readWhole_eq_ok_iff (hitem : Delimits item) {entries : List Entry}
    {text : List Char} (htext : IsObject entries text) {b : β} :
    readWhole r.read (Text.encode text) = .ok b ↔ ∃ items state,
      List.Forall₂ (Entry.Is name item) entries items ∧ Leads step r.blank items state ∧
        r.finish state = .ok b := by
  obtain ⟨u, hopen⟩ := htext.exists_spaced
  rw [readWhole_eq_ok_iff_exists]
  simp only [Record.read_eq_ok_iff h hopen, ← htext.bracedForm_iff hitem]
  constructor
  · rintro ⟨rest, ⟨items, state, hitems, hrest⟩, hblank⟩
    exact ⟨items, state, ⟨rest, hitems, hblank⟩, hrest⟩
  · rintro ⟨items, state, ⟨rest, hitems, hblank⟩, hrest⟩
    exact ⟨rest, ⟨items, state, hitems, hrest⟩, hblank⟩

end

end AnalysisGateway.Json
