import Mathlib.Data.List.Perm.Basic
import AnalysisGateway.Proofs.Answer.Decoding
import AnalysisGateway.Proofs.Answer.Verdict

/-!
# The two ways to read a report

A text that is one object may be read as a record, field by field, or as an answer, whose members
are all read before the last binding of each field is looked up. Either way the report is made up of
the entries of the text that have the names of its fields (`readWhole_shape_eq_ok_iff`,
`ofAnswer_eq_ok_iff_fields`). So the two differ only over fields that come twice and over other
entries, whose values an answer must have in range while a record passes over them.
-/

namespace AnalysisGateway

open Json

/-! ## The object in the answer -/

theorem Json.Blanks.not_mem {blanks : List Char} (h : Blanks blanks) {c : Char}
    (hc : c ∉ [' ', '\t', '\n', '\r']) : c ∉ blanks :=
  fun hmem => hc (h c hmem)

/-- An object is all that stands between the outermost braces of a text that is one. -/
theorem Json.IsObject.exists_isBraceSpan {entries : List Entry} {text : List Char}
    (h : IsObject entries text) : ∃ span, IsBraceSpan span text ∧ IsObject entries span := by
  obtain ⟨before, inner, after, hbefore, hinner, hafter, rfl⟩ := h
  refine ⟨'\x7b' :: inner ++ ['\x7d'], ?_, [], inner, [], blanks_nil, hinner, blanks_nil, by simp⟩
  exact ⟨before, inner, after, rfl, rfl, hbefore.not_mem (by decide), hafter.not_mem (by decide)⟩

namespace Report

/-- The member that an entry is, if its value can be read. -/
def IsMember : Entry → String × Value → Prop :=
  Entry.Is Prod.fst fun m => Stands 126 m.2

theorem delimits_value : Delimits fun m : String × Value => Stands 126 m.2 where
  valueForm := (readsItems_readValue 126).valueForm
  skipBlank_iff := (readsItems_readValue 126).skipBlank_iff
  detached m := detached_stands 126 m.2

/-- The members of an object are its entries, one by one. -/
theorem holdsObject_iff {entries : List Entry} {text : String}
    (htext : IsObject entries text.toList) {members : List (String × Value)} :
    HoldsObject text members ↔ List.Forall₂ IsMember entries members := by
  obtain ⟨span, hspan, hobject⟩ := htext.exists_isBraceSpan
  have hmembers : IsObjectText members (Text.encode span) ↔
      List.Forall₂ IsMember entries members := by
    rw [IsMember, ← hobject.bracedForm_iff delimits_value, IsObjectText]
    simp only [greatestDepth, stands_object_iff]
  rw [← hmembers]
  constructor
  · rintro ⟨span', hspan', h⟩
    rw [← braceSpan?_eq_some_iff] at hspan hspan'
    rwa [Option.some.inj (hspan.symm.trans hspan')]
  · exact fun h => ⟨span, hspan, h⟩

/-! ## Fields -/

theorem exists_of_mem_of_forall₂ {α β : Type} {R : α → β → Prop} {as : List α} {bs : List β}
    (h : List.Forall₂ R as bs) {b : β} (hb : b ∈ bs) : ∃ a ∈ as, R a b := by
  induction h with
  | nil => contradiction
  | @cons a _ _ _ hab _ ih =>
      obtain _ | ⟨_, hb⟩ := hb
      · exact ⟨a, .head _, hab⟩
      · obtain ⟨a', ha', h⟩ := ih hb
        exact ⟨a', .tail _ ha', h⟩

/-- The members that have the names of fields. -/
def fieldsOf (members : List (String × Value)) : List (String × Value) :=
  members.filter fun m => m.1 ∈ requiredFields

/-- No two entries have the same one of these names. -/
def NoneTwice (names : String → Prop) (entries : List Entry) : Prop :=
  entries.Pairwise fun e e' => ∀ name, names name → ¬ (e.Named name ∧ e'.Named name)

theorem NoneTwice.perm {names : String → Prop} {entries entries' : List Entry}
    (h : NoneTwice names entries) (hperm : entries.Perm entries') : NoneTwice names entries' :=
  hperm.pairwise h fun hne name hname hboth => hne name hname hboth.symm

theorem NoneTwice.mono {names names' : String → Prop} {entries : List Entry}
    (h : NoneTwice names entries) (himp : ∀ name, names' name → names name) :
    NoneTwice names' entries :=
  List.Pairwise.imp (fun hne name hname => hne name (himp name hname)) h

theorem NoneTwice.pairwise {names : String → Prop} {entries : List Entry}
    {members : List (String × Value)} (hmembers : List.Forall₂ IsMember entries members)
    (h : NoneTwice names entries) : members.Pairwise fun m m' => names m.1 → m.1 ≠ m'.1 := by
  induction hmembers with
  | nil => exact .nil
  | @cons e m entries members hm hmembers ih =>
      obtain ⟨hfirst, hothers⟩ := List.pairwise_cons.mp h
      refine List.pairwise_cons.mpr ⟨fun m' hm' hname heq => ?_, ih hothers⟩
      obtain ⟨e', he', hm'⟩ := exists_of_mem_of_forall₂ hmembers hm'
      exact hfirst e' he' m.1 hname ⟨hm.1, heq ▸ hm'.1⟩

/-- Entries with different names. -/
theorem noneTwice_of_nodup {entries : List Entry} {all : List String}
    (h : List.Forall₂ Entry.Named entries all) (hnodup : all.Nodup) (names : String → Prop) :
    NoneTwice names entries := by
  induction h with
  | nil => exact .nil
  | @cons e name entries all he hothers ih =>
      obtain ⟨hname, hnodup⟩ := List.nodup_cons.mp hnodup
      refine List.pairwise_cons.mpr ⟨fun e' he' other _ ⟨hother, hother'⟩ => ?_, ih hnodup⟩
      obtain ⟨name', hname', hnamed⟩ := exists_of_mem_of_forall₂ hothers.flip he'
      obtain rfl := he.unique hother
      obtain rfl := hother'.unique hnamed
      exact hname hname'

theorem nodup_fieldsOf {entries : List Entry} {members : List (String × Value)}
    (hmembers : List.Forall₂ IsMember entries members)
    (h : NoneTwice (· ∈ requiredFields) entries) : ((fieldsOf members).map Prod.fst).Nodup := by
  rw [List.Nodup, List.pairwise_map, fieldsOf, List.pairwise_filter]
  refine (h.pairwise hmembers).imp fun hne hname _ => hne (decide_eq_true_iff.mp hname)

theorem Binds.mem {members : List (String × Value)} {r : Report} (h : Binds members r)
    {m : String × Value} (hm : m ∈ r.members) : m ∈ members := by
  have hmem {name : String} {v : Value} (hv : LastBound members name v) : (name, v) ∈ members := by
    obtain ⟨before, after, rfl, -⟩ := hv
    simp
  simp only [Report.members, List.mem_cons, List.not_mem_nil, or_false] at hm
  obtain rfl | rfl | rfl | rfl := hm
  · exact hmem h.time
  · exact hmem h.space
  · exact hmem h.improvements
  · exact hmem h.explanation

/-- Members among which the fields are those of a report bind them, each once. -/
theorem binds_of_perm {members : List (String × Value)} {r : Report}
    (h : (fieldsOf members).Perm r.members) : Binds members r := by
  have hall : members.Perm (r.members ++ members.filter fun m => !decide (m.1 ∈ requiredFields)) :=
    (List.filter_append_perm _ members).symm.trans (h.append_right _)
  have hothers : ∀ m ∈ members.filter fun m => !decide (m.1 ∈ requiredFields),
      m.1 ∉ requiredFields := fun m hm => by simpa using (List.mem_filter.mp hm).2
  have hbound {name : String} {v : Value} (hm : (name, v) ∈ r.members) :
      LastBound members name v := lookup?_eq_some_iff.mp (lookup?_of_perm hall hothers name hm)
  exact ⟨hbound (.head _), hbound (.tail _ (.head _)), hbound (.tail _ (.tail _ (.head _))),
    hbound (.tail _ (.tail _ (.tail _ (.head _))))⟩

/-- Where no field comes twice, the bindings of a report are all the fields there are. -/
theorem Binds.perm {members : List (String × Value)} {r : Report} (h : Binds members r)
    (hnodup : ((fieldsOf members).map Prod.fst).Nodup) : (fieldsOf members).Perm r.members := by
  have hfield {m : String × Value} (hm : m ∈ r.members) : m ∈ fieldsOf members :=
    List.mem_filter.mpr ⟨h.mem hm, decide_eq_true (mem_requiredFields_of_mem_members hm)⟩
  have hmembers : r.members.Nodup := by
    refine List.Nodup.of_map Prod.fst ?_
    rw [map_fst_members]
    decide
  refine (List.perm_ext_iff_of_nodup hnodup.of_map hmembers).mpr fun m => ⟨fun hm => ?_, hfield⟩
  have hname : m.1 ∈ r.members.map Prod.fst := by
    rw [map_fst_members]
    exact decide_eq_true_iff.mp (List.mem_filter.mp hm).2
  obtain ⟨m', hm', hsame⟩ := List.mem_map.mp hname
  rwa [← List.inj_on_of_nodup_map hnodup (hfield hm') hm hsame]

/-- **An answer that is an object without a repeated field is read as a report exactly if its fields
are those of the report, in any order.** -/
theorem ofAnswer_eq_ok_iff_fields {entries : List Entry} {text : String}
    (htext : IsObject entries text.toList) (honce : NoneTwice (· ∈ requiredFields) entries)
    {r : Report} :
    ofAnswer text = .ok r ↔ ∃ members, List.Forall₂ IsMember entries members ∧
      (fieldsOf members).Perm r.members := by
  simp only [ofAnswer_eq_ok_iff, holdsObject_iff htext]
  refine exists_congr fun members => and_congr_right fun hmembers => ⟨fun h => ?_, binds_of_perm⟩
  exact h.perm (nodup_fieldsOf hmembers honce)

/-! ## One entry, read in both ways -/

/-- A field is the member that is bound in the object. -/
theorem isMember_of_field? {e : Entry} {a : Member} {m : String × Value}
    (he : e.Is Member.name Member.Form a) (hfield : a.field? = some m) : IsMember e m := by
  obtain ⟨hname, hform⟩ := he
  cases a with
  | text f t =>
      obtain rfl := Option.some.inj hfield
      exact ⟨hname, stands_text_iff.mpr hform⟩
  | improvements items =>
      obtain rfl := Option.some.inj hfield
      exact ⟨hname, stands_texts_iff.mpr hform⟩
  | other name => contradiction

/-- A member of a report that is bound in the object is a field. -/
theorem exists_member_of_mem {e : Entry} {m : String × Value} (he : IsMember e m) {r : Report}
    (hm : m ∈ r.members) :
    ∃ a : Member, e.Is Member.name Member.Form a ∧ a.field? = some m := by
  obtain ⟨hname, hstands⟩ := he
  simp only [Report.members, List.mem_cons, List.not_mem_nil, or_false] at hm
  obtain rfl | rfl | rfl | rfl := hm
  · exact ⟨.text .time _, ⟨hname, stands_text_iff.mp hstands⟩, rfl⟩
  · exact ⟨.text .space _, ⟨hname, stands_text_iff.mp hstands⟩, rfl⟩
  · exact ⟨.improvements _, ⟨hname, stands_texts_iff.mp hstands⟩, rfl⟩
  · exact ⟨.text .explanation _, ⟨hname, stands_text_iff.mp hstands⟩, rfl⟩

/-- Any other member is passed over. -/
theorem other_of_isMember {e : Entry} {m : String × Value} (he : IsMember e m) :
    e.Is Member.name Member.Form (.other m.1) :=
  ⟨he.1, (readsItems_readValue 126).valueForm he.2⟩

/-! ## All entries -/

theorem forall₂_isMember {entries : List Entry} {all : List Member}
    (hall : List.Forall₂ (Entry.Is Member.name Member.Form) entries all)
    (hfields : ∀ a ∈ all, ∃ m, a.field? = some m) :
    List.Forall₂ IsMember entries (all.filterMap Member.field?) := by
  induction hall with
  | nil => exact .nil
  | @cons e a entries all he _ ih =>
      obtain ⟨⟨m, hm⟩, hothers⟩ := List.forall_mem_cons.mp hfields
      rw [List.filterMap_cons_some hm]
      exact .cons (isMember_of_field? he hm) (ih hothers)

theorem exists_forall₂_member {entries : List Entry} {members : List (String × Value)}
    {r : Report} (hmembers : List.Forall₂ IsMember entries members)
    (hfields : ∀ m ∈ fieldsOf members, m ∈ r.members) :
    ∃ all, List.Forall₂ (Entry.Is Member.name Member.Form) entries all ∧
      (∀ name, .other name ∈ all → name ∉ requiredFields) ∧
      all.filterMap Member.field? = fieldsOf members := by
  induction hmembers with
  | nil => exact ⟨[], .nil, fun _ h => absurd h List.not_mem_nil, rfl⟩
  | @cons e m entries members he _ ih =>
      by_cases hname : m.1 ∈ requiredFields
      · have hcons : fieldsOf (m :: members) = m :: fieldsOf members :=
          List.filter_cons_of_pos (decide_eq_true hname)
        rw [hcons] at hfields ⊢
        obtain ⟨hm, hothers⟩ := List.forall_mem_cons.mp hfields
        obtain ⟨all, hall, hnames, hfieldsOf⟩ := ih hothers
        obtain ⟨a, ha, hfield⟩ := exists_member_of_mem he hm
        refine ⟨a :: all, .cons ha hall, fun name h => ?_, ?_⟩
        · obtain _ | ⟨_, h⟩ := h
          · contradiction
          · exact hnames name h
        · rw [List.filterMap_cons_some hfield, hfieldsOf]
      · have hcons : fieldsOf (m :: members) = fieldsOf members :=
          List.filter_cons_of_neg (by simpa using hname)
        rw [hcons] at hfields ⊢
        obtain ⟨all, hall, hnames, hfieldsOf⟩ := ih hfields
        refine ⟨.other m.1 :: all, .cons (other_of_isMember he) hall, fun name h => ?_, hfieldsOf⟩
        obtain _ | ⟨_, h⟩ := h
        · exact hname
        · exact hnames name h

/-! ## Agreement -/

section

variable {entries : List Entry} {text : String} (htext : IsObject entries text.toList) {r : Report}

include htext

/-- A record without other members is an answer. -/
theorem ofAnswer_of_readWhole_shape (h : readWhole shape.read (Text.toBytes text) = .ok r)
    (hnames : ∀ e ∈ entries, ∀ name, e.Named name → name ∈ requiredFields) :
    ofAnswer text = .ok r := by
  obtain ⟨all, hall, hothers, hperm⟩ := (readWhole_shape_eq_ok_iff htext).mp h
  have hfields (a : Member) (ha : a ∈ all) : ∃ m, a.field? = some m := by
    obtain ⟨e, he, his⟩ := exists_of_mem_of_forall₂ hall ha
    cases a with
    | other name => exact absurd (hnames e he name his.1) (hothers name ha)
    | text => exact ⟨_, rfl⟩
    | improvements => exact ⟨_, rfl⟩
  have hself : fieldsOf (all.filterMap Member.field?) = all.filterMap Member.field? :=
    List.filter_eq_self.mpr fun m hm =>
      decide_eq_true (mem_requiredFields_of_mem_members (hperm.mem_iff.mp hm))
  refine ofAnswer_eq_ok_iff.mpr
    ⟨_, (holdsObject_iff htext).mpr (forall₂_isMember hall hfields), binds_of_perm ?_⟩
  rwa [hself]

/-- An answer without repeated fields is a record. -/
theorem readWhole_shape_of_ofAnswer (h : ofAnswer text = .ok r)
    (honce : NoneTwice (· ∈ requiredFields) entries) :
    readWhole shape.read (Text.toBytes text) = .ok r := by
  obtain ⟨members, hmembers, hperm⟩ := (ofAnswer_eq_ok_iff_fields htext honce).mp h
  obtain ⟨all, hall, hothers, hfields⟩ :=
    exists_forall₂_member hmembers fun m hm => hperm.mem_iff.mp hm
  exact (readWhole_shape_eq_ok_iff htext).mpr ⟨all, hall, hothers, hfields ▸ hperm⟩

variable {entries' : List Entry} {text' : String} (htext' : IsObject entries' text'.toList)
  (hperm : entries.Perm entries')

include htext' hperm

/-- The order of the members does not matter to a record. -/
theorem readWhole_shape_of_perm (h : readWhole shape.read (Text.toBytes text) = .ok r) :
    readWhole shape.read (Text.toBytes text') = .ok r := by
  obtain ⟨all, hall, hothers, hfields⟩ := (readWhole_shape_eq_ok_iff htext).mp h
  obtain ⟨all', hall', hsame⟩ := List.perm_comp_forall₂ hperm.symm hall
  exact (readWhole_shape_eq_ok_iff htext').mpr ⟨all', hall',
    fun name hname => hothers name (hsame.mem_iff.mp hname),
    (hsame.filterMap Member.field?).trans hfields⟩

/-- Nor does it matter to an answer, unless a field comes twice. -/
theorem ofAnswer_of_perm (honce : NoneTwice (· ∈ requiredFields) entries)
    (h : ofAnswer text = .ok r) : ofAnswer text' = .ok r := by
  obtain ⟨members, hmembers, hfields⟩ := (ofAnswer_eq_ok_iff_fields htext honce).mp h
  obtain ⟨members', hmembers', hsame⟩ := List.perm_comp_forall₂ hperm.symm hmembers
  exact (ofAnswer_eq_ok_iff_fields htext' (honce.perm hperm)).mpr ⟨members', hmembers',
    (hsame.filter _).trans hfields⟩

end

/-- **The two ways to read a report agree** on every text that is one object. A record is the same
report as an answer if it has no other members, and an answer is the same report as a record if no
field comes twice. Where no name comes twice, the order of the members matters to neither. -/
theorem readWhole_shape_agrees_ofAnswer {entries : List Entry} {text : String}
    (htext : IsObject entries text.toList) :
    (∀ r, readWhole shape.read (Text.toBytes text) = .ok r →
      (∀ e ∈ entries, ∀ name, e.Named name → name ∈ requiredFields) → ofAnswer text = .ok r) ∧
    (∀ r, ofAnswer text = .ok r → NoneTwice (· ∈ requiredFields) entries →
      readWhole shape.read (Text.toBytes text) = .ok r) ∧
    ∀ (entries' : List Entry) (text' : String), IsObject entries' text'.toList →
      entries.Perm entries' → NoneTwice (fun _ => True) entries → ∀ r,
        (readWhole shape.read (Text.toBytes text) = .ok r ↔
          readWhole shape.read (Text.toBytes text') = .ok r) ∧
        (ofAnswer text = .ok r ↔ ofAnswer text' = .ok r) := by
  refine ⟨fun r => ofAnswer_of_readWhole_shape htext, fun r => readWhole_shape_of_ofAnswer htext,
    fun entries' text' htext' hperm hnone r => ?_⟩
  have honce : NoneTwice (· ∈ requiredFields) entries := hnone.mono fun _ _ => trivial
  exact ⟨⟨readWhole_shape_of_perm htext htext' hperm,
      readWhole_shape_of_perm htext' htext hperm.symm⟩,
    ⟨ofAnswer_of_perm htext htext' hperm honce,
      ofAnswer_of_perm htext' htext hperm.symm (honce.perm hperm)⟩⟩

/-- A record that is read as an answer, and as a record again with its members in another order. -/
theorem readWhole_shape_agrees_ofAnswer_reversed :
    ofAnswer ("\x7b\"explanation\":\"\",\"improvements\":[\"\\u007b\"]," ++
        "\"space_complexity\":\"1\",\"time_complexity\":\"n\"\x7d") =
      .ok ⟨"n", "1", ["\x7b"], ""⟩ ∧
    readWhole shape.read (Text.toBytes
        ("\x7b\"time_complexity\":\"n\",\"space_complexity\":\"1\"," ++
          "\"improvements\":[\"\\u007b\"],\"explanation\":\"\"\x7d")) =
      .ok ⟨"n", "1", ["\x7b"], ""⟩ := by
  let entries : List Entry :=
    [⟨"explanation".toList, "\"\"".toList⟩,
      ⟨"improvements".toList, "[\"\\u007b\"]".toList⟩,
      ⟨"space_complexity".toList, "\"1\"".toList⟩,
      ⟨"time_complexity".toList, "\"n\"".toList⟩]
  have hnamed : List.Forall₂ Entry.Named entries requiredFields.reverse :=
    .cons (spellsChars_writtenChar _) <| .cons (spellsChars_writtenChar _) <|
      .cons (spellsChars_writtenChar _) <| .cons (spellsChars_writtenChar _) .nil
  have hform : ∀ e ∈ entries,
      InnerForm (Text.encode e.key) ∧ ValueForm (Text.encode e.value) [] := by
    have hvalue {value : List Char} (h : skipValue (Text.encode value) = .ok ((), [])) :
        ValueForm (Text.encode value) [] := (skipValue_eq_ok_iff ends_nil).mp h
    intro e he
    obtain ⟨name, -, hname⟩ := exists_of_mem_of_forall₂ hnamed.flip he
    refine ⟨innerForm_of_spellsChars hname, hvalue ?_⟩
    simp only [entries, List.mem_cons, List.not_mem_nil, or_false] at he
    obtain rfl | rfl | rfl | rfl := he <;> decide +kernel
  have htext : IsObject entries ("\x7b\"explanation\":\"\",\"improvements\":[\"\\u007b\"]," ++
      "\"space_complexity\":\"1\",\"time_complexity\":\"n\"\x7d").toList :=
    isObject_separated hform
  have htext' : IsObject entries.reverse
      ("\x7b\"time_complexity\":\"n\",\"space_complexity\":\"1\"," ++
        "\"improvements\":[\"\\u007b\"],\"explanation\":\"\"\x7d").toList :=
    isObject_separated fun e he => hform e (List.mem_reverse.mp he)
  have hrequired : ∀ e ∈ entries, ∀ name, e.Named name → name ∈ requiredFields := by
    intro e he name hname
    obtain ⟨name', hname', hnamed'⟩ := exists_of_mem_of_forall₂ hnamed.flip he
    rw [hname.unique hnamed']
    exact List.mem_reverse.mp hname'
  have honce (names : String → Prop) : NoneTwice names entries :=
    noneTwice_of_nodup hnamed (by decide) names
  have hreversed : entries.Perm entries.reverse := (List.reverse_perm _).symm
  obtain ⟨hanswer, -, hperm⟩ := readWhole_shape_agrees_ofAnswer htext
  obtain ⟨-, hrecord, -⟩ := readWhole_shape_agrees_ofAnswer htext'
  have hfirst := hanswer ⟨"n", "1", ["\x7b"], ""⟩ (by decide +kernel) hrequired
  have hsecond := (hperm _ _ htext' hreversed (honce _) _).2.mp hfirst
  exact ⟨hfirst, hrecord _ hsecond ((honce _).perm hreversed)⟩

end Report

end AnalysisGateway
