import AnalysisGateway.Proofs.Json.Formal
import AnalysisGateway.Proofs.Json.Stands
import AnalysisGateway.Report

/-!
# Why a body is no submission

What the reader of submissions says of a body that is JSON, but no submission. Two of its faults are
told from the others by what stands in the body: an object without a snippet has a field missing,
and a text is of the wrong kind, and quoted. Both are found before anybody looks at what follows the
value. The other faults name only what was asked for, and a kind, a truth value or a number that was
found.
-/

namespace AnalysisGateway.Submission

open Json

/-! ## Members -/

/-- A member of an object that is read as a submission: the snippet, or one that is passed over. -/
inductive Member where
  | snippet (code : String)
  | other (name : String)

namespace Member

/-- The name of the member. -/
def name : Member → String
  | .snippet _ => "code"
  | .other name => name

/-- What stands behind the name: a text, or any value. -/
def Form : Member → Bytes → Bytes → Prop
  | .snippet code => StringForm code
  | .other _ => ValueForm

/-- Where the member leads: the first snippet is kept, and there must not be another one. -/
inductive Step : Option String → Member → Option String → Prop where
  | snippet (code : String) : Step none (.snippet code) (some code)
  | other {name : String} (h : name ≠ "code") (state : Option String) :
      Step state (.other name) state

end Member

/-- The only field. -/
def snippetField : Json.Field (Option String) := field "code" readText id fun v _ => some v

theorem fields_eq : shape.fields = [snippetField] := rfl

theorem snippetField_read_eq_ok_iff {set : Option String → Option String} {s rest : Bytes} :
    snippetField.read s = .ok (set, rest) ↔
      ∃ code, StringForm code s rest ∧ set = fun _ => some code := by
  simp only [snippetField, field, map_eq_ok_iff, ← readText_eq_ok_iff]
  constructor
  · rintro ⟨⟨code, left⟩, htext, heq⟩
    obtain ⟨rfl, rfl⟩ := Prod.mk.inj heq
    exact ⟨code, htext, rfl⟩
  · rintro ⟨code, htext, rfl⟩
    exact ⟨(code, rest), htext, rfl⟩

/-- A member of another name is passed over. -/
theorem member_of_ne {key : String} (h : key ≠ "code") (state : Option String) (s : Bytes) :
    shape.member key state s = (readMemberValue key skipValue s).map fun r => (state, r.2) := by
  have hkey : ("code" == key) = false := beq_false_of_ne h.symm
  simp [Record.member, shape, field, hkey]

/-- The first member of the name is the snippet. -/
theorem member_code_none (s : Bytes) : shape.member "code" none s =
    (readMemberValue "code" snippetField.read s).map fun r => (r.1 none, r.2) := rfl

/-- A second one is refused. -/
theorem exists_member_code_some (code : String) (s : Bytes) :
    ∃ rest, shape.member "code" (some code) s = .error (.here (.duplicateField "code") rest) :=
  ⟨_, rfl⟩

theorem member_of_ne_eq_ok_iff {key : String} (h : key ≠ "code") {state next : Option String}
    {s rest : Bytes} : shape.member key state s = .ok (next, rest) ↔
      (∃ t, Spaced s (0x3A :: t) ∧ skipValue t = .ok ((), rest)) ∧ state = next := by
  rw [member_of_ne h, map_eq_ok_iff, ← readMemberValue_eq_ok_iff]
  constructor
  · rintro ⟨⟨⟨⟩, left⟩, hread, heq⟩
    obtain ⟨rfl, rfl⟩ := Prod.mk.inj heq
    exact ⟨hread, rfl⟩
  · rintro ⟨hread, rfl⟩
    exact ⟨_, hread, rfl⟩

theorem member_code_none_eq_ok_iff {next : Option String} {s rest : Bytes} :
    shape.member "code" none s = .ok (next, rest) ↔
      ∃ t code, Spaced s (0x3A :: t) ∧ StringForm code t rest ∧ some code = next := by
  rw [member_code_none, map_eq_ok_iff]
  constructor
  · rintro ⟨⟨set, left⟩, hread, heq⟩
    obtain ⟨rfl, rfl⟩ := Prod.mk.inj heq
    obtain ⟨t, hcolon, hset⟩ := readMemberValue_eq_ok_iff.mp hread
    obtain ⟨code, htext, rfl⟩ := snippetField_read_eq_ok_iff.mp hset
    exact ⟨t, code, hcolon, htext, rfl⟩
  · rintro ⟨t, code, hcolon, htext, rfl⟩
    exact ⟨(fun _ => some code, rest), readMemberValue_eq_ok_iff.mpr
      ⟨t, hcolon, snippetField_read_eq_ok_iff.mpr ⟨code, htext, rfl⟩⟩, rfl⟩

/-- The reader of a submission reads such members. -/
theorem readsMembers : ReadsMembers Member.name Member.Form Member.Step shape.member where
  sound := by
    intro key state next s rest h
    by_cases hkey : key = "code"
    · subst hkey
      cases state with
      | some code =>
          obtain ⟨rest', hfault⟩ := exists_member_code_some code s
          rw [hfault] at h
          contradiction
      | none =>
          obtain ⟨t, code, hcolon, htext, rfl⟩ := member_code_none_eq_ok_iff.mp h
          exact ⟨.snippet code, t, rfl, hcolon, htext, .snippet code⟩
    · obtain ⟨⟨t, hcolon, hskip⟩, rfl⟩ := (member_of_ne_eq_ok_iff hkey).mp h
      exact ⟨.other key, t, rfl, hcolon, valueForm_of_skipValue hskip, .other hkey state⟩
  complete := by
    intro m state next s t rest hcolon hitem hstep hrest
    have hle := hcolon.length_le
    rw [List.length_cons] at hle
    cases hstep with
    | snippet code =>
        have htext : StringForm code t rest := hitem
        exact ⟨member_code_none_eq_ok_iff.mpr ⟨t, code, hcolon, htext, rfl⟩,
          htext.length_le.trans (by omega)⟩
    | @other name h =>
        have hvalue : ValueForm t rest := hitem
        exact ⟨(member_of_ne_eq_ok_iff h).mpr
          ⟨⟨t, hcolon, (skipValue_eq_ok_iff hrest).mpr hvalue⟩, rfl⟩,
          hvalue.length_le.trans (by omega)⟩

/-! ## Objects without a snippet -/

/-- A snippet that has been read stays. -/
theorem eq_of_leads_some {code : String} {members : List Member} {final : Option String}
    (h : Leads Member.Step (some code) members final) : final = some code := by
  induction members with
  | nil =>
      cases h
      rfl
  | cons m members ih =>
      obtain _ | ⟨hstep, hleads⟩ := h
      cases hstep with
      | other => exact ih hleads

/-- Members that change nothing have other names. -/
theorem exists_names_of_leads {state : Option String} {members : List Member}
    (h : Leads Member.Step state members state) :
    ∃ names : List String, "code" ∉ names ∧ members = names.map .other := by
  induction members with
  | nil => exact ⟨[], List.not_mem_nil, rfl⟩
  | cons m members ih =>
      obtain _ | ⟨hstep, hleads⟩ := h
      cases hstep with
      | snippet code => exact absurd (eq_of_leads_some hleads) nofun
      | @other name hname =>
          obtain ⟨names, hnames, rfl⟩ := ih hleads
          exact ⟨name :: names, List.not_mem_cons_of_ne_of_not_mem hname.symm hnames, rfl⟩

theorem leads_map_other {names : List String} (h : "code" ∉ names) (state : Option String) :
    Leads Member.Step state (names.map .other) state := by
  induction names with
  | nil => exact .nil state
  | cons name names ih =>
      rw [List.mem_cons, not_or] at h
      exact .cons (.other (Ne.symm h.1) state) (ih h.2)

/-- Members that are passed over are values of any kind. -/
theorem membersForm_map_other_iff {names : List String} {s rest : Bytes} :
    MembersForm Member.name Member.Form (names.map .other) s rest ↔
      MembersForm id (fun _ => ValueForm) names s rest := by
  constructor
  · intro h
    have hmap : (names.map Member.other).map Member.name = names := by
      simp [Function.comp_def, Member.name]
    rw [← hmap]
    refine h.map (fun _ _ => rfl) fun m hm u v hform => ?_
    obtain ⟨name, -, rfl⟩ := List.mem_map.mp hm
    exact hform
  · exact fun h => h.map (fun _ _ => rfl) fun _ _ _ _ hform => hform

/-- **An object is read without a snippet exactly if no member has its name.** -/
theorem readMembers_eq_ok_none_iff {s rest : Bytes} :
    readMembers shape.member none s = .ok (none, rest) ↔
      ∃ names, "code" ∉ names ∧ MembersForm id (fun _ => ValueForm) names s rest := by
  rw [readsMembers.readMembers_eq_ok_iff]
  constructor
  · rintro ⟨members, hmembers, hleads⟩
    obtain ⟨names, hnames, rfl⟩ := exists_names_of_leads hleads
    exact ⟨names, hnames, membersForm_map_other_iff.mp hmembers⟩
  · rintro ⟨names, hnames, hmembers⟩
    exact ⟨_, membersForm_map_other_iff.mpr hmembers, leads_map_other hnames none⟩

/-! ## Lists -/

/-- A text may begin where an element does. -/
theorem stringForm_iff_of_begins {code : String} {s t rest : Bytes} (h : Begins s t) :
    StringForm code t rest ↔ StringForm code s rest := by
  obtain ⟨b, tail, hs, -, rfl⟩ := h
  rw [← hs]
  simp only [StringForm, spaced_skipBlank_iff (show isBlankByte 0x22 = false from rfl)]

/-- **The elements of a list are read exactly if the first one is a text**, and only this one is
read. -/
theorem elements_eq_ok_iff {s rest : Bytes} {state : Option String} :
    Record.elements shape.describeLength shape.fields 0 shape.blank s = .ok (state, rest) ↔
      ∃ code, StringForm code s rest ∧ some code = state := by
  rw [fields_eq, Record.elements]
  constructor
  · intro h
    split at h
    · contradiction
    · contradiction
    next t hnext =>
      have hbegins : Begins s t := nextItem_true_eq_ok_true_iff.mp hnext
      split at h
      · contradiction
      next set u hread =>
        obtain ⟨code, htext, rfl⟩ := snippetField_read_eq_ok_iff.mp hread
        obtain ⟨rfl, rfl⟩ := Prod.mk.inj (Except.ok.inj h)
        exact ⟨code, (stringForm_iff_of_begins hbegins).mp htext, rfl⟩
  · rintro ⟨code, htext, rfl⟩
    obtain ⟨u, hquote, -⟩ := id htext
    have hbegins : Begins s (0x22 :: u) := ⟨_, u, hquote.skipBlank_eq rfl, by decide, rfl⟩
    rw [show (0 == 0) = true from rfl, nextItem_true_eq_ok_true_iff.mpr hbegins]
    simp only [snippetField_read_eq_ok_iff.mpr
      ⟨code, (stringForm_iff_of_begins hbegins).mpr htext, rfl⟩]
    rfl

/-! ## Faults -/

/-- A cause that quotes nothing of the body but a truth value or a number. -/
inductive Reticent : Cause → Prop where
  | kind {found : Found} {expected : String} (hfound : ∀ t, found ≠ .text t)
      (hexpected : expected = "a string" ∨ expected = shape.name) :
      Reticent (.wrongKind found expected)
  | empty : Reticent (.wrongLength 0 shape.describeLength)
  | twice : Reticent (.duplicateField "code")

/-- What may be at fault: the body, or the snippet, as a member or as an element. -/
def places : List (List Json.Step) := [[], [.key "code"], [.index 0]]

theorem nil_mem_places : [] ∈ places := List.mem_cons_self

/-- Why a body that is JSON is no submission. -/
inductive Refused (body : Bytes) : Fault → Prop where
  | lacksCode {names : List String} {rest : Bytes} (hnames : "code" ∉ names)
      (h : ObjectForm names body rest) : Refused body (.here (.missingField "code") rest)
  | text {t : String} {rest : Bytes} (h : StringForm t body rest) :
      Refused body (.here (.wrongKind (.text t) shape.name) rest)
  | other {f : Fault} (hcause : Reticent f.cause) (hpath : f.path ∈ places) : Refused body f

/-- What is wrong with the snippet itself. -/
theorem exists_of_snippetField_read {s : Bytes} {f : Fault} (h : snippetField.read s = .error f)
    (hcontent : f.cause.isContent = true) : Reticent f.cause ∧ f.path = [] := by
  obtain ⟨found, rest, rfl, hfound⟩ := exists_of_readText (map_eq_error_iff.mp h) hcontent
  exact ⟨.kind hfound (.inl rfl), rfl⟩

/-- What is wrong with a member. -/
theorem reticent_of_member {key : String} {state : Option String} {s : Bytes} {f : Fault}
    (h : shape.member key state s = .error f) (hcontent : f.cause.isContent = true) :
    Reticent f.cause ∧ f.path ∈ places := by
  by_cases hkey : key = "code"
  · subst hkey
    cases state with
    | some code =>
        obtain ⟨rest, hfault⟩ := exists_member_code_some code s
        obtain rfl := Except.error.inj (hfault.symm.trans h)
        exact ⟨.twice, nil_mem_places⟩
    | none =>
        rw [member_code_none, map_eq_error_iff, readMemberValue.eq_def] at h
        split at h
        · next hcolon =>
          obtain rfl := Except.error.inj h
          exact ((formal_readColon s).elim hcolon hcontent).elim
        · split at h
          · next hread =>
            obtain rfl := Except.error.inj h
            obtain ⟨hcause, hpath⟩ := exists_of_snippetField_read hread hcontent
            exact ⟨hcause, by simp [Fault.under, hpath, places]⟩
          · contradiction
  · rw [member_of_ne hkey, map_eq_error_iff] at h
    exact ((formal_readMemberValue formal_skipValue key s).elim h hcontent).elim

/-- What is wrong with a list. -/
theorem reticent_of_elements {s : Bytes} {f : Fault}
    (h : Record.elements shape.describeLength shape.fields 0 shape.blank s = .error f)
    (hcontent : f.cause.isContent = true) : Reticent f.cause ∧ f.path ∈ places := by
  rw [fields_eq, Record.elements] at h
  split at h
  · next hitem =>
    obtain rfl := Except.error.inj h
    exact ((formal_nextItem ..).elim hitem hcontent).elim
  · obtain rfl := Except.error.inj h
    exact ⟨.empty, nil_mem_places⟩
  · split at h
    · next hread =>
      obtain rfl := Except.error.inj h
      obtain ⟨hcause, hpath⟩ := exists_of_snippetField_read hread hcontent
      exact ⟨hcause, by simp [Fault.under, hpath, places]⟩
    · contradiction

/-- **A body that is JSON, but no submission, is refused for one of these reasons.** -/
theorem refused_of_readWhole {body : Bytes} {f : Fault} (h : readWhole shape.read body = .error f)
    (hcontent : f.cause.isContent = true) : Refused body f := by
  have hread : shape.read body = .error f := by
    rw [readWhole] at h
    split at h
    · next hread => rw [hread, Except.error.inj h]
    · split at h
      · contradiction
      · obtain rfl := Except.error.inj h
        contradiction
  rw [Record.read.eq_def] at hread
  -- By the first byte: there is none, or it opens an object, a list, or a value of another kind.
  split at hread
  · obtain rfl := Except.error.inj hread
    contradiction
  · next s hs =>
    split at hread
    · next hmembers =>
      obtain rfl := Except.error.inj hread
      obtain ⟨key, state, t, hmember⟩ := exists_member_of_readMembers hmembers hcontent
      obtain ⟨hcause, hpath⟩ := reticent_of_member hmember hcontent
      exact .other hcause hpath
    · next state rest hmembers =>
      cases state with
      | some code => contradiction
      | none =>
          obtain rfl := Except.error.inj hread
          obtain ⟨names, hnames, hform⟩ := readMembers_eq_ok_none_iff.mp hmembers
          exact .lacksCode hnames ⟨s, spaced_of_skipBlank hs, hform⟩
  · next s hs =>
    split at hread
    · next helements =>
      obtain rfl := Except.error.inj hread
      obtain ⟨hcause, hpath⟩ := reticent_of_elements helements hcontent
      exact .other hcause hpath
    · next state rest helements =>
      split at hread
      · next hclose =>
        obtain rfl := Except.error.inj hread
        exact ((formal_closeList rest).elim hclose hcontent).elim
      · obtain ⟨code, -, rfl⟩ := elements_eq_ok_iff.mp helements
        contradiction
  · obtain ⟨found, rest, rfl, hfound | ⟨t, u, rfl, hs, htext⟩⟩ :=
      exists_of_wrongKind (Except.error.inj hread) hcontent
    · exact .other (.kind hfound (.inr rfl)) nil_mem_places
    · exact .text ⟨u, spaced_of_skipBlank hs, readTextTail_eq_ok_iff.mp htext⟩

/-- An object without a snippet is always refused for that. -/
theorem readWhole_of_objectForm {body rest : Bytes} {names : List String} (hnames : "code" ∉ names)
    (h : ObjectForm names body rest) :
    readWhole shape.read body = .error (.here (.missingField "code") rest) := by
  obtain ⟨s, hopen, hmembers⟩ := h
  have hnone : readMembers shape.member shape.blank s = .ok (none, rest) :=
    readMembers_eq_ok_none_iff.mpr ⟨names, hnames, hmembers⟩
  rw [readWhole, Record.read, hopen.skipBlank_eq rfl]
  simp only [hnone]
  rfl

/-- A text is always refused for its kind. -/
theorem readWhole_of_stringForm {body rest : Bytes} {t : String} (h : StringForm t body rest) :
    readWhole shape.read body = .error (.here (.wrongKind (.text t) shape.name) rest) := by
  obtain ⟨s, hquote, htext⟩ := h
  have hkind : wrongKind shape.name (0x22 :: s) = .here (.wrongKind (.text t) shape.name) rest := by
    simp [wrongKind, isDigit, digit?, readTextTail_eq_ok_iff.mpr htext]
  have hread : shape.read body = .error (.here (.wrongKind (.text t) shape.name) rest) := by
    rw [Record.read, hquote.skipBlank_eq rfl]
    exact congrArg Except.error hkind
  rw [readWhole, hread]

end AnalysisGateway.Submission
