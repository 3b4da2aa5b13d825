import AnalysisGateway.Proofs.Answer.Report
import AnalysisGateway.Proofs.Json.Entries

/-!
# Reports as records

A report that is read as a record: one member after the other goes into a draft, and a field must
not come twice. The order of the fields does not matter, so what is left of a whole object is the
list of its fields up to order, and a draft is complete exactly if these are the fields of a report
(`readWhole_shape_eq_ok_iff`).
-/

namespace AnalysisGateway.Report

open Json
open scoped List

/-! ## Members -/

/-- The fields that hold a text. -/
inductive TextField where
  | time
  | space
  | explanation

namespace TextField

def name : TextField → String
  | .time => "time_complexity"
  | .space => "space_complexity"
  | .explanation => "explanation"

def get (d : Draft) : TextField → Option String
  | .time => d.timeComplexity
  | .space => d.spaceComplexity
  | .explanation => d.explanation

def set (t : String) (d : Draft) : TextField → Draft
  | .time => { d with timeComplexity := some t }
  | .space => { d with spaceComplexity := some t }
  | .explanation => { d with explanation := some t }

end TextField

/-- A member of an object that is read as a report: a field, or one that is passed over. -/
inductive Member where
  | text (f : TextField) (t : String)
  | improvements (items : List String)
  | other (name : String)

namespace Member

/-- The name of the member. -/
def name : Member → String
  | .text f _ => f.name
  | .improvements _ => "improvements"
  | .other name => name

/-- What stands behind the name: a text, a list of texts, or any value. -/
def Form : Member → Bytes → Bytes → Prop
  | .text _ t => StringForm t
  | .improvements items => ListForm StringForm items
  | .other _ => ValueForm

/-- Where the member leads: a field is kept if there is none yet. -/
inductive Step (d : Draft) : Member → Draft → Prop where
  | text {f : TextField} (t : String) (h : f.get d = none) : Step d (.text f t) (f.set t d)
  | improvements (items : List String) (h : d.improvements = none) :
      Step d (.improvements items) { d with improvements := some items }
  | other {name : String} (h : name ∉ requiredFields) : Step d (.other name) d

/-- The member of the object that a field is. -/
def field? : Member → Option (String × Value)
  | .text f t => some (f.name, .text t)
  | .improvements items => some ("improvements", .list (items.map .text))
  | .other _ => none

end Member

/-- What stands behind a name can be told from what follows. -/
theorem delimits_form : Delimits Member.Form where
  valueForm := by
    rintro (_ | _ | _) s rest h
    · exact readsItems_readText.valueForm h
    · exact ListForm.valueForm readsItems_readText.valueForm h
    · exact h
  skipBlank_iff := by
    rintro (_ | _ | _) s rest
    · exact readsItems_readText.skipBlank_iff
    · have hbracket : isBlankByte 0x5B = false := rfl
      simp only [Member.Form, ListForm, spaced_skipBlank_iff hbracket]
    · exact ⟨.of_spaced (spaced_skipBlank s), .skipBlank⟩
  detached := by
    rintro (_ | _ | _)
    · exact detached_stringForm _
    · exact detached_listForm detached_stringForm _
    · exact detached_valueForm

/-! ## Reading -/

theorem find?_textField (f : TextField) : shape.fields.find? (·.name == f.name) =
    some (field f.name readText f.get fun t d => f.set t d) := by
  cases f <;> rfl

theorem find?_improvements : shape.fields.find? (·.name == "improvements") =
    some (field "improvements" (readList readText) Draft.improvements
      fun items d => { d with improvements := some items }) := rfl

theorem find?_other {name : String} (h : name ∉ requiredFields) :
    shape.fields.find? (·.name == name) = none := by
  have hnames : shape.fields.map Field.name = requiredFields := rfl
  rw [List.find?_eq_none]
  intro f hf hname
  exact h (hnames ▸ List.mem_map.mpr ⟨f, hf, beq_iff_eq.mp hname⟩)

section

variable {d next : Draft} {s rest : Bytes}

theorem member_text_eq_ok_iff {f : TextField} :
    shape.member f.name d s = .ok (next, rest) ↔ f.get d = none ∧
      ∃ u t, Spaced s (0x3A :: u) ∧ StringForm t u rest ∧ f.set t d = next := by
  simp only [Record.member_field_eq_ok_iff (find?_textField f), readText_eq_ok_iff]

theorem member_improvements_eq_ok_iff :
    shape.member "improvements" d s = .ok (next, rest) ↔ d.improvements = none ∧
      ∃ u items, Spaced s (0x3A :: u) ∧ ListForm StringForm items u rest ∧
        { d with improvements := some items } = next := by
  simp only [Record.member_field_eq_ok_iff find?_improvements,
    readsItems_readText.readList_eq_ok_iff]

theorem member_other_eq_ok_iff {name : String} (h : name ∉ requiredFields) :
    shape.member name d s = .ok (next, rest) ↔
      (∃ u, Spaced s (0x3A :: u) ∧ skipValue u = .ok ((), rest)) ∧ d = next :=
  Record.member_other_eq_ok_iff (find?_other h)

end

/-- The reader of a report reads such members. -/
theorem readsMembers_shape : ReadsMembers Member.name Member.Form Member.Step shape.member where
  sound := by
    intro key d next s rest h
    have htext {f : TextField} (h : shape.member f.name d s = .ok (next, rest)) :
        ∃ (a : Member) (u : Bytes), a.name = f.name ∧ Spaced s (0x3A :: u) ∧ a.Form u rest ∧
          a.Step d next := by
      obtain ⟨hnone, u, t, hcolon, hform, rfl⟩ := member_text_eq_ok_iff.mp h
      exact ⟨.text f t, u, rfl, hcolon, hform, .text t hnone⟩
    by_cases hkey : key ∈ requiredFields
    · simp only [requiredFields, List.mem_cons, List.not_mem_nil, or_false] at hkey
      obtain rfl | rfl | rfl | rfl := hkey
      · exact htext (f := .time) h
      · exact htext (f := .space) h
      · obtain ⟨hnone, u, items, hcolon, hform, rfl⟩ := member_improvements_eq_ok_iff.mp h
        exact ⟨.improvements items, u, rfl, hcolon, hform, .improvements items hnone⟩
      · exact htext (f := .explanation) h
    · obtain ⟨⟨u, hcolon, hskip⟩, rfl⟩ := (member_other_eq_ok_iff hkey).mp h
      exact ⟨.other key, u, rfl, hcolon, valueForm_of_skipValue hskip, .other hkey⟩
  complete := by
    intro m d next s t rest hcolon hform hstep hrest
    have hlength : rest.length ≤ s.length := by
      have hs := hcolon.length_le
      have ht := (delimits_form.valueForm hform).length_le
      rw [List.length_cons] at hs
      omega
    refine ⟨?_, hlength⟩
    cases hstep with
    | text text hnone => exact member_text_eq_ok_iff.mpr ⟨hnone, t, text, hcolon, hform, rfl⟩
    | improvements items hnone =>
        exact member_improvements_eq_ok_iff.mpr ⟨hnone, t, items, hcolon, hform, rfl⟩
    | other hname =>
        exact (member_other_eq_ok_iff hname).mpr
          ⟨⟨t, hcolon, (skipValue_eq_ok_iff hrest).mpr hform⟩, rfl⟩

/-! ## Drafts -/

/-- The members of a report of which some fields have been read. -/
def Draft.members (d : Draft) : List (String × Value) :=
  (d.timeComplexity.map fun t => ("time_complexity", .text t)).toList ++
    (d.spaceComplexity.map fun t => ("space_complexity", .text t)).toList ++
    (d.improvements.map fun items => ("improvements", .list (items.map .text))).toList ++
    (d.explanation.map fun t => ("explanation", .text t)).toList

/-- The draft to which nothing is left to add. -/
def drafted (r : Report) : Draft where
  timeComplexity := some r.timeComplexity
  spaceComplexity := some r.spaceComplexity
  improvements := some r.improvements
  explanation := some r.explanation

theorem eq_drafted {d : Draft} {r : Report} (htime : d.timeComplexity = some r.timeComplexity)
    (hspace : d.spaceComplexity = some r.spaceComplexity)
    (himprovements : d.improvements = some r.improvements)
    (hexplanation : d.explanation = some r.explanation) : d = r.drafted := by
  obtain ⟨_, _, _, _⟩ := d
  cases htime
  cases hspace
  cases himprovements
  cases hexplanation
  rfl

theorem required_eq_ok_iff {β : Type} {name : String} {b? : Option β} {b : β} :
    required name b? = .ok b ↔ b? = some b := by
  cases b? <;> simp [required]

/-- A draft is finished exactly if it is that of the report. -/
theorem finish_eq_ok_iff {d : Draft} {r : Report} : shape.finish d = .ok r ↔ d = r.drafted := by
  simp only [shape, bind_eq_ok_iff, required_eq_ok_iff]
  constructor
  · rintro ⟨time, htime, space, hspace, improvements, himprovements, explanation, hexplanation, h⟩
    obtain rfl := Except.ok.inj h
    exact eq_drafted htime hspace himprovements hexplanation
  · rintro rfl
    exact ⟨_, rfl, _, rfl, _, rfl, _, rfl, rfl⟩

/-- A draft that has the members of a report is finished. -/
theorem eq_drafted_of_perm {d : Draft} {r : Report} (h : d.members.Perm r.members) :
    d = r.drafted := by
  have hmem {m : String × Value} (hm : m ∈ r.members) : m ∈ d.members := h.mem_iff.mpr hm
  have htime : d.timeComplexity = some r.timeComplexity := by
    simpa [Draft.members] using hmem (.head _)
  have hspace : d.spaceComplexity = some r.spaceComplexity := by
    simpa [Draft.members] using hmem (.tail _ (.head _))
  have himprovements : d.improvements = some r.improvements := by
    have hlist := hmem (.tail _ (.tail _ (.head _)))
    simp only [Draft.members, List.mem_append, Option.mem_toList, Option.map_eq_some_iff,
      Prod.mk.injEq, Value.list.injEq] at hlist
    have hinjective : Function.Injective (List.map Value.text) :=
      List.map_injective_iff.mpr fun _ _ => Value.text.inj
    simpa [hinjective.eq_iff] using hlist
  have hexplanation : d.explanation = some r.explanation := by
    simpa [Draft.members] using hmem (.tail _ (.tail _ (.tail _ (.head _))))
  exact eq_drafted htime hspace himprovements hexplanation

theorem filterMap_cons_toList {α β : Type} (f : α → Option β) (a : α) (items : List α) :
    (a :: items).filterMap f = (f a).toList ++ items.filterMap f := by
  rw [List.filterMap_cons]
  cases f a <;> rfl

/-- A step adds a field at most. -/
theorem Member.Step.perm {d next : Draft} {m : Member} (h : m.Step d next) :
    next.members.Perm (m.field?.toList ++ d.members) := by
  obtain ⟨time, space, improvements, explanation⟩ := d
  -- The new field stands behind those that come before it in the order of the report.
  cases h with
  | @text f t hnone =>
      cases f with
      | time =>
          obtain rfl : time = none := hnone
          exact .refl _
      | space =>
          obtain rfl : space = none := hnone
          simp only [Draft.members, TextField.set, field?, TextField.name, Option.map_some,
            Option.map_none, Option.toList_some, Option.toList_none, List.append_assoc,
            List.nil_append, List.singleton_append]
          exact List.perm_middle
      | explanation =>
          obtain rfl : explanation = none := hnone
          simp only [Draft.members, TextField.set, field?, TextField.name, Option.map_some,
            Option.map_none, Option.toList_some, Option.toList_none, List.append_nil]
          exact List.perm_append_comm
  | improvements items hnone =>
      obtain rfl : improvements = none := hnone
      simp only [Draft.members, field?, Option.map_some, Option.map_none, Option.toList_some,
        Option.toList_none, List.append_assoc, List.nil_append, List.singleton_append]
      rw [← List.append_assoc, ← List.append_assoc]
      exact List.perm_middle
  | other hname => exact .refl _

/-- Members that are read one after the other leave their fields in the draft. -/
theorem members_perm_of_leads {d final : Draft} {ms : List Member}
    (h : Leads Member.Step d ms final) :
    final.members.Perm (ms.filterMap Member.field? ++ d.members) := by
  induction h with
  | nil d => exact .refl _
  | @cons d next final m ms hm _ ih =>
      rw [filterMap_cons_toList, List.append_assoc]
      calc final.members
        _ ~ ms.filterMap Member.field? ++ next.members := ih
        _ ~ ms.filterMap Member.field? ++ (m.field?.toList ++ d.members) := hm.perm.append_left _
        _ ~ m.field?.toList ++ (ms.filterMap Member.field? ++ d.members) :=
            List.perm_append_comm_assoc ..

theorem others_of_leads {d final : Draft} {ms : List Member} (h : Leads Member.Step d ms final)
    {name : String} (hname : .other name ∈ ms) : name ∉ requiredFields := by
  induction h with
  | nil => contradiction
  | cons hm _ ih =>
      obtain _ | ⟨_, hname⟩ := hname
      · cases hm with
        | other h => exact h
      · exact ih hname

theorem mem_members_of_get {d : Draft} {f : TextField} {t : String} (h : f.get d = some t) :
    (f.name, .text t) ∈ d.members := by
  cases f <;> simp_all [TextField.get, TextField.name, Draft.members]

/-- A field can be added to a draft which does not have it. -/
theorem Member.exists_step {d : Draft} {m : Member}
    (hother : ∀ name, m = .other name → name ∉ requiredFields)
    (hnodup : ((m.field?.toList ++ d.members).map Prod.fst).Nodup) : ∃ next, m.Step d next := by
  cases m with
  | text f t =>
      refine ⟨_, .text t (Option.eq_none_iff_forall_ne_some.mpr fun t' h => ?_)⟩
      exact (List.nodup_cons.mp hnodup).1 (List.mem_map_of_mem (f := Prod.fst)
        (a := (f.name, .text t')) (mem_members_of_get h))
  | improvements items =>
      refine ⟨_, .improvements items (Option.eq_none_iff_forall_ne_some.mpr fun items' h => ?_)⟩
      refine (List.nodup_cons.mp hnodup).1 (List.mem_map_of_mem (f := Prod.fst)
        (a := ("improvements", .list (items'.map .text))) ?_)
      simp [Draft.members, h]
  | other name => exact ⟨d, .other (hother name rfl)⟩

/-- Members that have the fields of a report, and no more, lead to it. -/
theorem leads_of_perm {d : Draft} {ms : List Member} {r : Report}
    (hothers : ∀ name, .other name ∈ ms → name ∉ requiredFields)
    (h : (ms.filterMap Member.field? ++ d.members).Perm r.members) :
    Leads Member.Step d ms r.drafted := by
  induction ms generalizing d with
  | nil =>
      rw [← eq_drafted_of_perm h]
      exact .nil d
  | cons m ms ih =>
      rw [filterMap_cons_toList, List.append_assoc] at h
      have hswap := (List.perm_append_comm_assoc ..).trans h
      have hnodup : ((m.field?.toList ++ d.members).map Prod.fst).Nodup := by
        have hall : (r.members.map Prod.fst).Nodup := by rw [map_fst_members]; decide
        have hswapped := (hswap.map Prod.fst).nodup_iff.mpr hall
        rw [List.map_append] at hswapped
        exact hswapped.of_append_right
      obtain ⟨next, hm⟩ := m.exists_step (fun name hname => hothers name (hname ▸ .head _)) hnodup
      exact .cons hm (ih (fun name hname => hothers name (.tail _ hname))
        ((hm.perm.append_left _).trans hswap))

/-- **An object is read as a report exactly if its fields are those of the report, in any order.**
Of the other members only the form matters. -/
theorem readWhole_shape_eq_ok_iff {entries : List Entry} {text : String}
    (htext : IsObject entries text.toList) {r : Report} :
    readWhole shape.read (Text.toBytes text) = .ok r ↔
      ∃ ms, List.Forall₂ (Entry.Is Member.name Member.Form) entries ms ∧
        (∀ name, .other name ∈ ms → name ∉ requiredFields) ∧
        (ms.filterMap Member.field?).Perm r.members := by
  have hblank : shape.blank.members = [] := rfl
  rw [Text.toBytes, htext.readWhole_eq_ok_iff readsMembers_shape delimits_form]
  simp only [finish_eq_ok_iff]
  constructor
  · rintro ⟨ms, _, hms, hleads, rfl⟩
    have hperm := members_perm_of_leads hleads
    rw [hblank, List.append_nil] at hperm
    exact ⟨ms, hms, fun _ => others_of_leads hleads, hperm.symm⟩
  · rintro ⟨ms, hms, hothers, hperm⟩
    refine ⟨ms, _, hms, leads_of_perm hothers ?_, rfl⟩
    rwa [hblank, List.append_nil]

end AnalysisGateway.Report
