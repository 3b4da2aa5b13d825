import AnalysisGateway.Proofs.Answer.Report
import AnalysisGateway.Proofs.Json.Stands

/-!
# The verdict on an answer

Which answers are reports, and why the others are none. An answer is judged by what stands between
its outermost braces, and there by the last binding of each required field; everything else may be
as it likes. The flaws exclude each other, and together with the reports they leave no answer out.
-/

namespace AnalysisGateway

open Json

/-! ## The span -/

/-- The part of a text from its first opening to its last closing brace. -/
def IsBraceSpan (span text : List Char) : Prop :=
  ∃ before inner after, text = before ++ span ++ after ∧ span = '\x7b' :: inner ++ ['\x7d'] ∧
    '\x7b' ∉ before ∧ '\x7d' ∉ after

/-- A text is split before the first character that does not satisfy a predicate. -/
theorem exists_eq_append_dropWhile {p : Char → Bool} (text : List Char) :
    ∃ before, (∀ c ∈ before, p c = true) ∧ text = before ++ text.dropWhile p ∧
      ∀ c rest, text.dropWhile p = c :: rest → p c = false := by
  refine ⟨text.takeWhile p, fun c => List.mem_takeWhile_imp, List.takeWhile_append_dropWhile.symm,
    fun c rest h => ?_⟩
  have hnot := List.head?_dropWhile_not p text
  rwa [h] at hnot

theorem isBraceSpan_of_braceSpan? {span text : List Char} (h : braceSpan? text = some span) :
    IsBraceSpan span text := by
  rw [braceSpan?] at h
  obtain ⟨before, hbefore, htext, hopen⟩ := exists_eq_append_dropWhile (p := (· != '\x7b')) text
  generalize text.dropWhile (· != '\x7b') = fromFirst at h htext hopen
  obtain ⟨after, hafter, hrev, hclose⟩ :=
    exists_eq_append_dropWhile (p := (· != '\x7d')) fromFirst.reverse
  generalize fromFirst.reverse.dropWhile (· != '\x7d') = spanned at h hrev hclose
  split at h
  · contradiction
  next hne =>
    obtain rfl := Option.some.inj h
    -- The last character of the span is a closing brace, and its first one opens the object.
    obtain ⟨c, inner, rfl⟩ := List.exists_cons_of_ne_nil
      (fun hnil => hne (by rw [hnil]; rfl) : spanned ≠ [])
    obtain rfl : c = '\x7d' := by simpa using hclose c inner rfl
    have hfrom : fromFirst = inner.reverse ++ '\x7d' :: after.reverse := by
      rw [← List.reverse_reverse fromFirst, hrev]
      simp
    cases hinner : inner.reverse with
    | nil => exact absurd (hopen '\x7d' after.reverse (by rw [hfrom, hinner]; rfl)) (by decide)
    | cons b inner' =>
        obtain rfl : b = '\x7b' := by
          simpa using hopen b (inner' ++ '\x7d' :: after.reverse) (by rw [hfrom, hinner]; rfl)
        refine ⟨before, inner', after.reverse, ?_, by rw [List.reverse_cons, hinner], ?_, ?_⟩
        · rw [htext, hfrom]
          simp
        · exact fun hmem => absurd (hbefore _ hmem) (by decide)
        · exact fun hmem => absurd (hafter _ (List.mem_reverse.mp hmem)) (by decide)

/-- **The span is found exactly where it is.** -/
theorem braceSpan?_eq_some_iff {span text : List Char} :
    braceSpan? text = some span ↔ IsBraceSpan span text := by
  refine ⟨isBraceSpan_of_braceSpan?, ?_⟩
  rintro ⟨before, inner, after, rfl, rfl, hbefore, hafter⟩
  exact braceSpan?_append hbefore hafter

/-! ## Members -/

/-- The value that the last member of a name has. -/
def LastBound (members : List (String × Value)) (name : String) (v : Value) : Prop :=
  ∃ before after, members = before ++ (name, v) :: after ∧ name ∉ after.map Prod.fst

/-- The look-up finds the last member of a name. -/
theorem lookup?_eq_some_iff {members : List (String × Value)} {name : String} {v : Value} :
    lookup? members name = some v ↔ LastBound members name v := by
  rw [lookup?, Option.map_eq_some_iff]
  simp only [List.find?_eq_some_iff_append, List.reverse_eq_append_iff, beq_iff_eq]
  constructor
  · rintro ⟨⟨_, _⟩, ⟨rfl, after, before, hmembers, hafter⟩, rfl⟩
    refine ⟨before.reverse, after.reverse, by simpa using hmembers, fun hmem => ?_⟩
    obtain ⟨m, hm, hname⟩ := List.mem_map.mp hmem
    simpa [hname] using hafter m (List.mem_reverse.mp hm)
  · rintro ⟨before, after, rfl, hafter⟩
    refine ⟨(name, v), ⟨rfl, after.reverse, before.reverse, by simp, fun m hm => ?_⟩, rfl⟩
    have hname : m.1 ≠ name := fun hname =>
      hafter (hname ▸ List.mem_map_of_mem (List.mem_reverse.mp hm))
    simp [hname]

theorem lookup?_eq_none_iff {members : List (String × Value)} {name : String} :
    lookup? members name = none ↔ name ∉ members.map Prod.fst := by
  rw [lookup?, Option.map_eq_none_iff, List.find?_eq_none]
  simp only [List.mem_reverse, beq_iff_eq, List.mem_map, not_exists, not_and]

namespace Report

/-- The required fields that no member has as its name. -/
def absentFields (members : List (String × Value)) : List String :=
  requiredFields.filter fun name => name ∉ members.map Prod.fst

/-- The last binding of each field is of its kind, and they make up the report. -/
@[mk_iff]
structure Binds (members : List (String × Value)) (r : Report) : Prop where
  time : LastBound members "time_complexity" (.text r.timeComplexity)
  space : LastBound members "space_complexity" (.text r.spaceComplexity)
  improvements : LastBound members "improvements" (.list (r.improvements.map .text))
  explanation : LastBound members "explanation" (.text r.explanation)

/-! ## Kinds -/

theorem asText_eq_ok_iff {v : Value} {s : String} : asText v = .ok s ↔ v = .text s := by
  cases v <;> simp [asText]

theorem asTexts_eq_ok_iff {v : Value} {items : List String} :
    asTexts v = .ok items ↔ v = .list (items.map .text) := by
  refine ⟨fun h => ?_, fun h => h ▸ asTexts_map items⟩
  rw [asTexts.eq_def] at h
  split at h
  · next vs =>
    congr 1
    induction vs generalizing items with
    | nil =>
        obtain rfl := Except.ok.inj h
        rfl
    | cons w vs ih =>
        rw [List.mapM_cons, bind_eq_ok_iff] at h
        obtain ⟨t, hw, h⟩ := h
        obtain ⟨ts, hvs, h⟩ := bind_eq_ok_iff.mp h
        obtain rfl := Except.ok.inj h
        rw [List.map_cons, ← ih hvs, asText_eq_ok_iff.mp hw]
  · contradiction

/-- A flaw that says only that a value is of another kind. -/
def OfKind (flaw : ReportFlaw) : Prop := ∃ found expected, flaw = .wrongKind found expected

theorem ofKind_of_asText {v : Value} {flaw : ReportFlaw} (h : asText v = .error flaw) :
    OfKind flaw := by
  rw [asText.eq_def] at h
  split at h
  · contradiction
  · exact ⟨_, _, (Except.error.inj h).symm⟩

theorem ofKind_of_asTexts {v : Value} {flaw : ReportFlaw} (h : asTexts v = .error flaw) :
    OfKind flaw := by
  rw [asTexts.eq_def] at h
  split at h
  · next vs =>
    induction vs with
    | nil => contradiction
    | cons w vs ih =>
        rw [List.mapM_cons, bind_eq_error_iff] at h
        obtain hw | ⟨t, -, h⟩ := h
        · exact ofKind_of_asText hw
        · obtain hvs | ⟨ts, -, h⟩ := bind_eq_error_iff.mp h
          · exact ih hvs
          · contradiction
  · exact ⟨_, _, (Except.error.inj h).symm⟩

/-- Where each field has a value, the report is made up of these, or one is of another kind. -/
theorem ofMembers_of_some {members : List (String × Value)}
    {time space improvements explanation : Value}
    (htime : lookup? members "time_complexity" = some time)
    (hspace : lookup? members "space_complexity" = some space)
    (himprovements : lookup? members "improvements" = some improvements)
    (hexplanation : lookup? members "explanation" = some explanation) :
    (∀ r, ofMembers members = .ok r ↔ Binds members r) ∧
      ∀ flaw, ofMembers members = .error flaw → OfKind flaw := by
  have hbinds (r : Report) : Binds members r ↔ time = .text r.timeComplexity ∧
      space = .text r.spaceComplexity ∧ improvements = .list (r.improvements.map .text) ∧
      explanation = .text r.explanation := by
    rw [binds_iff]
    simp only [← lookup?_eq_some_iff, htime, hspace, himprovements, hexplanation, Option.some.injEq]
  rw [ofMembers, htime, hspace, himprovements, hexplanation]
  refine ⟨fun r => ?_, fun flaw h => ?_⟩
  · simp only [hbinds, bind_eq_ok_iff, asText_eq_ok_iff, asTexts_eq_ok_iff]
    constructor
    · rintro ⟨_, rfl, _, rfl, _, rfl, _, rfl, h⟩
      obtain rfl := Except.ok.inj h
      exact ⟨rfl, rfl, rfl, rfl⟩
    · rintro ⟨rfl, rfl, rfl, rfl⟩
      exact ⟨_, rfl, _, rfl, _, rfl, _, rfl, rfl⟩
  · simp only [bind_eq_error_iff] at h
    obtain h | ⟨_, -, h | ⟨_, -, h | ⟨_, -, h | ⟨_, -, h⟩⟩⟩⟩ := h
    · exact ofKind_of_asText h
    · exact ofKind_of_asTexts h
    · exact ofKind_of_asText h
    · exact ofKind_of_asText h
    · contradiction

/-! ## The object -/

theorem mem_absentFields_iff {members : List (String × Value)} {name : String} :
    name ∈ absentFields members ↔ name ∈ requiredFields ∧ lookup? members name = none := by
  rw [absentFields, List.mem_filter, decide_eq_true_iff, lookup?_eq_none_iff]

/-- The flaw of an object without a field names the fields that it lacks. -/
theorem ofMembers_of_absent {members : List (String × Value)} (h : absentFields members ≠ []) :
    ofMembers members = .error (.missingFields (absentFields members)) := by
  have habsent : (requiredFields.filter fun name => (lookup? members name).isNone) =
      absentFields members := by
    refine List.filter_congr fun name _ => ?_
    rw [Bool.eq_iff_iff, Option.isNone_iff_eq_none, lookup?_eq_none_iff, decide_eq_true_iff]
  obtain ⟨name, hname⟩ := List.exists_mem_of_ne_nil _ h
  obtain ⟨hrequired, hnone⟩ := mem_absentFields_iff.mp hname
  rw [ofMembers.eq_def, habsent]
  split
  · next htime hspace himprovements hexplanation =>
    simp only [requiredFields, List.mem_cons, List.not_mem_nil, or_false] at hrequired
    obtain rfl | rfl | rfl | rfl := hrequired
    · rw [htime] at hnone; contradiction
    · rw [hspace] at hnone; contradiction
    · rw [himprovements] at hnone; contradiction
    · rw [hexplanation] at hnone; contradiction
  · rfl

/-- An object that has the fields is a report, or one of their values is of another kind. -/
theorem ofMembers_of_absent_eq_nil {members : List (String × Value)}
    (h : absentFields members = []) :
    (∀ r, ofMembers members = .ok r ↔ Binds members r) ∧
      ∀ flaw, ofMembers members = .error flaw → OfKind flaw := by
  have hsome (name : String) (hname : name ∈ requiredFields) :
      ∃ v, lookup? members name = some v := by
    refine Option.ne_none_iff_exists'.mp fun hnone => ?_
    have hmem : name ∈ absentFields members := mem_absentFields_iff.mpr ⟨hname, hnone⟩
    rw [h] at hmem
    contradiction
  obtain ⟨time, htime⟩ := hsome "time_complexity" (by decide)
  obtain ⟨space, hspace⟩ := hsome "space_complexity" (by decide)
  obtain ⟨improvements, himprovements⟩ := hsome "improvements" (by decide)
  obtain ⟨explanation, hexplanation⟩ := hsome "explanation" (by decide)
  exact ofMembers_of_some htime hspace himprovements hexplanation

/-- A report's object has all of the fields. -/
theorem Binds.absentFields_eq_nil {members : List (String × Value)} {r : Report}
    (h : Binds members r) : absentFields members = [] := by
  refine List.eq_nil_iff_forall_not_mem.mpr fun name hname => ?_
  obtain ⟨hrequired, hnone⟩ := mem_absentFields_iff.mp hname
  have hbound {v : Value} (hv : LastBound members name v) : False := by
    rw [lookup?_eq_some_iff.mpr hv] at hnone
    contradiction
  simp only [requiredFields, List.mem_cons, List.not_mem_nil, or_false] at hrequired
  obtain rfl | rfl | rfl | rfl := hrequired
  · exact hbound h.time
  · exact hbound h.space
  · exact hbound h.improvements
  · exact hbound h.explanation

/-- An object is a report, or one of the flaws, in their order. -/
theorem cases_ofMembers (members : List (String × Value)) :
    (∃ r, ofMembers members = .ok r ∧ Binds members r) ∨
      (ofMembers members = .error (.missingFields (absentFields members)) ∧
        absentFields members ≠ []) ∨
      ∃ flaw, ofMembers members = .error flaw ∧ OfKind flaw ∧ absentFields members = [] ∧
        ∀ r, ¬ Binds members r := by
  by_cases habsent : absentFields members = []
  · obtain ⟨hok, herror⟩ := ofMembers_of_absent_eq_nil habsent
    cases h : ofMembers members with
    | ok r => exact .inl ⟨r, rfl, (hok r).mp h⟩
    | error flaw =>
        refine .inr (.inr ⟨flaw, rfl, herror flaw h, habsent, fun r hr => ?_⟩)
        rw [(hok r).mpr hr] at h
        contradiction
  · exact .inr (.inl ⟨ofMembers_of_absent habsent, habsent⟩)

/-! ## The answer -/

theorem readObject_eq_ok_iff {members : List (String × Value)} {s rest : Bytes} :
    readObject s = .ok (members, rest) ↔
      readValue greatestDepth s = .ok (.object members, rest) := by
  rw [readObject]
  cases readValue greatestDepth s with
  | error f => simp
  | ok r =>
      obtain ⟨v, left⟩ := r
      cases v <;> simp

/-- An object is read exactly where it stands. -/
theorem readsItems_readObject :
    ReadsItems (fun members => Stands greatestDepth (.object members)) readObject where
  sound h := (readsItems_readValue _).sound (readObject_eq_ok_iff.mp h)
  complete h hrest := readObject_eq_ok_iff.mpr ((readsItems_readValue _).complete h hrest)
  valueForm h := (readsItems_readValue _).valueForm h
  skipBlank_iff := (readsItems_readValue _).skipBlank_iff

/-- One object with these members, and white space around it. -/
def IsObjectText (members : List (String × Value)) (bytes : Bytes) : Prop :=
  ∃ rest, Stands greatestDepth (.object members) bytes rest ∧ BlankBytes rest

/-- What stands between the outermost braces of an answer is an object with these members. -/
def HoldsObject (text : String) (members : List (String × Value)) : Prop :=
  ∃ span, IsBraceSpan span text.toList ∧ IsObjectText members (Text.encode span)

theorem readWhole_readObject_eq_ok_iff {members : List (String × Value)} {bytes : Bytes} :
    readWhole readObject bytes = .ok members ↔ IsObjectText members bytes :=
  readsItems_readObject.readWhole_eq_ok_iff

theorem ofAnswer_of_holdsObject {text : String} {members : List (String × Value)}
    (h : HoldsObject text members) : ofAnswer text = ofMembers members := by
  obtain ⟨span, hspan, hobject⟩ := h
  rw [ofAnswer, braceSpan?_eq_some_iff.mpr hspan]
  simp only [readWhole_readObject_eq_ok_iff.mpr hobject]

theorem ofAnswer_of_not_isBraceSpan {text : String}
    (h : ¬ ∃ span, IsBraceSpan span text.toList) : ofAnswer text = .error .noObject := by
  have hnone : braceSpan? text.toList = none := by
    refine Option.eq_none_iff_forall_ne_some.mpr fun span hspan => ?_
    exact h ⟨span, braceSpan?_eq_some_iff.mp hspan⟩
  rw [ofAnswer, hnone]

theorem exists_ofAnswer_eq_notJson {text : String} {span : List Char}
    (hspan : IsBraceSpan span text.toList) (h : ¬ ∃ members, HoldsObject text members) :
    ∃ fault, ofAnswer text = .error (.notJson (Text.encode span) fault) := by
  rw [ofAnswer, braceSpan?_eq_some_iff.mpr hspan]
  cases hread : readWhole readObject (Text.encode span) with
  | error fault => exact ⟨fault, by simp only [hread]⟩
  | ok members => exact absurd ⟨members, span, hspan, readWhole_readObject_eq_ok_iff.mp hread⟩ h

/-- What an answer may be judged to be, and when. -/
inductive Judged (text : String) : Except ReportFlaw Report → Prop where
  | noObject (h : ¬ ∃ span, IsBraceSpan span text.toList) : Judged text (.error .noObject)
  | notJson {span : List Char} {fault : Fault} (hspan : IsBraceSpan span text.toList)
      (h : ¬ ∃ members, HoldsObject text members) :
      Judged text (.error (.notJson (Text.encode span) fault))
  | missing {members : List (String × Value)} (hobject : HoldsObject text members)
      (h : absentFields members ≠ []) :
      Judged text (.error (.missingFields (absentFields members)))
  | kind {members : List (String × Value)} {found : Found} {expected : String}
      (hobject : HoldsObject text members) (hpresent : absentFields members = [])
      (h : ∀ r, ¬ Binds members r) : Judged text (.error (.wrongKind found expected))
  | report {members : List (String × Value)} {r : Report} (hobject : HoldsObject text members)
      (h : Binds members r) : Judged text (.ok r)

/-- The flaws come in their order, and a report is what is left. -/
theorem judged_ofAnswer (text : String) : Judged text (ofAnswer text) := by
  by_cases hobject : ∃ members, HoldsObject text members
  · obtain ⟨members, hobject⟩ := hobject
    rw [ofAnswer_of_holdsObject hobject]
    obtain ⟨r, hr, h⟩ | ⟨hr, h⟩ | ⟨_, hr, ⟨found, expected, rfl⟩, hpresent, h⟩ :=
      cases_ofMembers members
    · exact hr ▸ .report hobject h
    · exact hr ▸ .missing hobject h
    · exact hr ▸ .kind hobject hpresent h
  · by_cases hspan : ∃ span, IsBraceSpan span text.toList
    · obtain ⟨span, hspan⟩ := hspan
      obtain ⟨fault, hfault⟩ := exists_ofAnswer_eq_notJson hspan hobject
      exact hfault ▸ .notJson hspan hobject
    · exact ofAnswer_of_not_isBraceSpan hspan ▸ .noObject hspan

section

variable {text : String}

theorem ofAnswer_eq_ok_iff {r : Report} :
    ofAnswer text = .ok r ↔ ∃ members, HoldsObject text members ∧ Binds members r := by
  have hjudged := judged_ofAnswer text
  constructor
  · intro h
    rw [h] at hjudged
    cases hjudged with
    | report hobject hbinds => exact ⟨_, hobject, hbinds⟩
  · rintro ⟨members, hobject, hbinds⟩
    rw [ofAnswer_of_holdsObject hobject]
    exact ((ofMembers_of_absent_eq_nil hbinds.absentFields_eq_nil).1 r).mpr hbinds

theorem ofAnswer_eq_noObject_iff :
    ofAnswer text = .error .noObject ↔ ¬ ∃ span, IsBraceSpan span text.toList := by
  have hjudged := judged_ofAnswer text
  refine ⟨fun h => ?_, ofAnswer_of_not_isBraceSpan⟩
  rw [h] at hjudged
  cases hjudged with
  | noObject hspan => exact hspan

theorem exists_ofAnswer_eq_notJson_iff :
    (∃ span fault, ofAnswer text = .error (.notJson span fault)) ↔
      (∃ span, IsBraceSpan span text.toList) ∧ ¬ ∃ members, HoldsObject text members := by
  have hjudged := judged_ofAnswer text
  constructor
  · rintro ⟨bytes, fault, h⟩
    rw [h] at hjudged
    cases hjudged with
    | notJson hspan hobject => exact ⟨⟨_, hspan⟩, hobject⟩
  · rintro ⟨⟨span, hspan⟩, hobject⟩
    exact ⟨_, exists_ofAnswer_eq_notJson hspan hobject⟩

theorem ofAnswer_eq_missingFields_iff {names : List String} :
    ofAnswer text = .error (.missingFields names) ↔
      ∃ members, HoldsObject text members ∧ absentFields members ≠ [] ∧
        names = absentFields members := by
  have hjudged := judged_ofAnswer text
  constructor
  · intro h
    rw [h] at hjudged
    cases hjudged with
    | missing hobject habsent => exact ⟨_, hobject, habsent, rfl⟩
  · rintro ⟨members, hobject, habsent, rfl⟩
    rw [ofAnswer_of_holdsObject hobject, ofMembers_of_absent habsent]

theorem exists_ofAnswer_eq_wrongKind_iff :
    (∃ found expected, ofAnswer text = .error (.wrongKind found expected)) ↔
      ∃ members, HoldsObject text members ∧ absentFields members = [] ∧
        ∀ r, ¬ Binds members r := by
  have hjudged := judged_ofAnswer text
  constructor
  · rintro ⟨found, expected, h⟩
    rw [h] at hjudged
    cases hjudged with
    | kind hobject hpresent hbinds => exact ⟨_, hobject, hpresent, hbinds⟩
  · rintro ⟨members, hobject, hpresent, hbinds⟩
    rw [ofAnswer_of_holdsObject hobject]
    obtain ⟨hok, herror⟩ := ofMembers_of_absent_eq_nil hpresent
    cases h : ofMembers members with
    | ok r => exact absurd ((hok r).mp h) (hbinds r)
    | error flaw =>
        obtain ⟨found, expected, rfl⟩ := herror flaw h
        exact ⟨found, expected, rfl⟩

end

/-- Only the last bindings of the fields are looked at. -/
theorem ofMembers_congr {members members' : List (String × Value)}
    (h : ∀ name ∈ requiredFields, ∀ v, LastBound members name v ↔ LastBound members' name v) :
    ofMembers members = ofMembers members' := by
  have hlookup (name : String) (hname : name ∈ requiredFields) :
      lookup? members name = lookup? members' name := by
    refine Option.ext fun v => ?_
    rw [lookup?_eq_some_iff, lookup?_eq_some_iff, h name hname]
  rw [ofMembers.eq_def, ofMembers.eq_def, hlookup "time_complexity" (by decide),
    hlookup "space_complexity" (by decide), hlookup "improvements" (by decide),
    hlookup "explanation" (by decide)]
  simp only [List.filter_congr fun name hname => congrArg Option.isNone (hlookup name hname)]

/-! ## Reasons -/

/-- The letter that the reason of a flaw begins with; no two kinds of flaws have the same one. -/
def initial : ReportFlaw → Char
  | .noObject => 'n'
  | .notJson .. => 'J'
  | .missingFields _ => 'm'
  | .wrongKind .. => 'f'

theorem head?_toList_append {s : String} {c : Char} (h : s.toList.head? = some c) (t : String) :
    (s ++ t).toList.head? = some c := by
  rw [String.toList_append, List.head?_append, h]
  rfl

theorem head?_reason (flaw : ReportFlaw) : flaw.reason.toList.head? = some (initial flaw) := by
  cases flaw with
  | noObject => rfl
  | notJson => exact head?_toList_append (s := "JSON decode error: ") rfl _
  | missingFields => exact head?_toList_append (s := "missing fields: ") rfl _
  | wrongKind => exact head?_toList_append (s := "fields have unexpected types: ") rfl _

theorem initial_eq {flaw : ReportFlaw} {reason : String} {c : Char} (h : flaw.reason = reason)
    (hreason : reason.toList.head? = some c) : initial flaw = c := by
  rw [← h, head?_reason] at hreason
  exact Option.some.inj hreason

/-- An answer is no report, for this reason. -/
def TurnedDown (text reason : String) : Prop :=
  ∃ flaw, ofAnswer text = .error flaw ∧ flaw.reason = reason

section

variable {text : String}

theorem turnedDown_noObject_iff : TurnedDown text "no JSON object found in response" ↔
    ofAnswer text = .error .noObject := by
  refine ⟨?_, fun h => ⟨_, h, rfl⟩⟩
  rintro ⟨flaw, h, hreason⟩
  have hinitial : initial flaw = 'n' := initial_eq hreason rfl
  cases flaw with
  | noObject => exact h
  | notJson => simp [initial] at hinitial
  | missingFields => simp [initial] at hinitial
  | wrongKind => simp [initial] at hinitial

theorem exists_turnedDown_notJson_iff :
    (∃ detail, TurnedDown text ("JSON decode error: " ++ detail)) ↔
      ∃ span fault, ofAnswer text = .error (.notJson span fault) := by
  constructor
  · rintro ⟨detail, flaw, h, hreason⟩
    have hinitial : initial flaw = 'J' := initial_eq hreason (head?_toList_append rfl detail)
    cases flaw with
    | notJson => exact ⟨_, _, h⟩
    | noObject => simp [initial] at hinitial
    | missingFields => simp [initial] at hinitial
    | wrongKind => simp [initial] at hinitial
  · rintro ⟨span, fault, h⟩
    exact ⟨_, _, h, rfl⟩

theorem turnedDown_missing_iff {detail : String} :
    TurnedDown text ("missing fields: " ++ detail) ↔
      ∃ names, ofAnswer text = .error (.missingFields names) ∧
        detail = ", ".intercalate names := by
  constructor
  · rintro ⟨flaw, h, hreason⟩
    have hinitial : initial flaw = 'm' := initial_eq hreason (head?_toList_append rfl detail)
    cases flaw with
    | missingFields names =>
        exact ⟨names, h, ((String.append_right_inj _).mp hreason).symm⟩
    | noObject => simp [initial] at hinitial
    | notJson => simp [initial] at hinitial
    | wrongKind => simp [initial] at hinitial
  · rintro ⟨names, h, rfl⟩
    exact ⟨_, h, rfl⟩

theorem exists_turnedDown_kind_iff :
    (∃ detail, TurnedDown text ("fields have unexpected types: " ++ detail)) ↔
      ∃ found expected, ofAnswer text = .error (.wrongKind found expected) := by
  constructor
  · rintro ⟨detail, flaw, h, hreason⟩
    have hinitial : initial flaw = 'f' := initial_eq hreason (head?_toList_append rfl detail)
    cases flaw with
    | wrongKind => exact ⟨_, _, h⟩
    | noObject => simp [initial] at hinitial
    | notJson => simp [initial] at hinitial
    | missingFields => simp [initial] at hinitial
  · rintro ⟨found, expected, h⟩
    exact ⟨_, _, h, rfl⟩

end

/-- **The verdict on any answer.** It is a report exactly if the last bindings of the object between
its outermost braces are those of the report, and otherwise the reason tells what is wrong, in the
order of the flaws. -/
theorem ofAnswer_verdict (text : String) :
    (∀ r, ofAnswer text = .ok r ↔ ∃ members, HoldsObject text members ∧ Binds members r) ∧
    (TurnedDown text "no JSON object found in response" ↔
      ¬ ∃ span, IsBraceSpan span text.toList) ∧
    ((∃ detail, TurnedDown text ("JSON decode error: " ++ detail)) ↔
      (∃ span, IsBraceSpan span text.toList) ∧ ¬ ∃ members, HoldsObject text members) ∧
    (∀ detail, TurnedDown text ("missing fields: " ++ detail) ↔
      ∃ members, HoldsObject text members ∧ absentFields members ≠ [] ∧
        detail = ", ".intercalate (absentFields members)) ∧
    ((∃ detail, TurnedDown text ("fields have unexpected types: " ++ detail)) ↔
      ∃ members, HoldsObject text members ∧ absentFields members = [] ∧
        ∀ r, ¬ Binds members r) ∧
    ∀ (text' : String) (members members' : List (String × Value)),
      HoldsObject text members → HoldsObject text' members' →
      (∀ name ∈ requiredFields, ∀ v, LastBound members name v ↔ LastBound members' name v) →
      ofAnswer text = ofAnswer text' := by
  refine ⟨fun r => ofAnswer_eq_ok_iff, turnedDown_noObject_iff.trans ofAnswer_eq_noObject_iff,
    exists_turnedDown_notJson_iff.trans exists_ofAnswer_eq_notJson_iff, fun detail => ?_,
    exists_turnedDown_kind_iff.trans exists_ofAnswer_eq_wrongKind_iff, ?_⟩
  · simp only [turnedDown_missing_iff, ofAnswer_eq_missingFields_iff]
    constructor
    · rintro ⟨_, ⟨members, hobject, habsent, rfl⟩, rfl⟩
      exact ⟨members, hobject, habsent, rfl⟩
    · rintro ⟨members, hobject, habsent, rfl⟩
      exact ⟨_, ⟨members, hobject, habsent, rfl⟩, rfl⟩
  · intro text' members members' hobject hobject' hbound
    rw [ofAnswer_of_holdsObject hobject, ofAnswer_of_holdsObject hobject', ofMembers_congr hbound]

end Report

end AnalysisGateway
