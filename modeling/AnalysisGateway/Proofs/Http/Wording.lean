import AnalysisGateway.Proofs.Http.Marker
import AnalysisGateway.Proofs.Http.Submission

/-!
# What refused submissions are told to miss

The message for a body that is no submission is searched for the marker, and it quotes the body
where the body is a text. So a field is called missing for an object without a snippet, and for a
text that calls one missing, and for no other body (`readSubmission_eq_iff`).
-/

namespace AnalysisGateway.Http

open Json Text

/-! ## Numbers -/

theorem not_mem_toDigits {c : Char} (hc : c.isDigit = false) (n : Nat) : c ∉ Nat.toDigits 10 n :=
  fun h => by
    rw [Nat.isDigit_of_mem_toDigits (by decide) (by decide) h] at hc
    contradiction

theorem not_mem_toString {c : Char} (hc : c.isDigit = false) (n : Nat) :
    c ∉ (toString n).toList := by
  simpa using not_mem_toDigits hc n

/-- A written decimal has digits, a point, and an exponent with its sign. -/
theorem not_mem_decimalChars {c : Char} (hc : c.isDigit = false) (hother : c ∉ ['.', 'e', '+', '-'])
    (style : Decimal.RealStyle) (d : Decimal) : c ∉ Decimal.chars style d := by
  have hdigits (n : Nat) : c ∉ Decimal.digitChars n := not_mem_toDigits hc n
  have hzero : c ≠ '0' := by
    rintro rfl
    contradiction
  simp only [List.mem_cons, List.not_mem_nil, not_or, or_false] at hother
  obtain ⟨hpoint, he, hplus, hminus⟩ := hother
  rw [Decimal.chars]
  split
  · rw [Decimal.positional]
    split
    · simp [hdigits, hzero, hpoint]
    split
    · simp only [List.mem_append, List.mem_singleton, not_or]
      exact ⟨⟨fun h => hdigits _ (List.mem_of_mem_take h), hpoint⟩,
        fun h => hdigits _ (List.mem_of_mem_drop h)⟩
    · simp [hdigits, hzero, hpoint]
  · rw [Decimal.scientific]
    split
    · exact List.not_mem_nil
    · next digit more hcons =>
      have hall := hdigits d.digits
      rw [hcons, List.mem_cons, not_or] at hall
      have hexponent (e : Int) : c ∉ Decimal.exponentChars style e := by
        rw [Decimal.exponentChars]
        split
        · simp [hdigits, he, hminus]
        · split <;> simp [hdigits, he, hplus]
      simp [hall, hpoint, hexponent]

/-- There is no `m` in a written double. -/
theorem not_mem_realChars (bits : Nat) : 'm' ∉ realChars Binary.double doubleStyle bits := by
  rw [realChars]
  split
  · next m q _ =>
    have hmagnitude : 'm' ∉ Decimal.magnitudeChars Binary.double doubleStyle m q := by
      rw [Decimal.magnitudeChars]
      split
      · decide
      · exact not_mem_decimalChars (by decide) (by decide) _ _
    split <;> simp [hmagnitude]
  · decide

/-! ## Parts that are passed over -/

theorem passed_toString (n : Nat) : Passed (toString n).toList :=
  passed_of_not_mem (not_mem_toString (by decide) n)

/-- Between backquotes, a number is passed over. -/
theorem passed_enclosed {opening number : String} (hopening : 'm' ∉ opening.toList)
    (hnumber : 'm' ∉ number.toList) : Passed (opening ++ number ++ "\x60").toList :=
  passed_of_not_mem (by simp [hopening, hnumber])

/-- What is found is passed over, unless it is a text. -/
theorem passed_describe {found : Found} (h : ∀ t, found ≠ .text t) :
    Passed found.describe.toList := by
  have hnumber (n : Nat) : 'm' ∉ (toString n).toList := not_mem_toString (by decide) n
  cases found with
  | text t => exact absurd rfl (h t)
  | null => exact passed_of_not_mem (by decide)
  | boolean b => cases b <;> exact passed_of_not_mem (by decide)
  | sequence => exact passed_of_not_mem (by decide)
  | map => exact passed_of_isChain (by decide) (by decide)
  | natural n => exact passed_enclosed (by decide) (hnumber n)
  | negative n => exact passed_enclosed (by decide) (hnumber n)
  | real bits => exact passed_enclosed (by decide) (by simp [not_mem_realChars])

theorem message_wrongKind (found : Found) (expected : String) :
    (Cause.wrongKind found expected).message =
      "invalid type: " ++ found.describe ++ ", expected " ++ expected := rfl

theorem message_wrongLength (n : Nat) (expected : String) :
    (Cause.wrongLength n expected).message =
      "invalid length " ++ toString n ++ ", expected " ++ expected := rfl

theorem passed_wrongKind {found : Found} (h : ∀ t, found ≠ .text t) {expected : String}
    (hexpected : Passed expected.toList) :
    Passed (Cause.wrongKind found expected).message.toList := by
  have htype : Passed "invalid type: ".toList := passed_of_not_mem (by decide)
  have hcomma : Passed ", expected ".toList := passed_of_not_mem (by decide)
  rw [message_wrongKind, String.toList_append, String.toList_append, String.toList_append]
  exact ((htype.append (passed_describe h)).append hcomma).append hexpected

theorem passed_wrongLength (n : Nat) {expected : String} (hexpected : Passed expected.toList) :
    Passed (Cause.wrongLength n expected).message.toList := by
  have hlength : Passed "invalid length ".toList := passed_of_not_mem (by decide)
  have hcomma : Passed ", expected ".toList := passed_of_not_mem (by decide)
  rw [message_wrongLength, String.toList_append, String.toList_append, String.toList_append]
  exact ((hlength.append (passed_toString n)).append hcomma).append hexpected

/-- What names only kinds and numbers is passed over. -/
theorem passed_message {cause : Cause} (h : Submission.Reticent cause) :
    Passed cause.message.toList := by
  cases h with
  | twice => exact passed_of_not_mem (by decide)
  | empty => exact passed_wrongLength 0 (passed_of_isChain (by decide) (by decide))
  | @kind found expected hfound hexpected =>
      refine passed_wrongKind hfound (passed_of_not_mem ?_)
      obtain rfl | rfl := hexpected <;> decide

/-- The words for the place of a fault. -/
def placeText (line column : Nat) : String :=
  " at line " ++ toString line ++ " column " ++ toString column

theorem passed_placeText (line column : Nat) : Passed (placeText line column).toList := by
  have hline : Passed " at line ".toList := passed_of_not_mem (by decide)
  have hcolumn : Passed " column ".toList := passed_of_isChain (by decide) (by decide)
  rw [placeText, String.toList_append, String.toList_append, String.toList_append]
  exact ((hline.append (passed_toString line)).append hcolumn).append (passed_toString column)

theorem not_mem_placeText (line column : Nat) : '\x60' ∉ (placeText line column).toList := by
  have hnumber (n : Nat) : '\x60' ∉ (toString n).toList := not_mem_toString (by decide) n
  simp only [placeText, String.toList_append, List.mem_append, hnumber, or_false]
  decide

/-! ## The message -/

/-- What comes before the cause in the message for a body that is no submission. -/
def openingText (path : List Json.Step) : String :=
  "Failed to deserialize the JSON body into the target type: " ++
    (if path.isEmpty then "" else Fault.pathText true path ++ ": ")

theorem passed_openingText {path : List Json.Step} (h : path ∈ Submission.places) :
    Passed (openingText path).toList := by
  have hfailed : Passed "Failed to deserialize the JSON body into the target type: ".toList :=
    passed_of_not_mem (by decide)
  unfold openingText
  rw [String.toList_append]
  refine hfailed.append (passed_of_not_mem ?_)
  simp only [Submission.places, List.mem_cons, List.not_mem_nil, or_false] at h
  obtain rfl | rfl | rfl := h <;> decide

theorem message_eq_append_placeText (body : Bytes) (f : Fault) :
    f.message body = f.cause.message ++
      placeText (Fault.position body f.left).1 (Fault.position body f.left).2 := by
  simp only [placeText, ← String.append_assoc]
  rfl

/-- The message for a body that is no submission: what comes before the cause, the cause, and its
place. -/
theorem exists_messageWithPath (body : Bytes) (f : Fault) :
    ∃ line column,
      "Failed to deserialize the JSON body into the target type: " ++ f.messageWithPath body =
        openingText f.path ++ f.cause.message ++ placeText line column := by
  refine ⟨(Fault.position body f.left).1, (Fault.position body f.left).2, ?_⟩
  unfold Fault.messageWithPath openingText
  rw [message_eq_append_placeText, String.append_assoc, String.append_assoc]

section

variable {path : List Json.Step} (hpath : path ∈ Submission.places) (line column : Nat)

include hpath

/-- A missing field is called missing. -/
theorem missingField?_of_missing {name : String} (hname : '\x60' ∉ name.toList) :
    missingField? (openingText path ++ (Cause.missingField name).message ++
      placeText line column).toList = some name.toList := by
  have hmessage : (Cause.missingField name).message.toList =
      marker ++ (name.toList ++ ['\x60']) := by
    rw [show (Cause.missingField name).message = "missing field \x60" ++ name ++ "\x60" from rfl,
      String.toList_append, String.toList_append, List.append_assoc]
    rfl
  rw [String.toList_append, String.toList_append, hmessage, List.append_assoc, missingField?_eq,
    passed_openingText hpath, List.append_assoc, textAfter?_marker_append, Option.bind_some,
    List.append_assoc, List.singleton_append, cut_append hname]
  rfl

/-- A text that is quoted is searched. -/
theorem missingField?_of_text (t : String) :
    missingField? (openingText path ++
      (Cause.wrongKind (.text t) Submission.shape.name).message ++
      placeText line column).toList =
        (missingField? t.toList).map fun name => name.flatMap quotedChar := by
  have hbefore : Passed ((openingText path).toList ++ "invalid type: string ".toList) :=
    (passed_openingText hpath).append (passed_of_not_mem (by decide))
  have htail : Passed ('"' :: ", expected struct AnalysisRequest".toList) :=
    passed_of_not_mem (by decide)
  have hmessage : (Cause.wrongKind (.text t) Submission.shape.name).message.toList =
      "invalid type: string ".toList ++
        (quotedChars t.toList ++ ", expected struct AnalysisRequest".toList) := by
    rw [message_wrongKind, show (Found.text t).describe = "string " ++ quoted t from rfl]
    simp [quoted, Submission.shape]
  rw [String.toList_append, String.toList_append, hmessage, List.append_assoc, List.append_assoc,
    ← List.append_assoc, List.append_assoc (quotedChars t.toList)]
  refine missingField?_quoted hbefore ?_ ?_ t.toList
  · exact (htail.append (passed_placeText line column)).textAfter?_eq_none
  · rw [List.mem_append, not_or]
    exact ⟨by decide, not_mem_placeText line column⟩

/-- Where nothing is quoted, nothing is called missing. -/
theorem missingField?_of_reticent {cause : Cause} (h : Submission.Reticent cause) :
    missingField? (openingText path ++ cause.message ++ placeText line column).toList = none := by
  have hpassed := ((passed_openingText hpath).append (passed_message h)).append
    (passed_placeText line column)
  rw [String.toList_append, String.toList_append, missingField?_eq, hpassed.textAfter?_eq_none]
  rfl

end

/-! ## Submissions -/

/-- What a body is told to lack: the snippet, if it is an object without one, and what it calls
missing itself, if it is a text. -/
def Lacks (body : Bytes) (name : String) : Prop :=
  (name = "code" ∧ ∃ names rest, "code" ∉ names ∧ ObjectForm names body rest) ∨
    ∃ t rest raw, StringForm t body rest ∧ CallsMissing t.toList raw ∧
      name = String.ofList (raw.flatMap quotedChar)

/-- A text that begins otherwise does not tell of a missing field. -/
theorem append_ne_missing {opening : String} {c : Char} {more : List Char}
    (h : opening.toList = c :: more) (hc : c ≠ 'M') (text name : String) :
    opening ++ text ≠ "Missing required field: " ++ name := by
  intro heq
  have hlist := congrArg String.toList heq
  have hmissing : "Missing required field: ".toList = 'M' :: "issing required field: ".toList := rfl
  rw [String.toList_append, String.toList_append, h, hmissing] at hlist
  exact hc (List.cons.inj hlist).1

/-- A message tells of a missing field if one is found in the message for a body that is JSON. -/
theorem describeFault_eq_iff {body : Bytes} {f : Fault} {name : String} :
    describeFault body f = "Missing required field: " ++ name ↔ f.cause.isContent = true ∧
      missingField? ("Failed to deserialize the JSON body into the target type: " ++
        f.messageWithPath body).toList = some name.toList := by
  unfold describeFault
  split
  · next hcontent =>
    simp only [hcontent, true_and]
    split
    · next found hfound =>
      rw [hfound, Option.some.injEq]
      constructor
      · intro h
        rw [← (String.append_right_inj _).mp h, String.toList_ofList]
      · rintro rfl
        rw [String.ofList_toList]
    · next hnone =>
      rw [hnone]
      exact iff_of_false (append_ne_missing rfl (by decide) _ _) nofun
  · next hcontent =>
    exact iff_of_false (append_ne_missing rfl (by decide) _ _) fun h => hcontent h.1

theorem lacks_of_refused {body : Bytes} {f : Fault} {name : String}
    (h : Submission.Refused body f)
    (hmissing : missingField? ("Failed to deserialize the JSON body into the target type: " ++
      f.messageWithPath body).toList = some name.toList) : Lacks body name := by
  obtain ⟨line, column, hmessage⟩ := exists_messageWithPath body f
  rw [hmessage] at hmissing
  cases h with
  | @lacksCode names rest hnames hobject =>
      have hcode := missingField?_of_missing Submission.nil_mem_places line column
        (show '\x60' ∉ "code".toList by decide)
      have hname : "code".toList = name.toList := Option.some.inj (hcode.symm.trans hmissing)
      exact .inl ⟨(String.toList_inj.mp hname).symm, names, rest, hnames, hobject⟩
  | @text t rest htext =>
      have hquoted := missingField?_of_text Submission.nil_mem_places line column t
      obtain ⟨raw, hraw, hname⟩ := Option.map_eq_some_iff.mp (hquoted.symm.trans hmissing)
      exact .inr ⟨t, rest, raw, htext, missingField?_eq_some_iff.mp hraw,
        by rw [hname, String.ofList_toList]⟩
  | other hcause hpath =>
      rw [missingField?_of_reticent hpath line column hcause] at hmissing
      contradiction

/-- **Which bodies are told to lack a field.** -/
theorem readSubmission_eq_iff {body : Bytes} {name : String} :
    readSubmission body = .error (.validation ("Missing required field: " ++ name)) ↔
      Lacks body name := by
  have hread : readSubmission body = .error (.validation ("Missing required field: " ++ name)) ↔
      ∃ f, readWhole Submission.shape.read body = .error f ∧
        describeFault body f = "Missing required field: " ++ name := by
    rw [readSubmission]
    cases readWhole Submission.shape.read body with
    | ok submission => exact iff_of_false nofun nofun
    | error f => simp [Except.mapError]
  rw [hread]
  constructor
  · rintro ⟨f, hfault, hdescribe⟩
    obtain ⟨hcontent, hmissing⟩ := describeFault_eq_iff.mp hdescribe
    exact lacks_of_refused (Submission.refused_of_readWhole hfault hcontent) hmissing
  · rintro (⟨rfl, names, rest, hnames, hobject⟩ | ⟨t, rest, raw, htext, hcalls, rfl⟩)
    · refine ⟨_, Submission.readWhole_of_objectForm hnames hobject,
        describeFault_eq_iff.mpr ⟨rfl, ?_⟩⟩
      obtain ⟨line, column, hmessage⟩ :=
        exists_messageWithPath body (.here (.missingField "code") rest)
      rw [hmessage]
      exact missingField?_of_missing Submission.nil_mem_places line column (by decide)
    · refine ⟨_, Submission.readWhole_of_stringForm htext, describeFault_eq_iff.mpr ⟨rfl, ?_⟩⟩
      obtain ⟨line, column, hmessage⟩ :=
        exists_messageWithPath body (.here (.wrongKind (.text t) Submission.shape.name) rest)
      rw [hmessage]
      refine (missingField?_of_text Submission.nil_mem_places line column t).trans ?_
      rw [missingField?_eq_some_iff.mpr hcalls, String.toList_ofList]
      rfl

end AnalysisGateway.Http
