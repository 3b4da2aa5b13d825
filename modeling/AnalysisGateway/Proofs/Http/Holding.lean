import AnalysisGateway.Proofs.Http.History
import AnalysisGateway.Proofs.Http.MissingField
import AnalysisGateway.Proofs.Json.Entries

/-!
# Which snippet a body holds

A body holds a snippet if it is an object with one member of its name, whose value spells the
snippet, or a list of nothing but the snippet, as a text. Other members of the object may have any
names and values, as often as they like. A body is a submission exactly if it holds a snippet
(`Submission.readWhole_eq_ok_iff`), so requests that hold the same snippet cannot be told apart, in
however different ways they spell it.
-/

namespace AnalysisGateway

open Json

namespace Submission

/-! ## Bodies -/

/-- What a submission of the snippet looks like, and what follows it. -/
inductive Form (code : String) (s rest : Bytes) : Prop where
  | object {before after : List String} (hbefore : "code" ∉ before) (hafter : "code" ∉ after)
      (h : BracedForm Member.name Member.Form
        (before.map .other ++ .snippet code :: after.map .other) s rest) : Form code s rest
  | list (h : ListForm StringForm [code] s rest) : Form code s rest

/-- A body that is a submission of the snippet, with white space around it. -/
def Holds (code : String) (body : Bytes) : Prop :=
  ∃ rest, Form code body rest ∧ BlankBytes rest

/-! ## Reading -/

/-- Members lead to a snippet exactly if one of them is the snippet, and all others have other
names. -/
theorem leads_none_some_iff {members : List Member} {code : String} :
    Leads Member.Step none members (some code) ↔ ∃ before after : List String,
      "code" ∉ before ∧ "code" ∉ after ∧
        members = before.map .other ++ .snippet code :: after.map .other := by
  constructor
  · intro h
    induction members with
    | nil => nomatch h
    | cons m members ih =>
        obtain _ | ⟨hstep, hleads⟩ := h
        cases hstep with
        | snippet first =>
            obtain rfl : code = first := Option.some.inj (eq_of_leads_some hleads)
            obtain ⟨after, hafter, rfl⟩ := exists_names_of_leads hleads
            exact ⟨[], after, List.not_mem_nil, hafter, rfl⟩
        | @other name hname =>
            obtain ⟨before, after, hbefore, hafter, rfl⟩ := ih hleads
            exact ⟨name :: before, after,
              List.not_mem_cons_of_ne_of_not_mem hname.symm hbefore, hafter, rfl⟩
  · rintro ⟨before, after, hbefore, hafter, rfl⟩
    exact (leads_map_other hbefore none).append
      (.cons (.snippet code) (leads_map_other hafter (some code)))

/-- A list of one text. -/
theorem listForm_singleton_iff {code : String} {s rest : Bytes} :
    ListForm StringForm [code] s rest ↔ ∃ u v, Spaced s (0x5B :: u) ∧ StringForm code u v ∧
      Spaced v (0x5D :: rest) := by
  constructor
  · rintro ⟨u, hopen, _ | ⟨htext, hfurther⟩⟩
    obtain hclose | _ := hfurther
    exact ⟨u, _, hopen, htext, hclose⟩
  · rintro ⟨u, v, hopen, htext, hclose⟩
    exact ⟨u, hopen, .some htext (.done hclose)⟩

/-- A submission is complete once there is a snippet. -/
theorem finish_eq_ok_iff {state : Option String} {code : String} :
    shape.finish state = .ok ⟨code⟩ ↔ state = some code := by
  cases state <;> simp [shape, required, Except.map]

/-- What is read as a submission has the form of one. -/
theorem form_of_read {code : String} {s rest : Bytes} (h : shape.read s = .ok (⟨code⟩, rest)) :
    Form code s rest := by
  have hread := h
  rw [Record.read.eq_def] at hread
  split at hread
  · contradiction
  · next u hs =>
    obtain ⟨members, state, hform, hleads, hfinish⟩ :=
      (Record.read_eq_ok_iff readsMembers (spaced_of_skipBlank hs)).mp h
    obtain rfl := finish_eq_ok_iff.mp hfinish
    obtain ⟨before, after, hbefore, hafter, rfl⟩ := leads_none_some_iff.mp hleads
    exact .object hbefore hafter hform
  · next u hs =>
    have hopen : Spaced s (0x5B :: u) := spaced_of_skipBlank hs
    obtain ⟨state, v, helements, hclose, hfinish⟩ := (Record.read_list_eq_ok_iff hopen).mp h
    obtain rfl := finish_eq_ok_iff.mp hfinish
    obtain ⟨first, htext, hfirst⟩ := elements_eq_ok_iff.mp helements
    obtain rfl := Option.some.inj hfirst
    exact .list (listForm_singleton_iff.mpr ⟨u, v, hopen, htext, hclose⟩)
  · contradiction

theorem Form.read_eq {code : String} {s rest : Bytes} (h : Form code s rest) :
    shape.read s = .ok (⟨code⟩, rest) := by
  cases h with
  | object hbefore hafter h =>
      obtain ⟨u, hopen, -⟩ := id h
      exact (Record.read_eq_ok_iff readsMembers hopen).mpr
        ⟨_, _, h, leads_none_some_iff.mpr ⟨_, _, hbefore, hafter, rfl⟩, finish_eq_ok_iff.mpr rfl⟩
  | list h =>
      obtain ⟨u, v, hopen, htext, hclose⟩ := listForm_singleton_iff.mp h
      exact (Record.read_list_eq_ok_iff hopen).mpr
        ⟨_, v, elements_eq_ok_iff.mpr ⟨code, htext, rfl⟩, hclose, finish_eq_ok_iff.mpr rfl⟩

/-- **A body is a submission of a snippet exactly if it holds the snippet.** -/
theorem readWhole_eq_ok_iff {body : Bytes} {code : String} :
    readWhole shape.read body = .ok ⟨code⟩ ↔ Holds code body := by
  rw [readWhole_eq_ok_iff_exists]
  constructor
  · rintro ⟨rest, hread, hblank⟩
    exact ⟨rest, form_of_read hread, hblank⟩
  · rintro ⟨rest, hform, hblank⟩
    exact ⟨rest, hform.read_eq, hblank⟩

/-- A body holds one snippet at most. -/
theorem Holds.unique {code code' : String} {body : Bytes} (h : Holds code body)
    (h' : Holds code' body) : code = code' := by
  have hread := (readWhole_eq_ok_iff.mpr h).symm.trans (readWhole_eq_ok_iff.mpr h')
  exact congrArg Submission.code (Except.ok.inj hread)

end Submission

namespace Http

/-- A body is accepted exactly if it holds a snippet. -/
theorem readSubmission_eq_ok_iff {body : Bytes} {code : String} :
    readSubmission body = .ok ⟨code⟩ ↔ Submission.Holds code body := by
  rw [readSubmission, ← Submission.readWhole_eq_ok_iff]
  cases readWhole Submission.shape.read body <;> simp [Except.mapError]

namespace Service

/-! ## Requests -/

/-- A request to analyse a snippet: it is addressed to the analysis, its body gets read, and the
body holds the snippet. -/
structure Asks (service : Service) (r : Request) (code : String) : Prop where
  addresses : service.Addresses r
  readable : r.Readable service.settings.server.maxBodyBytes
  holds : Submission.Holds code r.body

section

variable {service : Service} {r r' : Request} {code : String}

/-- The snippet is what is submitted. -/
theorem Asks.submission_eq (h : service.Asks r code) :
    r.submission service.settings.server.maxBodyBytes = .ok ⟨code⟩ :=
  h.readable.submission_eq.trans (readSubmission_eq_ok_iff.mpr h.holds)

/-- Its response is that of the analysis of the snippet. -/
theorem Asks.respond_eq (h : service.Asks r code) (line : Line) :
    service.respond r line = ofTranscript
      ((analyze service.settings.analysis code).run service.provider.client line) := by
  rw [h.addresses.respond_eq line, analysis, h.submission_eq]

/-- Requests with the same response to every line can be exchanged in a history. -/
theorem respondAll_exchange (h : ∀ line, service.respond r line = service.respond r' line)
    (before after : List Request) (line : Line) :
    service.respondAll (before ++ r :: after) line =
      service.respondAll (before ++ r' :: after) line := by
  rw [respondAll_append, respondAll_append, respondAll, respondAll, h]

/-- **The answer depends on the snippet, and not on how it is spelled.** Whatever else two requests
say, in whatever order and spelling: if they hold the same snippet, then both are answered, with the
same response, the same events and the same requests to the provider, by the analysis of exactly
this snippet. So either can stand for the other one anywhere in a history. -/
theorem respond_eq_of_asks (h : service.Asks r code) (h' : service.Asks r' code) :
    (∀ line, service.respond r line = service.respond r' line ∧
      service.respond r line = ofTranscript
        ((analyze service.settings.analysis code).run service.provider.client line)) ∧
    ∀ before after line, service.respondAll (before ++ r :: after) line =
      service.respondAll (before ++ r' :: after) line := by
  have hsame (line : Line) : service.respond r line = service.respond r' line :=
    (h.respond_eq line).trans (h'.respond_eq line).symm
  exact ⟨fun line => ⟨hsame line, h.respond_eq line⟩, respondAll_exchange hsame⟩

end

/-- The same snippet as it is usually written, and with escapes in its name and for each of its
characters, among members that are passed over. -/
theorem respond_eq_of_asks_escaped :
    let s : Settings :=
      ⟨⟨"h", 80, 200⟩, ⟨.json, 1, 9⟩, ⟨some "key", "http://h/v1/", "m", 0, none, 5⟩⟩
    let line : Line := ⟨true, [.silence], [], false⟩
    let r : Request := ⟨"POST", "/analyze", [("Content-Type", Text.toBytes "application/json")],
      Text.encode (writtenObject [("code", writtenString "😀\n/é")]), false⟩
    let r' : Request := ⟨"POST", "/analyze?x",
      [("content-type", Text.toBytes "application/json; charset=utf-8")],
      Text.toBytes (" \x7b \"\\u0043ode\" : [\x7b\"code\":null\x7d, -1.5e999, \"\\ud800\"] ,\r\n" ++
        "\t\"co\\u0064e\":\"\\uD83D\\uDE00\\n\\/\\u00e9\", \"\":\x7b\x7d, \"\":1 \x7d \n"), false⟩
    (ofSettings s).Asks r "😀\n/é" ∧ (ofSettings s).Asks r' "😀\n/é" ∧
      (ofSettings s).respond r line = (ofSettings s).respond r' line := by
  intro s line r r'
  have h : (ofSettings s).Asks r "😀\n/é" :=
    ⟨⟨rfl, by decide⟩, ⟨by decide +kernel, by decide, rfl⟩,
      Submission.readWhole_eq_ok_iff.mp (by decide +kernel)⟩
  have h' : (ofSettings s).Asks r' "😀\n/é" :=
    ⟨⟨rfl, by decide⟩, ⟨by decide +kernel, by decide +kernel, rfl⟩,
      Submission.readWhole_eq_ok_iff.mp (by decide +kernel)⟩
  exact ⟨h, h', ((respond_eq_of_asks h h').1 line).1⟩

end Service

end Http

end AnalysisGateway
