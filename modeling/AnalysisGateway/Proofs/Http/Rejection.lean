import AnalysisGateway.Proofs.Http.Holding

/-!
# In which order requests are rejected

A request to analyse something is rejected for its content type, then for the length of its body,
then because its body breaks off, and then because the body holds no snippet. The first of these
reasons is told, whatever else is wrong, and nobody is asked. Only then do the bounds on snippets
count, and last the provider.
-/

namespace AnalysisGateway.Http

/-! ## Submissions -/

/-- Nothing else about a submission is too large. -/
theorem Request.lt_of_submission {r : Request} {limit : Nat} {text : String}
    (h : r.submission limit = .error (.payloadTooLarge text)) :
    (r.header? "content-type").any saysJson = true ∧ limit < r.body.length := by
  cases Request.yields_iff.mpr h with
  | tooLong hjson hlong => exact ⟨hjson, hlong⟩
  | read _ hread =>
      obtain ⟨text, htext⟩ := exists_of_readSubmission_eq_error hread
      nomatch htext

/-- How the message for a body that is no submission begins. -/
def faultOpenings : List String :=
  ["JSON syntax error: ", "Invalid JSON: ", "Missing required field: "]

theorem exists_describeFault (body : Bytes) (fault : Json.Fault) :
    ∃ opening ∈ faultOpenings, ∃ text, describeFault body fault = opening ++ text := by
  unfold describeFault
  split
  · dsimp only
    split
    · exact ⟨"Missing required field: ", by decide, _, rfl⟩
    · exact ⟨"Invalid JSON: ", by decide, _, rfl⟩
  · refine ⟨"JSON syntax error: ", by decide, "Failed to parse the request body as JSON: " ++
      fault.messageWithPath body, ?_⟩
    rw [← String.append_assoc]
    rfl

/-- A body that holds no snippet is refused with such a message. -/
theorem exists_readSubmission_eq_error {body : Bytes} (h : ∀ code, ¬ Submission.Holds code body) :
    ∃ opening ∈ faultOpenings, ∃ text,
      readSubmission body = .error (.validation (opening ++ text)) := by
  cases hread : Json.readWhole Submission.shape.read body with
  | ok submission => exact absurd (Submission.readWhole_eq_ok_iff.mp hread) (h submission.code)
  | error fault =>
      obtain ⟨opening, hopening, text, htext⟩ := exists_describeFault body fault
      refine ⟨opening, hopening, text, ?_⟩
      rw [readSubmission, hread, ← htext]
      rfl

/-- A snippet that is too long is not called a body. -/
theorem text_ne_of_checkSnippet {settings : AnalysisSettings} {code text : String}
    (h : settings.checkSnippet code = .error (.payloadTooLarge text)) :
    text ≠ "Request body too large" := by
  obtain _ | _ | _ := AnalysisSettings.checks_iff.mpr h
  intro hbody
  have hlist := congrArg String.toList hbody
  rw [String.append_assoc, String.toList_append] at hlist
  exact absurd (List.cons.inj hlist).1 (by decide)

/-! ## Responses -/

/-- An exchange that tells what is wrong, and asks nobody: the line is as it was. -/
structure Exchange.Rejects (e : Exchange) (status : Nat) (text : String) (line : Line) : Prop where
  status_eq : e.response.status = status
  tells : e.response.Tells text
  line_eq : e.line = line

namespace Service

variable {service : Service} {r : Request}

/-- A refusal rejects the request with the status and the text of its failure. -/
theorem Addresses.rejects_of_refuses {failure : Failure} (haddresses : service.Addresses r)
    (h : service.Refuses r failure) (line : Line) :
    (service.respond r line).Rejects failure.status failure.message line := by
  rw [haddresses.respond_of_refuses line h]
  exact ⟨rfl, tells_reportFailure .., rfl⟩

/-- **A body is called too large exactly if it is longer than allowed.** -/
theorem Addresses.tells_too_large_iff (haddresses : service.Addresses r) (line : Line) :
    let response := (service.respond r line).response
    response.status = 413 ∧ response.Tells "Request body too large" ↔
      (r.header? "content-type").any saysJson = true ∧
        service.settings.server.maxBodyBytes < r.body.length := by
  intro response
  constructor
  · rintro ⟨hstatus, htells⟩
    obtain ⟨failure, hrefuses⟩ | ⟨code, user, haccepts⟩ := service.refuses_or_accepts r
    · obtain ⟨hfailure, hmessage, -⟩ := haddresses.rejects_of_refuses hrefuses line
      obtain ⟨text, rfl⟩ := (failure.status_eq_413_iff).mp (hfailure.symm.trans hstatus)
      obtain rfl : text = "Request body too large" := hmessage.text_unique htells rfl
      obtain hsubmission | ⟨code, -, hcheck⟩ := hrefuses
      · exact Request.lt_of_submission hsubmission
      · exact absurd rfl (text_ne_of_checkSnippet hcheck)
    · have hserved : response.status = 200 ∨ 500 ≤ response.status :=
        haddresses.status_of_accepts haccepts line
      omega
  · rintro ⟨hjson, hlt⟩
    obtain ⟨hstatus, htells, -⟩ :=
      haddresses.rejects_of_refuses (.inl (Request.yields_iff.mp (.tooLong hjson hlt))) line
    exact ⟨hstatus, htells⟩

/-- **Requests are rejected in a fixed order.** Each of these reasons is told only where none of
those before it holds, and no matter whether others hold, what the body is and what else the headers
say:

1. the content type is not JSON, 400;
2. the body is longer than allowed, 413, even if it breaks off, and no other body is called too
   large;
3. the body breaks off, 500;
4. the body holds no snippet, 400, with a message that begins in one of three ways;
5. the snippet is empty, too short or too long, as the check says.

A rejected request leaves the line as it is. Any other one is analysed. -/
theorem respond_rejects (service : Service) (r : Request) (line : Line)
    (haddresses : service.Addresses r) :
    let limit := service.settings.server.maxBodyBytes
    let isJson := (r.header? "content-type").any saysJson
    let e := service.respond r line
    (isJson = false →
      e.Rejects 400 "Missing `Content-Type: application/json` header" line) ∧
    (isJson = true → limit < r.body.length → e.Rejects 413 "Request body too large" line) ∧
    (e.response.status = 413 ∧ e.response.Tells "Request body too large" ↔
      isJson = true ∧ limit < r.body.length) ∧
    (isJson = true → r.body.length ≤ limit → r.bodyFails = true →
      e.Rejects 500 "Failed to read request body" line) ∧
    (r.Readable limit → (∀ code, ¬ Submission.Holds code r.body) →
      ∃ opening ∈ faultOpenings, ∃ text, e.Rejects 400 (opening ++ text) line) ∧
    ∀ code, service.Asks r code →
      (∀ failure, service.settings.analysis.checkSnippet code = .error failure →
        e.Rejects failure.status failure.message line) ∧
      ∀ user, service.settings.analysis.checkSnippet code = .ok user →
        e = ofTranscript
          ((analyze service.settings.analysis code).run service.provider.client line) := by
  intro limit isJson e
  have hrejects {failure : Failure} (h : r.Yields limit (.error failure)) :
      e.Rejects failure.status failure.message line :=
    haddresses.rejects_of_refuses (.inl (Request.yields_iff.mp h)) line
  refine ⟨fun hjson => hrejects (.undeclared hjson),
    fun hjson hlong => hrejects (.tooLong hjson hlong),
    haddresses.tells_too_large_iff line,
    fun hjson hfits hbroken => hrejects (.broken hjson hfits hbroken),
    fun hreadable hnone => ?_, fun code hasks => ⟨fun failure hcheck => ?_, fun user _ => ?_⟩⟩
  · obtain ⟨opening, hopening, text, hread⟩ := exists_readSubmission_eq_error hnone
    exact ⟨opening, hopening, text, hrejects (.read hreadable hread)⟩
  · exact haddresses.rejects_of_refuses (.inr ⟨code, hasks.submission_eq, hcheck⟩) line
  · exact hasks.respond_eq line

/-- Where no byte is allowed, a byte is too many, whatever the length is said to be, and an empty
body that breaks off is not too long. -/
theorem respond_rejects_no_bytes :
    let s : Settings :=
      ⟨⟨"h", 80, 0⟩, ⟨.json, 1, 9⟩, ⟨some "key", "http://h/v1/", "m", 0, none, 5⟩⟩
    let line : Line := ⟨true, [.silence], [], false⟩
    let r : Request := ⟨"POST", "/analyze", [("content-length", Text.toBytes "0"),
      ("content-type", Text.toBytes "application/json")], Text.toBytes "[", true⟩
    (ofSettings s).Addresses r ∧
      ((ofSettings s).respond r line).Rejects 413 "Request body too large" line ∧
      ((ofSettings s).respond { r with body := [] } line).Rejects 500
        "Failed to read request body" line := by
  intro s line r
  have haddresses : (ofSettings s).Addresses r := ⟨rfl, by decide⟩
  have haddresses' : (ofSettings s).Addresses { r with body := [] } := ⟨rfl, by decide⟩
  have hjson : (r.header? "content-type").any saysJson = true := by decide +kernel
  obtain ⟨-, hlarge, -⟩ := respond_rejects (ofSettings s) r line haddresses
  obtain ⟨-, -, -, hbroken, -⟩ := respond_rejects (ofSettings s) _ line haddresses'
  exact ⟨haddresses, hlarge hjson (by decide), hbroken hjson (Nat.le_refl 0) rfl⟩

end Service

end AnalysisGateway.Http
