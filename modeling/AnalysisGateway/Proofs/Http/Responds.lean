import AnalysisGateway.Http.Service
import AnalysisGateway.Proofs.Flow.Transcript

/-!
# What a request comes to

A request is answered locally, refused, or analysed, and the response, the events and the line
follow from which of the three it is. Each has its equation, and what is proved of responses goes
through the three.
-/

namespace AnalysisGateway.Http

/-! ## Routes -/

/-- The analysis has the path of its endpoint, and no other path. -/
theorem Service.route?_eq_analysis_iff (service : Service) (path : String) :
    service.route? path = some .analysis ↔ path = service.settings.analysis.format.endpoint := by
  rw [route?]
  split
  · next h => exact iff_of_true rfl h
  · next h =>
    refine iff_of_false ?_ h
    split
    · exact nofun
    split
    · exact nofun
    split
    · exact nofun
    · exact nofun

/-! ## Submissions -/

/-- A request whose body gets read: it is declared as JSON, is not too long, and comes in whole. -/
structure Request.Readable (r : Request) (limit : Nat) : Prop where
  isJson : (r.header? "content-type").any saysJson = true
  fits : r.body.length ≤ limit
  whole : r.bodyFails = false

/-- What a request submits: the first reason not to read its body, or what is read from it. -/
inductive Request.Yields (r : Request) (limit : Nat) : Except Failure Submission → Prop where
  | undeclared (h : (r.header? "content-type").any saysJson = false) :
      Yields r limit (.error (.validation "Missing `Content-Type: application/json` header"))
  | tooLong (hjson : (r.header? "content-type").any saysJson = true)
      (h : limit < r.body.length) :
      Yields r limit (.error (.payloadTooLarge "Request body too large"))
  | broken (hjson : (r.header? "content-type").any saysJson = true)
      (hfits : r.body.length ≤ limit) (h : r.bodyFails = true) :
      Yields r limit (.error (.internal "Failed to read request body"))
  | read {result : Except Failure Submission} (h : r.Readable limit)
      (hread : readSubmission r.body = result) : Yields r limit result

/-- **The submission of a request is what it yields.** -/
theorem Request.yields_iff {r : Request} {limit : Nat} {result : Except Failure Submission} :
    r.Yields limit result ↔ r.submission limit = result := by
  constructor
  · intro h
    cases h with
    | undeclared hjson => simp [submission, hjson]
    | tooLong hjson hlong => simp [submission, hjson, hlong]
    | broken hjson hfits hbroken => simp [submission, hjson, Nat.not_lt.mpr hfits, hbroken]
    | read hreadable hread =>
        obtain ⟨hjson, hfits, hwhole⟩ := hreadable
        simp [submission, hjson, Nat.not_lt.mpr hfits, hwhole, hread]
  · rintro rfl
    rw [submission]
    split
    · next hjson => exact .undeclared (by simpa using hjson)
    next hjson =>
      have hjson : (r.header? "content-type").any saysJson = true := by simpa using hjson
      split
      · next hlong => exact .tooLong hjson hlong
      next hlong =>
        have hfits : r.body.length ≤ limit := Nat.le_of_not_lt hlong
        split
        · next hbroken => exact .broken hjson hfits hbroken
        · next hwhole => exact .read ⟨hjson, hfits, by simpa using hwhole⟩ rfl

theorem Request.Readable.submission_eq {r : Request} {limit : Nat} (h : r.Readable limit) :
    r.submission limit = readSubmission r.body :=
  Request.yields_iff.mp (.read h rfl)

/-- A body that is no submission is the client's fault. -/
theorem exists_of_readSubmission_eq_error {body : Bytes} {failure : Failure}
    (h : readSubmission body = .error failure) : ∃ text, failure = .validation text := by
  rw [readSubmission] at h
  cases hread : Json.readWhole Submission.shape.read body with
  | ok submission =>
      rw [hread] at h
      contradiction
  | error fault =>
      rw [hread] at h
      exact ⟨_, (Except.error.inj h).symm⟩

/-- A submission is refused for what the client sent, unless its body could not be read. -/
theorem Request.exists_of_submission_eq_error {r : Request} {limit : Nat} {failure : Failure}
    (h : r.submission limit = .error failure) :
    (∃ text, failure = .validation text) ∨ (∃ text, failure = .payloadTooLarge text) ∨
      r.bodyFails = true ∧ ∃ text, failure = .internal text := by
  cases Request.yields_iff.mpr h with
  | undeclared => exact .inl ⟨_, rfl⟩
  | tooLong => exact .inr (.inl ⟨_, rfl⟩)
  | broken _ _ hbroken => exact .inr (.inr ⟨hbroken, _, rfl⟩)
  | read _ hread => exact .inl (exists_of_readSubmission_eq_error hread)

namespace Service

/-- A request to analyse something: a `POST` to the endpoint of the format. -/
structure Addresses (service : Service) (r : Request) : Prop where
  method_eq : r.method = "POST"
  path_eq : r.path = service.settings.analysis.format.endpoint

/-- A snippet that is refused, as a submission or by its length. -/
def Refuses (service : Service) (r : Request) (failure : Failure) : Prop :=
  r.submission service.settings.server.maxBodyBytes = .error failure ∨
    ∃ code, r.submission service.settings.server.maxBodyBytes = .ok ⟨code⟩ ∧
      service.settings.analysis.checkSnippet code = .error failure

/-- It is refused for what the client sent, unless the body could not be read. -/
theorem Refuses.cases {service : Service} {r : Request} {failure : Failure}
    (h : service.Refuses r failure) :
    (∃ text, failure = .validation text) ∨ (∃ text, failure = .payloadTooLarge text) ∨
      r.bodyFails = true ∧ ∃ text, failure = .internal text := by
  obtain hsubmission | ⟨code, -, hcheck⟩ := h
  · exact Request.exists_of_submission_eq_error hsubmission
  · exact (service.settings.analysis.exists_of_checkSnippet_eq_error hcheck).imp id .inl

/-- A snippet that is accepted, and what is left of it without the blanks around it. -/
structure Accepts (service : Service) (r : Request) (code user : String) : Prop where
  submission_eq : r.submission service.settings.server.maxBodyBytes = .ok ⟨code⟩
  checkSnippet_eq : service.settings.analysis.checkSnippet code = .ok user

/-- A snippet is refused or accepted. -/
theorem refuses_or_accepts (service : Service) (r : Request) :
    (∃ failure, service.Refuses r failure) ∨ ∃ code user, service.Accepts r code user := by
  cases hsubmission : r.submission service.settings.server.maxBodyBytes with
  | error failure => exact .inl ⟨failure, .inl hsubmission⟩
  | ok submission =>
      cases hcheck : service.settings.analysis.checkSnippet submission.code with
      | error failure => exact .inl ⟨failure, .inr ⟨submission.code, hsubmission, hcheck⟩⟩
      | ok user => exact .inr ⟨submission.code, user, hsubmission, hcheck⟩

/-- It is not both. -/
theorem Accepts.not_refuses {service : Service} {r : Request} {code user : String}
    {failure : Failure} (h : service.Accepts r code user) : ¬ service.Refuses r failure := by
  rintro (hsubmission | ⟨other, hsubmission, hcheck⟩)
  · rw [h.submission_eq] at hsubmission
    nomatch hsubmission
  · rw [h.submission_eq] at hsubmission
    obtain rfl : code = other := congrArg Submission.code (Except.ok.inj hsubmission)
    rw [h.checkSnippet_eq] at hcheck
    nomatch hcheck

/-- What is accepted is determined by the request. -/
theorem Accepts.user_unique {service : Service} {r : Request} {code code' user user' : String}
    (h : service.Accepts r code user) (h' : service.Accepts r code' user') : user = user' := by
  have hcode := h.submission_eq.symm.trans h'.submission_eq
  obtain rfl : code = code' := congrArg Submission.code (Except.ok.inj hcode)
  exact Except.ok.inj (h.checkSnippet_eq.symm.trans h'.checkSnippet_eq)

/-! ## Responses -/

section

variable {service : Service} {r : Request} (line : Line)

/-- Any other request is answered locally. -/
theorem respond_of_not_addresses (h : ¬ service.Addresses r) :
    service.respond r line =
      ⟨service.answerLocally r.method (service.route? r.path), [], line⟩ := by
  rw [respond, if_neg]
  rintro ⟨hroute, hmethod⟩
  exact h ⟨hmethod, (service.route?_eq_analysis_iff r.path).mp hroute⟩

/-- A request that addresses the analysis is answered by it. -/
theorem Addresses.respond_eq (h : service.Addresses r) :
    service.respond r line = service.analysis r line := by
  rw [respond, if_pos ⟨(service.route?_eq_analysis_iff r.path).mpr h.path_eq, h.method_eq⟩]

/-- A refused snippet is answered with its failure. -/
theorem Addresses.respond_of_refuses {failure : Failure} (haddresses : service.Addresses r)
    (h : service.Refuses r failure) : service.respond r line = reportFailure failure [] line := by
  rw [haddresses.respond_eq line, analysis]
  obtain hsubmission | ⟨code, hsubmission, hcheck⟩ := h
  · rw [hsubmission]
  · rw [hsubmission]
    simp only [analyze_of_error hcheck, Dialogue.run_done]
    rfl

/-- An accepted snippet is analysed. -/
theorem Addresses.respond_of_accepts {code user : String} (haddresses : service.Addresses r)
    (h : service.Accepts r code user) :
    service.respond r line = ofTranscript
      ((analyze service.settings.analysis code).run service.provider.client line) := by
  rw [haddresses.respond_eq line, analysis, h.submission_eq]

/-- The line after an analysis is the one that its run left. -/
theorem line_ofTranscript (t : Transcript (Except Failure Analysis) Line) :
    (ofTranscript t).line = t.state := by
  rw [ofTranscript]
  split <;> rfl

end

end Service

end AnalysisGateway.Http
