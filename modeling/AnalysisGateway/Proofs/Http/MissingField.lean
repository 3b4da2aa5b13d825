import AnalysisGateway.Proofs.Answer.Written
import AnalysisGateway.Proofs.Http.Discretion
import AnalysisGateway.Proofs.Http.FailureBody
import AnalysisGateway.Proofs.Http.Wording

/-!
# Who is told of a missing field

A response tells of a missing field for one of three reasons: the body is an object without a
snippet; the body is a text that calls a field missing; or an accepted snippet has been analysed in
vain, and the failure is worded so. The first two are the client's fault and have the status 400,
the third one has another status.
-/

namespace AnalysisGateway.Http

/-- A closed text that does not begin so does not tell of a missing field. -/
theorem ne_missing {text : String}
    (h : "Missing required field: ".toList.isPrefixOf text.toList = false) (name : String) :
    text ≠ "Missing required field: " ++ name := by
  rintro rfl
  rw [String.toList_append, List.isPrefixOf_iff_prefix.mpr (List.prefix_append ..)] at h
  contradiction

/-! ## Refusals -/

/-- A submission is refused for a missing field only if its body gets read. -/
theorem Request.readable_of_submission {r : Request} {limit : Nat} {failure : Failure}
    {name : String} (h : r.submission limit = .error failure)
    (hmessage : failure.message = "Missing required field: " ++ name) :
    r.Readable limit ∧ Lacks r.body name := by
  cases Request.yields_iff.mpr h with
  | undeclared => exact (ne_missing (by decide) name hmessage).elim
  | tooLong => exact (ne_missing (by decide) name hmessage).elim
  | broken => exact (ne_missing (by decide) name hmessage).elim
  | read hreadable hread =>
      obtain ⟨text, rfl⟩ := exists_of_readSubmission_eq_error hread
      rw [show text = "Missing required field: " ++ name from hmessage] at hread
      exact ⟨hreadable, readSubmission_eq_iff.mp hread⟩

/-- A check of a snippet never fails for a missing field. -/
theorem message_ne_missing {settings : AnalysisSettings} {code : String} {failure : Failure}
    (h : settings.checkSnippet code = .error failure) (name : String) :
    failure.message ≠ "Missing required field: " ++ name := by
  cases AnalysisSettings.checks_iff.mpr h with
  | empty => exact ne_missing (by decide) name
  | tooShort =>
      rw [Failure.message, String.append_assoc]
      exact append_ne_missing rfl (by decide) _ name
  | tooLong =>
      rw [Failure.message, String.append_assoc]
      exact append_ne_missing rfl (by decide) _ name

/-! ## Responses -/

/-- A response with an analysis tells of no failure. -/
theorem Response.not_tells_written {response : Response} {a : Analysis}
    (h : response.body = a.written) (text : String) : ¬ response.Tells text := fun htells => by
  have hread := htells.readWhole_eq
  have hwritten := a.isReadFrom_written
  rw [h] at hread
  cases a with
  | report report =>
      have hmembers := hwritten.1.symm.trans hread
      simp [Report.members] at hmembers
  | document document =>
      have hmembers := hwritten.1.symm.trans hread
      simp [Document.members] at hmembers

namespace Service

variable {service : Service} {r : Request} {name : String}

/-- A refusal that tells of a missing field. -/
theorem Refuses.readable {failure : Failure} (h : service.Refuses r failure)
    (hmessage : failure.message = "Missing required field: " ++ name) :
    r.Readable service.settings.server.maxBodyBytes ∧ Lacks r.body name := by
  obtain hsubmission | ⟨code, -, hcheck⟩ := h
  · exact Request.readable_of_submission hsubmission hmessage
  · exact absurd hmessage (message_ne_missing hcheck name)

/-- It has the status 400. -/
theorem Addresses.tells_of_lacks (haddresses : service.Addresses r)
    (hreadable : r.Readable service.settings.server.maxBodyBytes) (hlacks : Lacks r.body name)
    (line : Line) : (service.respond r line).response.status = 400 ∧
      (service.respond r line).response.Tells ("Missing required field: " ++ name) := by
  have hrefuses : service.Refuses r (.validation ("Missing required field: " ++ name)) :=
    .inl (hreadable.submission_eq.trans (readSubmission_eq_iff.mpr hlacks))
  rw [haddresses.respond_of_refuses line hrefuses]
  exact ⟨rfl, tells_reportFailure ..⟩

/-- An analysis tells of a missing field only by the failure that it ended with. -/
theorem exists_failure_of_tells {t : Transcript (Except Failure Analysis) Line}
    (h : (ofTranscript t).response.Tells ("Missing required field: " ++ name)) :
    ∃ failure, t.ending = .finished (.error failure) ∧
      failure.message = "Missing required field: " ++ name := by
  rw [ofTranscript] at h
  split at h
  · next a _ => exact absurd h (Response.not_tells_written (a := a) rfl _)
  · next failure hending =>
    exact ⟨failure, hending, (tells_reportFailure ..).text_unique h rfl⟩
  · exact absurd ((tells_reportCrash ..).text_unique h rfl) (ne_missing (by decide) name)

end Service

/-- **Which requests are told of a missing field.** As a fault of the client's: those whose body is
an object without the snippet, and then it is the snippet that is missing, and those whose body is a
text that calls a field missing, and then it is this field. As any other failure: only those whose
snippet was accepted and analysed, and then the words are those of the failure that the analysis
ended with. -/
theorem Service.tells_missing_iff (service : Service) (r : Request) (line : Line) (name : String) :
    let response := (service.respond r line).response
    let text := "Missing required field: " ++ name
    (response.status = 400 ∧ response.Tells text ↔
      service.Addresses r ∧ r.Readable service.settings.server.maxBodyBytes ∧
        ((name = "code" ∧
            ∃ names rest, "code" ∉ names ∧ Json.ObjectForm names r.body rest) ∨
          ∃ t rest raw, Json.StringForm t r.body rest ∧ CallsMissing t.toList raw ∧
            name = String.ofList (raw.flatMap Text.quotedChar))) ∧
    (service.Addresses r → response.Tells text → response.status ≠ 400 →
      500 ≤ response.status ∧ ∃ code user failure, service.Accepts r code user ∧
        ((analyze service.settings.analysis code).run service.provider.client line).ending =
          .finished (.error failure) ∧
        failure.message = text) := by
  intro response text
  have hrefused {failure : Failure} (haddresses : service.Addresses r)
      (hrefuses : service.Refuses r failure) (htells : response.Tells text) :
      r.Readable service.settings.server.maxBodyBytes ∧ Lacks r.body name := by
    have hreport : response.Tells failure.message := by
      simp only [response, haddresses.respond_of_refuses line hrefuses]
      exact tells_reportFailure ..
    exact hrefuses.readable (hreport.text_unique htells rfl)
  refine ⟨⟨?_, ?_⟩, ?_⟩
  · rintro ⟨hstatus, htells⟩
    by_cases haddresses : service.Addresses r
    · obtain ⟨failure, hrefuses⟩ | ⟨code, user, haccepts⟩ := service.refuses_or_accepts r
      · exact ⟨haddresses, hrefused haddresses hrefuses htells⟩
      · have hserved : response.status = 200 ∨ 500 ≤ response.status :=
          haddresses.status_of_accepts haccepts line
        omega
    · -- No local answer has the status 400: it is a success, or the method or the path is unknown.
      simp only [response, respond_of_not_addresses line haddresses] at hstatus
      obtain ⟨hlocal, -⟩ | ⟨hlocal, -⟩ := service.cases_answerLocally r.path r.method
      · exact absurd (hlocal.symm.trans hstatus) (by decide)
      · have hunknown := hlocal.symm.trans hstatus
        split at hunknown <;> contradiction
  · rintro ⟨haddresses, hreadable, hlacks⟩
    exact haddresses.tells_of_lacks hreadable hlacks line
  · intro haddresses htells hstatus
    obtain ⟨failure, hrefuses⟩ | ⟨code, user, haccepts⟩ := service.refuses_or_accepts r
    · obtain ⟨hreadable, hlacks⟩ := hrefused haddresses hrefuses htells
      exact absurd (haddresses.tells_of_lacks hreadable hlacks line).1 hstatus
    · have hserved := haddresses.status_of_accepts haccepts line
      have hrespond := haddresses.respond_of_accepts line haccepts
      simp only [response, hrespond] at htells
      obtain ⟨failure, hending, hmessage⟩ := exists_failure_of_tells htells
      refine ⟨hserved.resolve_left fun hok => ?_, code, user, failure, haccepts, hending, hmessage⟩
      have hmem := failure.status_mem
      rw [hrespond, status_ofTranscript, hending] at hok
      rw [show failure.status = 200 from hok] at hmem
      exact absurd hmem (by decide)

/-- Not every body that is told to lack a field is an object, and the field need not be the
snippet: a text is quoted in the message that is searched. -/
theorem Service.not_forall_missing_code :
    ¬ ∀ (s : Settings) (r : Request) (line : Line) (name : String),
      (ofSettings s).Addresses r →
        ((ofSettings s).respond r line).response.Tells ("Missing required field: " ++ name) →
          name = "code" ∧ ∃ names rest, "code" ∉ names ∧ Json.ObjectForm names r.body rest := by
  intro hclaim
  let s : Settings := (Settings.ofFormat (fun _ => none) .markdown).1
  let body := Text.toBytes "\"missing field \x60x\x60\""
  let r : Request := ⟨"POST", "/analyze-code",
    [("Content-Type", Text.toBytes "application/json")], body, false⟩
  have haddresses : (ofSettings s).Addresses r := ⟨rfl, by decide⟩
  have hreadable : r.Readable s.server.maxBodyBytes := ⟨by decide +kernel, by decide, rfl⟩
  have htext : Json.StringForm "missing field \x60x\x60" body [] :=
    Json.readText_eq_ok_iff.mp (by decide +kernel)
  have hcalls : CallsMissing "missing field \x60x\x60".toList ['x'] :=
    missingField?_eq_some_iff.mp (by decide)
  have hlacks : Lacks body "x" := .inr ⟨_, _, _, htext, hcalls, by decide⟩
  have htells := (haddresses.tells_of_lacks hreadable hlacks ⟨true, [], [], false⟩).2
  exact absurd (hclaim s r _ "x" haddresses htells).1 (by decide)

end AnalysisGateway.Http
