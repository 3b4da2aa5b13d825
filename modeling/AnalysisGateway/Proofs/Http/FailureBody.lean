import AnalysisGateway.Proofs.Http.Responds
import AnalysisGateway.Proofs.Json.Record
import AnalysisGateway.Proofs.Json.Writer

/-!
# The bodies of failures

A failure is reported by its message and its status, as an object of two members. Every analysis
request that has no result is answered so, also when its handler breaks off. What is not found, and
a method that is not known, are answered with an empty body: only analysis requests are reported.
-/

namespace AnalysisGateway.Http

open Json

namespace Response

/-- A response of success. -/
def Succeeds (response : Response) : Prop := 200 ≤ response.status ∧ response.status < 300

/-- A response that tells of a failure: its body is a JSON object of two members, the message and
the status. -/
structure Tells (response : Response) (text : String) : Prop where
  contentType_mem : ("content-type", "application/json") ∈ response.headers
  readWhole_eq : readWhole (readValue greatestDepth) (Text.encode response.body) =
    .ok (.object [("error", .text text), ("code", .number (.natural response.status))])

/-- Further headers do not matter. -/
theorem Tells.withHeaders {response : Response} {text : String} (h : response.Tells text)
    (headers : List (String × String)) : (response.withHeaders headers).Tells text :=
  ⟨List.mem_append_left headers h.contentType_mem, h.readWhole_eq⟩

/-- Responses with the same body tell of the same. -/
theorem Tells.text_unique {response response' : Response} {text text' : String}
    (h : response.Tells text) (h' : response'.Tells text')
    (hbody : response.body = response'.body) :
    text = text' := by
  have hread := h'.readWhole_eq
  rw [← hbody, h.readWhole_eq] at hread
  simp only [Except.ok.injEq, Value.object.injEq, List.cons.injEq, Prod.mk.injEq,
    Value.text.injEq] at hread
  exact hread.1.2

/-- An empty body tells of nothing. -/
theorem not_tells_of_body_eq_nil {response : Response} (h : response.body = []) (text : String) :
    ¬ response.Tells text := fun htells => by
  have hread := htells.readWhole_eq
  rw [h] at hread
  nomatch hread

/-- The response that reports a failure tells of it. -/
theorem tells_ofFailure (f : Failure) : (ofFailure f).Tells f.message := by
  have hstatus : f.status < 2 ^ 64 := by cases f <;> simp [Failure.status]
  have hspells : Spells greatestDepth
      (.object [("error", .text f.message), ("code", .number (.natural f.status))])
      (failureBody f) :=
    .object (elements_writtenMembers (.cons ⟨rfl, spells_writtenString 126 f.message⟩
      (.cons ⟨rfl, spells_writtenNatural 126 hstatus⟩ .nil)))
  exact ⟨List.mem_singleton_self _, (accepts_readValue _).readWhole_encode hspells⟩

end Response

/-- A reported failure is told of. -/
theorem tells_reportFailure (f : Failure) (events : List Event) (line : Line) :
    (reportFailure f events line).response.Tells f.message :=
  ((Response.tells_ofFailure f).withHeaders _).withHeaders originHeaders

/-- So is a handler that broke off. -/
theorem tells_reportCrash (detail : String) (events : List Event) (line : Line) :
    (reportCrash detail events line).response.Tells crashFailure.message :=
  (Response.tells_ofFailure crashFailure).withHeaders _

/-- The response to an analysis has a result, or tells of a failure. -/
theorem succeeds_or_tells_ofTranscript (t : Transcript (Except Failure Analysis) Line) :
    (ofTranscript t).response.Succeeds ∨ ∃ text, (ofTranscript t).response.Tells text := by
  rw [ofTranscript]
  split
  · exact .inl (show 200 ≤ 200 ∧ 200 < 300 by decide)
  · exact .inr ⟨_, tells_reportFailure ..⟩
  · exact .inr ⟨_, tells_reportCrash ..⟩

namespace Service

variable {service : Service} {r : Request} {line : Line}

/-- The response to an analysis request has a result, or tells of a failure. -/
theorem Addresses.succeeds_or_tells (h : service.Addresses r) :
    (service.respond r line).response.Succeeds ∨
      ∃ text, (service.respond r line).response.Tells text := by
  obtain ⟨failure, hrefuses⟩ | ⟨code, user, haccepts⟩ := service.refuses_or_accepts r
  · rw [h.respond_of_refuses line hrefuses]
    exact .inr ⟨_, tells_reportFailure ..⟩
  · rw [h.respond_of_accepts line haccepts]
    exact succeeds_or_tells_ofTranscript _

/-- A method that is known at a path: one of the route's, or the one that is known everywhere. -/
def Knows (service : Service) (path method : String) : Prop :=
  method = "OPTIONS" ∨ ∃ route, service.route? path = some route ∧ method ∈ route.methods

/-- What is not asked of the provider is answered if the method is known. Otherwise nothing is told,
and the status says whether it is the path that is unknown. -/
theorem cases_answerLocally (service : Service) (path method : String) :
    let response := service.answerLocally method (service.route? path)
    response.status = 200 ∧ service.Knows path method ∨
      response.status = (if service.route? path = none then 404 else 405) ∧
        response.body = [] ∧ ¬ service.Knows path method := by
  intro response
  by_cases hoptions : method = "OPTIONS"
  · refine .inl ⟨?_, .inl hoptions⟩
    simp only [response, answerLocally, if_pos hoptions]
    split <;> rfl
  cases hroute : service.route? path with
  | none =>
      have hresponse : response = (Response.empty 404).withHeaders originHeaders := by
        simp only [response, hroute, answerLocally, if_neg hoptions]
      rw [hresponse]
      exact .inr ⟨rfl, rfl, by simp [Knows, hoptions, hroute]⟩
  | some route =>
      by_cases hmethod : method ∈ route.methods
      · refine .inl ⟨?_, .inr ⟨route, hroute, hmethod⟩⟩
        have hreading : (service.reading route).status = 200 := by cases route <;> rfl
        simp only [response, hroute, answerLocally, if_neg hoptions,
          if_pos (List.contains_iff_mem.mpr hmethod)]
        split <;> exact hreading
      · have hcontains : route.methods.contains method ≠ true := fun h =>
          hmethod (List.contains_iff_mem.mp h)
        have hresponse : response =
            (Response.empty 405).measured.withHeaders (route.allow :: originHeaders) := by
          simp only [response, hroute, answerLocally, if_neg hoptions, if_neg hcontains]
        rw [hresponse]
        exact .inr ⟨rfl, rfl, by simp [Knows, hoptions, hroute, hmethod]⟩

/-- **Which failures are told of**: those of requests that address the analysis. Any other request
fails if its method is not known at its path, and then the body is empty, and the status says
whether it is the path that is unknown. -/
theorem tells_respond_iff_addresses (s : Settings) (r : Request) (line : Line) :
    let service := ofSettings s
    let response := (service.respond r line).response
    (¬ response.Succeeds → ((∃ text, response.Tells text) ↔ service.Addresses r)) ∧
    (¬ service.Addresses r →
      (response.Succeeds ↔ service.Knows r.path r.method) ∧
      (¬ response.Succeeds → response.body = [] ∧
        response.status = if service.route? r.path = none then 404 else 405)) := by
  intro service response
  by_cases haddresses : service.Addresses r
  · have htells : response.Succeeds ∨ ∃ text, response.Tells text := haddresses.succeeds_or_tells
    exact ⟨fun hfails => iff_of_true (htells.resolve_left hfails) haddresses,
      fun hother => absurd haddresses hother⟩
  have hresponse : response = service.answerLocally r.method (service.route? r.path) :=
    congrArg Exchange.response (respond_of_not_addresses line haddresses)
  obtain ⟨hstatus, hknows⟩ | ⟨hstatus, hbody, hknows⟩ := service.cases_answerLocally r.path r.method
  · have hsucceeds : response.Succeeds := by
      rw [Response.Succeeds, hresponse, hstatus]
      decide
    exact ⟨fun hfails => absurd hsucceeds hfails,
      fun _ => ⟨iff_of_true hsucceeds hknows, fun hfails => absurd hsucceeds hfails⟩⟩
  · have hfails : ¬ response.Succeeds := by
      rw [Response.Succeeds, hresponse, hstatus]
      split <;> decide
    rw [← hresponse] at hstatus hbody
    exact ⟨fun _ => iff_of_false
        (fun ⟨text, htells⟩ => Response.not_tells_of_body_eq_nil hbody text htells) haddresses,
      fun _ => ⟨iff_of_false hfails hknows, fun _ => ⟨hbody, hstatus⟩⟩⟩

/-- Not every failure is told of: a path that is not found is answered with an empty body. -/
theorem not_tells_unknown_path :
    ¬ ∀ (s : Settings) (r : Request) (line : Line),
      ¬ ((ofSettings s).respond r line).response.Succeeds →
        ∃ text, ((ofSettings s).respond r line).response.Tells text := by
  intro htells
  let s : Settings := (Settings.ofFormat (fun _ => none) .markdown).1
  let r : Request := ⟨"GET", "/nope", [], [], false⟩
  have hstatus : ((ofSettings s).respond r ⟨true, [], [], false⟩).response.status = 404 := by decide
  have hbody : ((ofSettings s).respond r ⟨true, [], [], false⟩).response.body = [] := by decide
  obtain ⟨text, htext⟩ := htells s r ⟨true, [], [], false⟩ (by
    rw [Response.Succeeds, hstatus]
    decide)
  exact Response.not_tells_of_body_eq_nil hbody text htext

end Service

end AnalysisGateway.Http
