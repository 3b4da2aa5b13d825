import AnalysisGateway.Proofs.Http.Responds
import AnalysisGateway.Proofs.Provider.Sends

/-!
# Histories

What one request does to the line decides what a whole history of them does. A request that does not
reach the provider leaves the line as it is, and its response says nothing of the line
(`exists_respond_eq`); any other one sends at most as many requests as its format has calls, and
takes one reply for each (`exists_line_respond`). By induction over the history, requests that do
not reach the provider can be left out anywhere, and no other response changes
(`respondAll_marked`).
-/

namespace AnalysisGateway.Http

/-! ## Marked items -/

/-- The items whose marks are set. -/
def marked {α : Type} (marks : List Bool) (items : List α) : List α :=
  ((items.zip marks).filter (·.2)).map (·.1)

section

variable {α : Type} (a : α) (marks : List Bool) (items : List α)

@[simp] theorem marked_nil_left : marked [] items = [] := by
  rw [marked, List.zip_nil_right]
  rfl

@[simp] theorem marked_nil_right : marked marks ([] : List α) = [] := rfl

@[simp] theorem marked_cons_true : marked (true :: marks) (a :: items) = a :: marked marks items :=
  rfl

@[simp] theorem marked_cons_false : marked (false :: marks) (a :: items) = marked marks items :=
  rfl

end

namespace Service

/-! ## One request -/

/-- A request that reaches the provider: there is one, and the request addresses the analysis with a
snippet that is accepted. -/
def Reaches (service : Service) (r : Request) : Prop :=
  service.provider.isAvailable = true ∧ service.Addresses r ∧
    ∃ code user, service.Accepts r code user

/-- The response of an analysis, and what is logged of it, say nothing of the line. -/
theorem exists_ofTranscript_eq (ending : Ending (Except Failure Analysis)) (calls : List Call)
    (events : List Event) :
    ∃ response reported, ∀ line,
      ofTranscript ⟨ending, calls, events, line⟩ = ⟨response, reported, line⟩ := by
  let e := ofTranscript ⟨ending, calls, events, ⟨false, [], [], false⟩⟩
  refine ⟨e.response, e.events, fun line => ?_⟩
  cases ending with
  | finished result => cases result <;> rfl
  | crashed detail => rfl

section

variable (service : Service) (r : Request)

/-- The response to a request that does not reach the provider says nothing of the line, and the
line stays as it is. -/
theorem exists_respond_eq (h : ¬ service.Reaches r) :
    ∃ response events, ∀ line, service.respond r line = ⟨response, events, line⟩ := by
  by_cases haddresses : service.Addresses r
  · obtain ⟨failure, hrefuses⟩ | ⟨code, user, haccepts⟩ := service.refuses_or_accepts r
    · exact ⟨_, _, fun line => haddresses.respond_of_refuses line hrefuses⟩
    cases hprovider : service.provider with
    | available p key =>
        exact absurd ⟨by rw [hprovider]; rfl, haddresses, code, user, haccepts⟩ h
    | unavailable reason =>
        obtain ⟨ending, calls, events, hrun⟩ :=
          (analyze service.settings.analysis code).exists_run_unavailable reason
        obtain ⟨response, reported, hreported⟩ := exists_ofTranscript_eq ending calls events
        refine ⟨response, reported, fun line => ?_⟩
        rw [haddresses.respond_of_accepts line haccepts, hprovider, hrun, hreported]
  · exact ⟨_, _, fun line => respond_of_not_addresses line haddresses⟩

/-- **The requests that a request leads to** are no more than its format has calls, and each of them
takes one reply. -/
theorem exists_line_respond (line : Line) :
    ∃ new, (service.respond r line).line = line.after new ∧
      new.length ≤ service.settings.analysis.format.maxCalls ∧
      (∀ sent ∈ new, service.provider.Signs sent) ∧ (new ≠ [] → service.Reaches r) := by
  by_cases hreaches : service.Reaches r
  · obtain ⟨-, haddresses, code, user, haccepts⟩ := id hreaches
    obtain ⟨new, hstate, hcalls, hsigns⟩ :=
      (analyze service.settings.analysis code).exists_state_run service.provider line
    have hbound := length_calls_run_analyze_le service.settings.analysis code
      service.provider.client line
    refine ⟨new, ?_, Nat.le_trans hcalls hbound, hsigns, fun _ => hreaches⟩
    rw [haddresses.respond_of_accepts line haccepts, line_ofTranscript, hstate]
  · obtain ⟨response, events, hrespond⟩ := service.exists_respond_eq r hreaches
    refine ⟨[], ?_, Nat.zero_le _, List.forall_mem_nil _, fun h => absurd rfl h⟩
    rw [hrespond, line.after_nil]

/-- The health of a service is told without the provider. -/
theorem respond_health (hmethod : r.method = "GET") (hpath : r.path = "/health") (line : Line) :
    service.respond r line =
      ⟨(Response.json 200 service.healthBody).measured.withHeaders originHeaders, [], line⟩ := by
  have hroute : service.route? "/health" = some .health := by
    rw [route?]
    cases service.settings.analysis.format <;> rfl
  have hother : ¬ service.Addresses r := fun haddresses => by
    have hget := hmethod.symm.trans haddresses.method_eq
    contradiction
  rw [respond_of_not_addresses line hother, hmethod, hpath, hroute]
  rfl

end

/-! ## Many requests -/

/-- The line that requests leave. -/
def lineAfter (service : Service) : List Request → Line → Line
  | [], line => line
  | r :: more, line => service.lineAfter more (service.respond r line.quiet).line

section

variable (service : Service)

/-- A history goes on where its beginning has left the line. -/
theorem respondAll_append (before after : List Request) (line : Line) :
    service.respondAll (before ++ after) line =
      service.respondAll before line ++
        service.respondAll after (service.lineAfter before line) := by
  induction before generalizing line with
  | nil => rfl
  | cons r before ih => simp only [List.cons_append, respondAll, lineAfter, ih]

/-- Requests of an earlier history are forgotten. -/
theorem respondAll_quiet (requests : List Request) (line : Line) :
    service.respondAll requests line.quiet = service.respondAll requests line := by
  cases requests with
  | nil => rfl
  | cons r more => rfl

/-- **Requests that do not reach the provider can be left out** anywhere in a history. -/
theorem respondAll_marked {marks : List Bool} {requests : List Request}
    (h : ∀ r, (r, false) ∈ requests.zip marks → ¬ service.Reaches r) (line : Line) :
    service.respondAll (marked marks requests) line =
      marked marks (service.respondAll requests line) := by
  induction requests generalizing marks line with
  | nil => simp [respondAll]
  | cons r requests ih =>
      cases marks with
      | nil => simp [respondAll]
      | cons mark marks =>
          have hrest : ∀ r', (r', false) ∈ requests.zip marks → ¬ service.Reaches r' :=
            fun r' hr' => h r' (List.mem_cons_of_mem _ hr')
          cases mark with
          | true => simp only [marked_cons_true, respondAll, ih hrest]
          | false =>
              obtain ⟨response, events, hrespond⟩ :=
                service.exists_respond_eq r (h r List.mem_cons_self)
              simp only [marked_cons_false, respondAll, hrespond, ← ih hrest, respondAll_quiet]

end

/-- **Histories are isolated from requests that do not reach the provider.**

1. A request, wherever it stands in a history, finds the line as the requests before it have left
   it. It takes as many replies as it sends requests: at most two for Markdown, one for JSON, and
   none unless it is a `POST` to the endpoint of the format with a snippet that is accepted, and
   there is a provider.
2. The health is told at every point of every history, and from the settings alone.
3. If some of the requests do not reach the provider, then without them the others have the same
   responses, the same events and the same requests to the provider. -/
theorem isolated_respondAll (s : Settings) :
    let service := ofSettings s
    (∀ before r after line,
      let e := service.respond r (service.lineAfter before line).quiet
      service.respondAll (before ++ r :: after) line =
        service.respondAll before line ++ e :: service.respondAll after e.line ∧
      e.line.replies = (service.lineAfter before line).replies.drop e.line.sent.length ∧
      e.line.sent.length ≤ s.analysis.format.maxCalls ∧
      (e.line.sent ≠ [] → service.Reaches r) ∧
      (r.method = "GET" → r.path = "/health" →
        e.response.status = 200 ∧ e.response.body = service.healthBody)) ∧
    ∀ marks requests line, (∀ r, (r, false) ∈ requests.zip marks → ¬ service.Reaches r) →
      service.respondAll (marked marks requests) line =
        marked marks (service.respondAll requests line) := by
  intro service
  refine ⟨?_, fun marks requests line h => service.respondAll_marked h line⟩
  intro before r after line e
  obtain ⟨new, hline, hbound, -, hreaches⟩ :=
    service.exists_line_respond r (service.lineAfter before line).quiet
  have hsent : e.line.sent = new := by
    rw [hline, Line.sent_after]
    rfl
  refine ⟨?_, ?_, ?_, ?_, ?_⟩
  · rw [respondAll_append, respondAll]
  · rw [hsent, hline]
    rfl
  · rwa [hsent]
  · rwa [hsent]
  · intro hmethod hpath
    have he : e = _ := service.respond_health r hmethod hpath _
    rw [he]
    exact ⟨rfl, rfl⟩

end Service

end AnalysisGateway.Http
