import AnalysisGateway.Proofs.Flow.Transcript
import AnalysisGateway.Proofs.Http.Body
import AnalysisGateway.Proofs.Http.History
import AnalysisGateway.Proofs.Provider.Preview

/-!
# How much of an error a request logs

The preview of a call is within its bound in every history (`previewsAtMost_respondAll`). But the
analysis and the response log a failed call once more, and with the whole text of the failure: the
bound holds for the log of such a request exactly if the text itself is no longer
(`quotesAtMost_iff_of_failsCall`).
-/

namespace AnalysisGateway.Http.Service

variable {service : Service} {r : Request} {code user : String} {line : Line}

/-- A call of an analysis fails with a text: the first one, or the second one of a Markdown
analysis, after a first text without all headings. -/
inductive FailsCall (service : Service) (code user : String) (line : Line) (failing : String) :
    Prop where
  | first
      (h : (service.provider.client (service.settings.analysis.format.firstCall code)
        line).FailsWith failing)
  | second {text : String} (hformat : service.settings.analysis.format = .markdown)
      (hfirst : (service.provider.client ⟨.markdown, user⟩ line).completion = .text text)
      (hheadings : ¬ HasHeadings text)
      (h : (service.provider.client ⟨.markdownRetry, user⟩
        (service.provider.client ⟨.markdown, user⟩ line).state).FailsWith failing)

/-- A failure of the service is logged as such. -/
theorem eq_of_mem_failureEvents {f : Failure} {event : Event} (h : event ∈ failureEvents f) :
    event = .requestFailed f := by
  rw [failureEvents] at h
  split at h
  · exact List.mem_singleton.mp h
  · nomatch h

/-- The events of a response begin with those of its analysis. -/
theorem prefix_events_ofTranscript (t : Transcript (Except Failure Analysis) Line) :
    t.events <+: (ofTranscript t).events := by
  rw [ofTranscript]
  split
  · exact List.prefix_rfl
  · exact List.prefix_append _ _
  · exact List.prefix_append _ _

/-- Behind them there is at most a failure of the service or a handler that broke off. -/
theorem cases_of_mem_events_ofTranscript {t : Transcript (Except Failure Analysis) Line}
    {event : Event} (h : event ∈ (ofTranscript t).events) :
    event ∈ t.events ∨ (∃ f, event = .requestFailed f) ∨
      ∃ detail, event = .handlerPanicked detail := by
  rw [ofTranscript] at h
  split at h
  · exact .inl h
  · exact (List.mem_append.mp h).imp id fun h => .inl ⟨_, eq_of_mem_failureEvents h⟩
  · obtain h | h := List.mem_append.mp h
    · exact .inl h
    obtain rfl | h := List.mem_cons.mp h
    · exact .inr (.inr ⟨_, rfl⟩)
    · exact .inr (.inl ⟨_, eq_of_mem_failureEvents h⟩)

/-- The previews of a response are within their bound. -/
theorem previewsAtMost_respond (service : Service) (r : Request) (line : Line) :
    ∀ event ∈ (service.respond r line).events, event.PreviewsAtMost Outcome.previewLength := by
  intro event hevent
  by_cases haddresses : service.Addresses r
  swap
  · rw [respond_of_not_addresses line haddresses] at hevent
    nomatch hevent
  obtain ⟨failure, hrefuses⟩ | ⟨code, user, haccepts⟩ := service.refuses_or_accepts r
  · rw [haddresses.respond_of_refuses line hrefuses, reportFailure, List.nil_append] at hevent
    rw [eq_of_mem_failureEvents hevent]
    trivial
  rw [haddresses.respond_of_accepts line haccepts] at hevent
  obtain hevent | ⟨f, rfl⟩ | ⟨detail, rfl⟩ := cases_of_mem_events_ofTranscript hevent
  · rw [events_run_analyze _ haccepts.checkSnippet_eq] at hevent
    obtain hfirst | hsecond | htarget := Format.mem_log hevent
    · exact (service.provider.ofCall_complete _ _ _ event hfirst).previewsAtMost
    · exact (service.provider.ofCall_complete _ _ _ event hsecond).previewsAtMost
    · cases event with
      | providerRefused kind code preview =>
          exact absurd htarget
            (show "codecomplexity::llm::api" ≠ "codecomplexity::analysis::service" by decide)
      | _ => trivial
  · trivial
  · trivial

/-- So are those of a history. -/
theorem previewsAtMost_respondAll (service : Service) (requests : List Request) (line : Line) :
    ∀ e ∈ service.respondAll requests line, ∀ event ∈ e.events,
      event.PreviewsAtMost Outcome.previewLength := by
  induction requests generalizing line with
  | nil => exact List.forall_mem_nil _
  | cons r requests ih =>
      intro e he
      obtain rfl | he := List.mem_cons.mp he
      · exact service.previewsAtMost_respond r line.quiet
      · exact ih _ e he

/-- The description of a failed call ends with its whole text. -/
theorem infix_describe (text : String) :
    text.toList <:+: (Failure.provider text).describe.toList := by
  have hdescribe : (Failure.provider text).describe = "Upstream API error: " ++ text := rfl
  rw [hdescribe, String.toList_append]
  exact (List.suffix_append _ _).isInfix

/-- What a call of an analysis has failed with is logged by the analysis, with its whole text. -/
theorem FailsCall.exists_mem_events {failing : String}
    (h : service.FailsCall code user line failing)
    (hcheck : service.settings.analysis.checkSnippet code = .ok user) :
    ∃ event ∈ ((analyze service.settings.analysis code).run service.provider.client line).events,
      event.level = .error ∧ (Failure.provider failing).describe ∈ event.texts := by
  rw [events_run_analyze _ hcheck]
  cases h with
  | first h =>
      rw [Answered.FailsWith] at h
      cases hformat : service.settings.analysis.format with
      | markdown =>
          rw [hformat] at h
          refine ⟨.firstCallFailed (.provider failing), ?_, rfl, .tail _ (.head _)⟩
          rw [Format.log, Markdown.log, h]
          exact List.mem_append_right _ List.mem_cons_self
      | json =>
          rw [hformat] at h
          refine ⟨.callFailed (.provider failing), ?_, rfl, .tail _ (.head _)⟩
          rw [Format.log, h]
          exact List.mem_append_right _ List.mem_cons_self
  | @second text hformat hfirst hheadings h =>
      rw [Answered.FailsWith] at h
      obtain rfl := service.settings.analysis.checkSnippet_eq_trimmed hcheck
      refine ⟨.retryFailed (.provider failing), ?_, rfl, .tail _ (.head _)⟩
      rw [hformat, Format.firstCall, Format.log, Markdown.log, hfirst]
      simp only [if_neg hheadings, h]
      exact List.mem_append_right _ (.tail _ (List.mem_append_right _ List.mem_cons_self))

/-- **The log of a request whose call has failed quotes the text of the failure within a bound
exactly if the text is within it.** -/
theorem quotesAtMost_iff_of_failsCall (haddresses : service.Addresses r)
    (haccepts : service.Accepts r code user) {failing : String}
    (h : service.FailsCall code user line failing) (n : Nat) :
    (∀ event ∈ (service.respond r line).events, event.level = .error →
      event.QuotesAtMost n failing.toList) ↔ failing.length ≤ n := by
  rw [← String.length_toList]
  refine ⟨fun hquotes => ?_, fun hlength event _ _ => event.quotesAtMost_of_length_le hlength⟩
  obtain ⟨event, hevent, hlevel, hfield⟩ := h.exists_mem_events haccepts.checkSnippet_eq
  have hrespond : event ∈ (service.respond r line).events := by
    rw [haddresses.respond_of_accepts line haccepts]
    exact (prefix_events_ofTranscript _).subset hevent
  exact (hquotes event hrespond hlevel).length_le hfield (infix_describe failing)

/-- **Previews are bounded, and nothing else is.** No call and no request logs a preview of more
than 300 characters, and an error event of a call quotes no text with more exactly if the kind and
the code of the error have no more. But where a call of an analysis fails with a text, the first one
or the second one, the error events of the response quote at most 300 characters of it exactly if it
has no more. For a status of the 500s the text is the whole body. -/
theorem previewsAtMost_and_quotesAtMost_iff (s : Settings) :
    let service := ofSettings s
    (∀ calls line, ∀ a ∈ service.provider.completeAll calls line, ∀ event ∈ a.events,
      event.PreviewsAtMost 300 ∧
        (event.level = .error → ((∀ text, event.QuotesAtMost 300 text) ↔ event.NamesAtMost 300))) ∧
    (∀ requests line, ∀ e ∈ service.respondAll requests line, ∀ event ∈ e.events,
      event.PreviewsAtMost 300) ∧
    (∀ r line code user failing, service.Addresses r → service.Accepts r code user →
      service.FailsCall code user line failing →
      ((∀ event ∈ (service.respond r line).events, event.level = .error →
        event.QuotesAtMost 300 failing.toList) ↔ failing.length ≤ 300)) ∧
    ∀ key url line status body call, s.provider.CanSend key url → s.provider.timeout ≠ 0 →
      line.takes url = true →
      line.replies.headD .closed = .answer status body true → 500 ≤ status → status < 600 →
      (service.provider.client call line).FailsWith (String.ofList (Text.decodeLossy body)) := by
  intro service
  refine ⟨?_, service.previewsAtMost_respondAll, ?_, ?_⟩
  · intro calls line a ha event hevent
    have hcall := service.provider.ofCall_completeAll calls line a ha event hevent
    exact ⟨hcall.previewsAtMost, hcall.quotesAtMost_iff⟩
  · intro r line code user failing haddresses haccepts hfails
    exact quotesAtMost_iff_of_failsCall haddresses haccepts hfails 300
  · intro key url line status body call hsend htimeout htakes hnext hlow hhigh
    exact Provider.failsWith_of_status hsend htimeout htakes hnext hlow hhigh call

set_option maxRecDepth 4096 in
/-- Not every error event is bounded: a body of 301 characters is logged whole. -/
theorem not_quotesAtMost_long_body :
    ¬ ∀ (s : Settings) (key : String) (requests : List Request) (line : Line) (status : Nat)
      (body : Bytes), s.provider.apiKey = some key → .answer status body true ∈ line.replies →
      500 ≤ status → status < 600 → ∀ e ∈ (ofSettings s).respondAll requests line,
        ∀ event ∈ e.events, event.level = .error →
          event.QuotesAtMost 300 (Text.decodeLossy body) := by
  intro hbounded
  let s : Settings :=
    ⟨⟨"h", 80, 100⟩, ⟨.markdown, 1, 9⟩, ⟨some "key", "http://h/v1/", "m", 0, none, 5⟩⟩
  let r : Request := ⟨"POST", "/analyze-code",
    [("Content-Type", Text.toBytes "application/json")],
    Text.encode (Json.writtenObject [("code", Json.writtenString "ab")]), false⟩
  let text := List.replicate 301 'x'
  let line : Line := ⟨true, [.answer 500 (Text.encode text) true], [], false⟩
  have hsubmits : r.Submits s "ab" :=
    Request.submits_of_written rfl (by decide) (by decide +kernel) (by decide) rfl rfl
  have haddresses : (ofSettings s).Addresses r := ⟨hsubmits.method_eq, hsubmits.path_eq⟩
  have haccepts : (ofSettings s).Accepts r "ab" "ab" :=
    ⟨hsubmits.submission_eq, show s.analysis.checkSnippet "ab" = .ok "ab" by decide⟩
  let url : Url :=
    ⟨"http".toList, .absent, some (.name ['h']), none, "/v1/chat/completions".toList, none, none⟩
  have hsend : s.provider.CanSend "key" url := ⟨rfl, by decide, by decide, by decide⟩
  have hfails : (ofSettings s).FailsCall "ab" "ab" line
      (String.ofList (Text.decodeLossy (Text.encode text))) :=
    .first (Provider.failsWith_of_status hsend (by decide) (by decide) rfl (by decide)
      (by decide) _)
  have hlength := (quotesAtMost_iff_of_failsCall haddresses haccepts hfails 300).mp
    fun event hevent hlevel => by
      have hquotes := hbounded s "key" [r] line 500 _ rfl List.mem_cons_self (by decide) (by decide)
        _ List.mem_cons_self event hevent hlevel
      rwa [String.toList_ofList]
  rw [String.length_ofList, Text.decodeLossy_encode, List.length_replicate] at hlength
  revert hlength
  decide

end AnalysisGateway.Http.Service
