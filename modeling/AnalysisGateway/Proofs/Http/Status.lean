import AnalysisGateway.Proofs.Flow.Transcript
import AnalysisGateway.Proofs.Http.Body
import AnalysisGateway.Proofs.Http.Responds
import AnalysisGateway.Proofs.Provider.Failing

/-!
# The statuses of analyses

The status of a response to an analysis request follows from how the analysis ended, and so from
what became of its calls. Every status is one that the documentation lists for the endpoint: a JSON
analysis collapses the failures that it does not list. For Markdown, only the first call can time
out with an effect: whatever becomes of the second one, a first text is served, unless it is empty.
-/

namespace AnalysisGateway

/-! ## Failures -/

/-- The statuses of failures. -/
theorem Failure.status_mem (failure : Failure) : failure.status ∈ [400, 413, 500, 502, 504] := by
  cases failure <;> simp [status]

/-- The statuses of collapsed failures. -/
theorem Failure.status_collapsed_mem (failure : Failure) :
    failure.collapsed.status ∈ [400, 413, 500] := by
  cases failure <;> simp [collapsed, isOfProvider, status]

/-- Only a timeout of the provider is reported as one. -/
theorem Failure.status_eq_504_iff (failure : Failure) :
    failure.status = 504 ↔ failure = .providerTimeout := by
  cases failure <;> simp [status]

/-- Only what is too large is reported as that. -/
theorem Failure.status_eq_413_iff (failure : Failure) :
    failure.status = 413 ↔ ∃ text, failure = .payloadTooLarge text := by
  cases failure <;> simp [status]

namespace Http

/-- The statuses that the documentation lists for a path. -/
def Documentation.statuses (path : String) : List Nat :=
  (operations.filter (·.path == path)).flatMap fun o => o.answers.map (·.status)

/-- The statuses that it lists for the endpoint of a format. -/
theorem Documentation.statuses_endpoint (f : Format) :
    statuses f.endpoint =
      match f with
      | .markdown => [200, 400, 413, 500, 502, 504]
      | .json => [200, 400, 413, 500] := by
  cases f <;> rfl

/-! ## Endings -/

/-- The status that an ending is reported with. -/
def statusOf : Ending (Except Failure Analysis) → Nat
  | .finished (.ok _) => 200
  | .finished (.error failure) => failure.status
  | .crashed _ => crashFailure.status

@[simp] theorem statusOf_crashed (detail : String) : statusOf (.crashed detail) = 500 := rfl

theorem status_ofTranscript (t : Transcript (Except Failure Analysis) Line) :
    (ofTranscript t).response.status = statusOf t.ending := by
  rw [ofTranscript]
  split <;> next hending => rw [hending]; rfl

/-- No ending of a JSON analysis has another status than those listed. -/
theorem statusOf_report_mem (first second : Completion) :
    statusOf (Format.ending first second .json) ∈ [200, 400, 413, 500] := by
  cases first with
  | crashed detail => simp [Format.ending, reportEnding, Ending.map]
  | failed failure => exact List.mem_cons_of_mem _ failure.status_collapsed_mem
  | text text =>
      by_cases hempty : text = ""
      · subst hempty
        simp [Format.ending, reportEnding, reportResult, Ending.map, Except.map, statusOf,
          Failure.status]
      · obtain ⟨report, hreport⟩ := exists_reportResult_eq_ok hempty
        simp [Format.ending, reportEnding, hreport, Ending.map, Except.map, statusOf]

/-- Nor has any ending of an analysis at all. -/
theorem statusOf_mem (e : Ending (Except Failure Analysis)) :
    statusOf e ∈ [200, 400, 413, 500, 502, 504] := by
  cases e with
  | crashed detail => simp
  | finished result =>
      cases result with
      | ok a => exact List.mem_cons_self
      | error failure => exact List.mem_cons_of_mem _ failure.status_mem

/-- A first text of a Markdown analysis that counts after all is served, unless it is empty. -/
theorem statusOf_kept (text : String) :
    statusOf ((Ending.finished (Markdown.kept text)).map fun r => r.map .document) =
      if text = "" then 502 else 200 := by
  rw [Markdown.kept]
  split <;> rfl

/-- **What a Markdown analysis is reported with after a first text** depends on the text alone: it
is served, unless it is empty and there is no other text with all headings. -/
theorem statusOf_document_of_text {first : String} {second : Completion}
    (hsecond : ∀ detail, second ≠ .crashed detail) :
    let status := statusOf (Format.ending (.text first) second .markdown)
    (status = 200 ∨ status = 502) ∧
      (status = 502 ↔ first = "" ∧ ∀ other, second = .text other → ¬ HasHeadings other) := by
  intro status
  by_cases hfirst : HasHeadings first
  · have hstatus : status = 200 := by
      simp only [status, Format.ending, Markdown.ending, if_pos hfirst]
      rfl
    rw [hstatus]
    exact ⟨.inl rfl, iff_of_false (by decide) fun hboth => hfirst.ne_empty hboth.1⟩
  · have hkept (h : ∀ other, second = .text other → ¬ HasHeadings other)
        (hstatus : status = if first = "" then 502 else 200) :
        (status = 200 ∨ status = 502) ∧
          (status = 502 ↔ first = "" ∧ ∀ other, second = .text other → ¬ HasHeadings other) := by
      rw [hstatus]
      split
      · next hempty => exact ⟨.inr rfl, iff_of_true rfl ⟨hempty, h⟩⟩
      · next hempty => exact ⟨.inl rfl, iff_of_false (by decide) fun hboth => hempty hboth.1⟩
    cases second with
    | crashed detail => exact absurd rfl (hsecond detail)
    | failed failure =>
        refine hkept (fun other h => by contradiction) ?_
        simp only [status, Format.ending, Markdown.ending, if_neg hfirst, Markdown.retryEnding]
        exact statusOf_kept first
    | text other =>
        by_cases hother : HasHeadings other
        · have hstatus : status = 200 := by
            simp only [status, Format.ending, Markdown.ending, if_neg hfirst, Markdown.retryEnding,
              if_pos hother]
            rfl
          rw [hstatus]
          exact ⟨.inl rfl, iff_of_false (by decide) fun hboth => hboth.2 other rfl hother⟩
        · refine hkept (fun other' h => by cases h; exact hother) ?_
          simp only [status, Format.ending, Markdown.ending, if_neg hfirst, Markdown.retryEnding,
            if_neg hother]
          exact statusOf_kept first

/-- A Markdown analysis is reported as a timeout exactly if its first call timed out. -/
theorem statusOf_document_eq_504_iff {first second : Completion}
    (hsecond : ∀ text, first = .text text → ∀ detail, second ≠ .crashed detail) :
    statusOf (Format.ending first second .markdown) = 504 ↔ first = .failed .providerTimeout := by
  cases first with
  | crashed detail => simp [Format.ending, Markdown.ending, Ending.map]
  | failed failure =>
      rw [Completion.failed.injEq]
      exact failure.status_eq_504_iff
  | text text =>
      refine iff_of_false (fun hstatus => ?_) Completion.noConfusion
      have hserved := (@statusOf_document_of_text text second (hsecond text rfl)).1
      rw [hstatus] at hserved
      revert hserved
      decide

/-! ## Responses -/

namespace Service

variable {service : Service} {r : Request} {line : Line}

/-- The status of a refusal is not a timeout. -/
theorem Refuses.status_mem {failure : Failure} (h : service.Refuses r failure) :
    failure.status ∈ [400, 413, 500] := by
  obtain ⟨text, rfl⟩ | ⟨text, rfl⟩ | ⟨-, text, rfl⟩ := h.cases <;> simp [Failure.status]

/-- The status of an accepted snippet follows from what became of its calls. -/
theorem Addresses.status_respond {code user : String} (haddresses : service.Addresses r)
    (h : service.Accepts r code user) :
    let a := service.provider.client (service.settings.analysis.format.firstCall code) line
    (service.respond r line).response.status =
      statusOf (service.settings.analysis.format.ending a.completion
        (service.provider.client ⟨.markdownRetry, user⟩ a.state).completion) := by
  rw [haddresses.respond_of_accepts line h, status_ofTranscript,
    ending_run_analyze service.provider.client h.checkSnippet_eq]

/-- The status of a refused snippet is that of its failure. -/
theorem Addresses.status_respond_of_refuses {failure : Failure}
    (haddresses : service.Addresses r) (h : service.Refuses r failure) :
    (service.respond r line).response.status = failure.status := by
  rw [haddresses.respond_of_refuses line h]
  rfl

/-- The status of an analysis request is one that the documentation lists. -/
theorem Addresses.status_mem (haddresses : service.Addresses r) :
    (service.respond r line).response.status ∈
      Documentation.statuses service.settings.analysis.format.endpoint := by
  rw [Documentation.statuses_endpoint]
  obtain ⟨failure, hrefuses⟩ | ⟨code, user, haccepts⟩ := service.refuses_or_accepts r
  · have hmem := hrefuses.status_mem
    rw [haddresses.status_respond_of_refuses hrefuses]
    cases service.settings.analysis.format with
    | markdown => exact (show [400, 413, 500] ⊆ [200, 400, 413, 500, 502, 504] by decide) hmem
    | json => exact List.mem_cons_of_mem _ hmem
  · rw [haddresses.status_respond haccepts]
    cases service.settings.analysis.format with
    | markdown => exact statusOf_mem _
    | json => exact statusOf_report_mem _ _

section

variable (hformat : service.settings.analysis.format = .markdown)

include hformat

/-- The status of an accepted Markdown snippet follows from what became of its two calls. -/
theorem Addresses.status_respond_markdown {code user : String} (haddresses : service.Addresses r)
    (h : service.Accepts r code user) :
    let a := service.provider.client ⟨.markdown, user⟩ line
    (service.respond r line).response.status =
      statusOf (Format.ending a.completion
        (service.provider.client ⟨.markdownRetry, user⟩ a.state).completion .markdown) := by
  obtain rfl := service.settings.analysis.checkSnippet_eq_trimmed h.checkSnippet_eq
  have hstatus : (service.respond r line).response.status = _ := haddresses.status_respond h
  rwa [hformat] at hstatus

/-- It is 504 exactly if the snippet is accepted, and its first call times out. -/
theorem Addresses.status_eq_504_iff (haddresses : service.Addresses r) :
    (service.respond r line).response.status = 504 ↔
      ∃ code user, service.Accepts r code user ∧
        (service.provider.client ⟨.markdown, user⟩ line).completion = .failed .providerTimeout := by
  obtain ⟨failure, hrefuses⟩ | ⟨code, user, haccepts⟩ := service.refuses_or_accepts r
  · refine iff_of_false (fun h => ?_) fun ⟨code, user, haccepts, _⟩ =>
      haccepts.not_refuses hrefuses
    have hmem := hrefuses.status_mem
    rw [← haddresses.status_respond_of_refuses hrefuses, h] at hmem
    revert hmem
    decide
  · rw [haddresses.status_respond_markdown hformat haccepts, statusOf_document_eq_504_iff
      fun text htext detail => Provider.completion_ne_crashed htext]
    refine ⟨fun h => ⟨code, user, haccepts, h⟩, fun ⟨code', user', haccepts', h⟩ => ?_⟩
    rwa [haccepts.user_unique haccepts']

end

/-- **Every analysis request is answered with a status that is documented** for its endpoint. For
Markdown the status is 504 exactly if the snippet is accepted, a request can be sent, and the first
call gets no answer in time. After a first text it is 200, or 502 if that text is empty and there is
no other one with all headings, whatever becomes of the second call. -/
theorem status_respond_documented (s : Settings) (r : Request) (line : Line)
    (haddresses : (ofSettings s).Addresses r) :
    let service := ofSettings s
    let status := (service.respond r line).response.status
    status ∈ Documentation.statuses s.analysis.format.endpoint ∧
    Documentation.statuses s.analysis.format.endpoint =
      (match s.analysis.format with
      | .markdown => [200, 400, 413, 500, 502, 504]
      | .json => [200, 400, 413, 500]) ∧
    (s.analysis.format = .markdown →
      (status = 504 ↔ (∃ code user, service.Accepts r code user) ∧
        ∃ key url, s.provider.CanSend key url ∧
          (s.provider.timeout = 0 ∨ line.IsSilent url)) ∧
      ∀ code user first, service.Accepts r code user →
        let a := service.provider.client ⟨.markdown, user⟩ line
        let b := service.provider.client ⟨.markdownRetry, user⟩ a.state
        a.completion = .text first →
          (status = 200 ∨ status = 502) ∧
          (status = 502 ↔
            first = "" ∧ ∀ other, b.completion = .text other → ¬ HasHeadings other)) := by
  intro service status
  refine ⟨haddresses.status_mem, Documentation.statuses_endpoint s.analysis.format,
    fun hformat => ⟨?_, ?_⟩⟩
  · rw [haddresses.status_eq_504_iff hformat]
    constructor
    · rintro ⟨code, user, haccepts, htimeout⟩
      exact ⟨⟨code, user, haccepts⟩, Provider.completion_eq_timeout_iff.mp htimeout⟩
    · rintro ⟨⟨code, user, haccepts⟩, htimeout⟩
      exact ⟨code, user, haccepts, Provider.completion_eq_timeout_iff.mpr htimeout⟩
  · intro code user first haccepts a b hfirst
    have hstatus : status = statusOf (Format.ending a.completion b.completion .markdown) :=
      haddresses.status_respond_markdown hformat haccepts
    rw [hstatus, hfirst]
    exact statusOf_document_of_text fun detail => Provider.completion_ne_crashed hfirst

set_option maxRecDepth 4096 in
/-- A snippet that a Markdown deployment accepts, and whose first call is not answered. -/
theorem status_respond_documented_silence :
    let s : Settings :=
      ⟨⟨"h", 80, 100⟩, ⟨.markdown, 1, 9⟩, ⟨some "key", "http://h/v1/", "m", 0, none, 5⟩⟩
    let r : Request := ⟨"POST", "/analyze-code",
      [("Content-Type", Text.toBytes "application/json")],
      Text.encode (Json.writtenObject [("code", Json.writtenString "ab")]), false⟩
    (ofSettings s).Addresses r ∧
      ((ofSettings s).respond r ⟨true, [.silence], [], false⟩).response.status = 504 := by
  intro s r
  have hsubmits : r.Submits s "ab" :=
    Request.submits_of_written rfl (by decide) (by decide +kernel) (by decide) rfl rfl
  have haddresses : (ofSettings s).Addresses r := ⟨hsubmits.method_eq, hsubmits.path_eq⟩
  have haccepts : (ofSettings s).Accepts r "ab" "ab" :=
    ⟨hsubmits.submission_eq, show s.analysis.checkSnippet "ab" = .ok "ab" by decide⟩
  let url : Url :=
    ⟨"http".toList, .absent, some (.name ['h']), none, "/v1/chat/completions".toList, none, none⟩
  have hsend : s.provider.CanSend "key" url := ⟨rfl, by decide, by decide, by decide⟩
  have hsilent : Line.IsSilent ⟨true, [.silence], [], false⟩ url := ⟨by decide, rfl⟩
  obtain ⟨-, -, hmarkdown⟩ := status_respond_documented s r ⟨true, [.silence], [], false⟩ haddresses
  exact ⟨haddresses,
    (hmarkdown rfl).1.mpr ⟨⟨"ab", "ab", haccepts⟩, "key", url, hsend, .inr hsilent⟩⟩

end Service

end Http

end AnalysisGateway
