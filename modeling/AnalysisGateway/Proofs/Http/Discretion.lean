import AnalysisGateway.Proofs.Flow.Alike
import AnalysisGateway.Proofs.Http.Status

/-!
# Nothing of a snippet is logged

An analysis puts an accepted snippet into its calls and nowhere else, so the analyses of two of them
are alike but for the users' messages (`alike_analyze`). Run against the same outcomes, they report
the same events and have the same result. A refused snippet is not reported at all, and neither is a
request that is answered as the client's fault.
-/

namespace AnalysisGateway

/-! ## Accepted snippets -/

/-- Calls with the same instruction, whatever the user's message. -/
def Call.SameInstruction (call call' : Call) : Prop := call.instruction = call'.instruction

/-- A script does not look at the calls that it answers. -/
theorem scripted_alike (calls : Call → Call → Prop) : Client.Alike calls Eq scripted scripted := by
  rintro call call' script _ - rfl
  exact ⟨rfl, rfl, rfl⟩

section

open Dialogue

/-- A dialogue that gets no snippet is like itself. -/
theorem alike_self {α : Type} (d : Dialogue α) : d.Alike Call.SameInstruction d :=
  .refl (fun call => Eq.refl call.instruction) d

variable {settings : AnalysisSettings} {code code' user user' : String}
  (h : settings.checkSnippet code = .ok user) (h' : settings.checkSnippet code' = .ok user')

theorem alike_retryMarkdown (code code' first : String) :
    (retryMarkdown code first finishMarkdown).Alike Call.SameInstruction
      (retryMarkdown code' first finishMarkdown) :=
  .ask rfl fun _ => alike_self _

include h h'

theorem alike_analyzeMarkdown :
    (analyzeMarkdown settings code).Alike Call.SameInstruction
      (analyzeMarkdown settings code') := by
  simp only [analyzeMarkdown, h, h']
  refine .ask rfl fun outcome => ?_
  cases outcome with
  | error failure => exact alike_self _
  | ok first =>
      simp only
      cases checkMarkdown first with
      | ok text => exact alike_self _
      | error flaw => exact .report _ (alike_retryMarkdown user user' first)

theorem alike_analyzeJson :
    (analyzeJson settings code).Alike Call.SameInstruction (analyzeJson settings code') := by
  simp only [analyzeJson, h, h']
  exact .ask rfl fun _ => alike_self _

/-- **The analyses of accepted snippets are alike** but for the users' messages. -/
theorem alike_analyze :
    (analyze settings code).Alike Call.SameInstruction (analyze settings code') := by
  rw [analyze, analyze]
  cases settings.format with
  | markdown => exact (alike_analyzeMarkdown h h').map _
  | json => exact (alike_analyzeJson h h').map _

end

namespace Http

/-! ## Requests that are refused -/

/-- An analysis whose calls do not fail for what the client has done is not reported as if it had
failed for that. -/
theorem statusOf_ending_of_le {first : Completion}
    (h : ∀ failure, first = .failed failure → 500 ≤ failure.status) (second : Completion)
    (f : Format) :
    statusOf (f.ending first second) = 200 ∨ 500 ≤ statusOf (f.ending first second) := by
  cases first with
  | crashed detail => cases f <;> exact .inr (Nat.le_refl 500)
  | failed failure =>
      have hstatus := h failure rfl
      cases f with
      | markdown => exact .inr hstatus
      | json =>
          refine .inr (show 500 ≤ failure.collapsed.status from ?_)
          rw [Failure.collapsed]
          split
          · exact Nat.le_refl 500
          · exact hstatus
  | text text =>
      cases f with
      | markdown =>
          have hserved (hsecond : ∀ detail, second ≠ .crashed detail) :
              statusOf (Format.ending (.text text) second .markdown) = 200 ∨
                500 ≤ statusOf (Format.ending (.text text) second .markdown) := by
            obtain hstatus | hstatus := (@statusOf_document_of_text text second hsecond).1
            · exact .inl hstatus
            · exact .inr (by rw [hstatus]; decide)
          cases second with
          | text other => exact hserved fun detail h => by contradiction
          | failed failure => exact hserved fun detail h => by contradiction
          | crashed detail =>
              simp only [Format.ending, Markdown.ending]
              split
              · exact .inl rfl
              · exact .inr (Nat.le_refl 500)
      | json =>
          by_cases hempty : text = ""
          · subst hempty
            exact .inr (Nat.le_refl 500)
          · obtain ⟨report, hreport⟩ := exists_reportResult_eq_ok hempty
            rw [Format.ending, reportEnding, hreport]
            exact .inl rfl

/-- An accepted snippet is not answered as the client's fault. -/
theorem Service.Addresses.status_of_accepts {service : Service} {r : Request} {code user : String}
    (haddresses : service.Addresses r) (h : service.Accepts r code user) (line : Line) :
    (service.respond r line).response.status = 200 ∨
      500 ≤ (service.respond r line).response.status := by
  rw [haddresses.status_respond h]
  exact statusOf_ending_of_le (fun _ => Provider.le_status_of_completion_eq_failed) _ _

/-- **What is answered as the client's fault is not logged.** -/
theorem Service.events_respond_eq_nil {service : Service} {r : Request} {line : Line}
    (h : (service.respond r line).response.status = 400 ∨
      (service.respond r line).response.status = 413) :
    (service.respond r line).events = [] := by
  by_cases haddresses : service.Addresses r
  · obtain ⟨failure, hrefuses⟩ | ⟨code, user, haccepts⟩ := service.refuses_or_accepts r
    · rw [haddresses.status_respond_of_refuses hrefuses] at h
      rw [haddresses.respond_of_refuses line hrefuses, reportFailure, failureEvents,
        if_neg (by omega)]
      rfl
    · have hstatus := haddresses.status_of_accepts haccepts line
      omega
  · rw [respond_of_not_addresses line haddresses]

end Http

/-- **Nothing of a snippet is logged.** Run against the same outcomes, the analyses of two accepted
snippets report the same events and have the same result, and they make as many calls with the same
instructions. A refused snippet is not reported, whoever the client is; nor is a request that is
answered as the client's fault, whatever is in it. -/
theorem analyses_are_discreet (settings : AnalysisSettings) :
    (∀ code code' user user' script, settings.checkSnippet code = .ok user →
      settings.checkSnippet code' = .ok user' →
      ((analyze settings code).run scripted script).Alike Call.SameInstruction Eq
        ((analyze settings code').run scripted script) ∧
      ((analyzeMarkdown settings code).run scripted script).Alike Call.SameInstruction Eq
        ((analyzeMarkdown settings code').run scripted script) ∧
      ((analyzeJson settings code).run scripted script).Alike Call.SameInstruction Eq
        ((analyzeJson settings code').run scripted script)) ∧
    (∀ code failure script, settings.checkSnippet code = .error failure →
      ((analyze settings code).run scripted script).events = [] ∧
      ((analyzeMarkdown settings code).run scripted script).events = [] ∧
      ((analyzeJson settings code).run scripted script).events = []) ∧
    ∀ (service : Http.Service) r line,
      let e := service.respond r line
      e.response.status = 400 ∨ e.response.status = 413 → e.events = [] := by
  refine ⟨fun code code' user user' script h h' => ?_, fun code failure script h => ?_,
    fun service r line => Http.Service.events_respond_eq_nil⟩
  · have hscripted := scripted_alike Call.SameInstruction
    exact ⟨(alike_analyze h h').run hscripted rfl, (alike_analyzeMarkdown h h').run hscripted rfl,
      (alike_analyzeJson h h').run hscripted rfl⟩
  · refine ⟨?_, ?_, ?_⟩
    · rw [analyze_of_error h, Dialogue.run_done]
    · simp only [analyzeMarkdown, h, Dialogue.run_done]
    · simp only [analyzeJson, h, Dialogue.run_done]

end AnalysisGateway
