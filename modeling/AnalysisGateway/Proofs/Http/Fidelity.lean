import AnalysisGateway.Proofs.Answer.Written
import AnalysisGateway.Proofs.Http.Body
import AnalysisGateway.Proofs.Http.Responds
import AnalysisGateway.Proofs.Provider.Call
import AnalysisGateway.Proofs.Provider.Request

/-!
# Texts on their way through the service

A snippet goes from the body of a request to the body of the provider's request, and an answer from
the provider's reply to the body of the response. On each way a text is read from JSON once and
written to JSON once, and arrives as it was, whatever its characters. Only a Markdown snippet loses
the blanks around it.
-/

namespace AnalysisGateway.Http

open Json

namespace Service

/-- A submitted snippet is analysed. -/
theorem respond_of_submits {s : Settings} {r : Request} {code : String} (h : r.Submits s code)
    (line : Line) :
    (ofSettings s).respond r line = ofTranscript
      ((analyze s.analysis code).run (Provider.ofSettings s.provider).client line) := by
  have haddresses : (ofSettings s).Addresses r := ⟨h.method_eq, h.path_eq⟩
  have hsubmission : r.submission (ofSettings s).settings.server.maxBodyBytes = .ok ⟨code⟩ :=
    h.submission_eq
  rw [haddresses.respond_eq line, analysis, hsubmission]
  rfl

section

variable {s : Settings} {key code user text : String} {url : Url} {line : Line}
  (hready : s.provider.Ready key url) (hcheck : s.analysis.checkSnippet code = .ok user)
  (hline : line.Completes url text)

include hready hcheck hline

/-- The requests of an analysis begin with the one of its first call, and it is the only one if the
answer settles the analysis. -/
theorem exists_run_analyze :
    let t := (analyze s.analysis code).run (Provider.ofSettings s.provider).client line
    let call := s.analysis.format.firstCall code
    ∃ more,
      t.state.sent =
        line.sent ++ s.provider.request key url call.instruction.text call.user :: more ∧
      ∀ a, s.analysis.format.Settles text a → more = [] ∧ t.ending = .finished (.ok a) := by
  intro t call
  obtain ⟨hcompletion, hsent⟩ := hready.client_eq hline call
  have hrun : t = s.analysis.format.transcript code _ _ :=
    run_analyze_eq (Provider.ofSettings s.provider).client hcheck line
  -- What the line has received after the first call is what a second one has added to it, if any.
  obtain ⟨more, hmore⟩ : ∃ more, t.state.sent =
      ((Provider.ofSettings s.provider).client call line).state.sent ++ more := by
    rw [hrun]
    obtain hfirst | hsecond := Format.state_transcript code _ _ s.analysis.format
    · exact ⟨[], by rw [hfirst, List.append_nil]⟩
    · obtain ⟨new, hnew, -⟩ := Provider.exists_state_complete (.ofSettings s.provider)
        Instruction.markdownRetry.text user
        ((Provider.ofSettings s.provider).client call line).state
      exact ⟨new, by rw [hsecond, Provider.client, hnew, Line.sent_after]⟩
  refine ⟨more, ?_, fun a ha => ?_⟩
  · rw [hmore, hsent, List.append_assoc]
    rfl
  · have hsettled := ha.transcript_eq hcompletion code
    rw [hrun, hsettled] at hmore
    exact ⟨List.append_right_eq_self.mp hmore.symm, by rw [hrun, hsettled]⟩

end

end Service

end AnalysisGateway.Http
