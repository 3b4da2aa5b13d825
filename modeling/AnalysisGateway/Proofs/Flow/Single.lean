import AnalysisGateway.Proofs.Flow.Script
import AnalysisGateway.Proofs.Flow.Transcript

/-!
# The JSON analysis as one call

The JSON analysis calls the provider once or not at all, so its result is a function of one
outcome: `reportResult`. The check looks at the trimmed snippet, but the message carries the snippet
as it was submitted, between two fixed texts, and no other snippet gives the same message.
-/

namespace AnalysisGateway

/-! ## Failures after collapsing -/

/-- No failure is the provider's once it has been collapsed. -/
theorem Failure.isOfProvider_collapsed (failure : Failure) :
    failure.collapsed.isOfProvider = false := by
  rw [Failure.collapsed]
  split
  · rfl
  · next h => exact Bool.eq_false_iff.mpr h

/-! ## The message -/

/-- A text can be told from what stands between two fixed ones. -/
theorem enclosed_injective (before after : String) :
    Function.Injective fun text => before ++ text ++ after := by
  intro text other h
  exact (String.append_right_inj before).mp ((String.append_left_inj after).mp h)

/-- A snippet can be told from its message. -/
theorem fencedSnippet_injective : Function.Injective fencedSnippet :=
  enclosed_injective "Analyze this code:\n\n```\n" "\n```"

/-! ## The result -/

/-- The result is never a failure of the provider. -/
theorem isOfProvider_of_reportResult {outcome : Except Failure String} {failure : Failure}
    (h : reportResult outcome = .error failure) : failure.isOfProvider = false := by
  cases outcome with
  | error cause =>
      rw [reportResult] at h
      rw [← Except.error.inj h, Failure.isOfProvider_collapsed]
  | ok text =>
      by_cases hempty : text = ""
      · simp only [reportResult, if_pos hempty] at h
        rw [← Except.error.inj h]
        rfl
      · obtain ⟨report, hreport⟩ := exists_reportResult_eq_ok hempty
        rw [hreport] at h
        contradiction

/-! ## The run -/

section

variable {settings : AnalysisSettings} {code : String} (script : Script)

/-- A refused snippet is the result, and nothing else happens. -/
theorem run_analyzeJson_of_error {failure : Failure}
    (h : settings.checkSnippet code = .error failure) :
    (analyzeJson settings code).run scripted script =
      ⟨.finished (.error failure), [], [], script⟩ := by
  simp only [analyzeJson, h, Dialogue.run_done]

/-- Any other snippet is sent as submitted, and the first outcome decides. -/
theorem run_analyzeJson_of_ok {user : String} (h : settings.checkSnippet code = .ok user) :
    let t := (analyzeJson settings code).run scripted script
    t.ending = .finished (reportResult script.next) ∧
      t.calls = [⟨.json, fencedSnippet code⟩] ∧ t.state = script.tail := by
  rw [Report.run_analyzeJson_eq scripted h, scripted_eq]
  cases script.next <;> exact ⟨rfl, rfl, rfl⟩

end

/-- **A JSON analysis makes one call or none**, and its result is what the outcome of the call
decides. A refused snippet makes no call and takes no outcome. Any other makes exactly one, with the
snippet as submitted, which no other snippet's message equals. The result is never a failure of the
provider, and no text fails but the empty one. -/
theorem run_analyzeJson (settings : AnalysisSettings) (code : String) (script : Script) :
    let t := (analyzeJson settings code).run scripted script
    ∃ result, t.ending = .finished result ∧
      (∀ failure, settings.checkSnippet code = .error failure →
        result = .error failure ∧ t.calls = [] ∧ t.state = script) ∧
      (∀ user, settings.checkSnippet code = .ok user →
        result = reportResult script.next ∧ t.calls = [⟨.json, fencedSnippet code⟩] ∧
        t.state = script.tail ∧
        ∀ text, script.next = .ok text → text ≠ "" → ∃ report, result = .ok report) ∧
      (∀ other, fencedSnippet other = fencedSnippet code → other = code) ∧
      ∀ failure, result = .error failure → failure.isOfProvider = false := by
  intro t
  have hsame : ∀ other, fencedSnippet other = fencedSnippet code → other = code :=
    fun other h => fencedSnippet_injective h
  cases hcheck : settings.checkSnippet code with
  | error failure =>
      have hrun : t = ⟨.finished (.error failure), [], [], script⟩ :=
        run_analyzeJson_of_error script hcheck
      have hkind := settings.isOfProvider_of_checkSnippet hcheck
      refine ⟨.error failure, by rw [hrun], ?_, by simp, hsame, ?_⟩
      · intro other hother
        rw [Except.error.inj hother, hrun]
        exact ⟨rfl, rfl, rfl⟩
      · intro other hother
        rwa [← Except.error.inj hother]
  | ok user =>
      obtain ⟨hending, hcalls, hstate⟩ := run_analyzeJson_of_ok script hcheck
      refine ⟨reportResult script.next, hending, by simp, ?_, hsame, ?_⟩
      · refine fun _ _ => ⟨rfl, hcalls, hstate, fun text htext hne => ?_⟩
        rw [htext]
        exact exists_reportResult_eq_ok hne
      · exact fun failure hfailure => isOfProvider_of_reportResult hfailure

end AnalysisGateway
