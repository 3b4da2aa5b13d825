import AnalysisGateway.Proofs.Flow.Single
import AnalysisGateway.Proofs.Http.FailureBody

/-!
# What is reported of a failure

A failure is reported to two sides. The client is sent its status and its message; the log has its
status and its description, but only if the failure is the service's own. The message and the
description differ in the words that tell the kind.

A failure of the provider can be collapsed before it is reported. Then it is an internal one, with
the message behind a fixed text: its kind is lost, but not what the provider had to say.
-/

namespace AnalysisGateway

namespace Failure

variable {f g : Failure}

/-- A failure of the provider becomes an internal one. -/
theorem collapsed_of_isOfProvider (h : f.isOfProvider = true) :
    f.collapsed = .internal ("Error from upstream API: " ++ f.message) := by
  unfold collapsed
  rw [if_pos h]

/-- Any other failure stays as it is. -/
theorem collapsed_of_not_isOfProvider (h : f.isOfProvider = false) : f.collapsed = f := by
  simp [collapsed, h]

/-- Once it is collapsed, a failure stays as it is. -/
theorem collapsed_collapsed (f : Failure) : f.collapsed.collapsed = f.collapsed :=
  collapsed_of_not_isOfProvider f.isOfProvider_collapsed

/-- Collapsed failures of the provider have the same message only if they had it before. -/
theorem message_collapsed_inj (hf : f.isOfProvider = true) (hg : g.isOfProvider = true) :
    f.collapsed.message = g.collapsed.message ↔ f.message = g.message := by
  rw [collapsed_of_isOfProvider hf, collapsed_of_isOfProvider hg]
  exact String.append_right_inj _

/-- No status is beyond the server errors. -/
theorem status_lt (f : Failure) : f.status < 600 := by
  cases f <;> simp [status]

end Failure

namespace Http

/-- A server error is logged, and nothing else. -/
theorem failureEvents_eq (f : Failure) :
    failureEvents f = if 500 ≤ f.status ∧ f.status < 600 then [.requestFailed f] else [] := by
  have hlt : f.status < 600 := f.status_lt
  simp [failureEvents, hlt]

/-- **What is reported of a failure**, and of a collapsed one.

1. The response has the status, and a body that tells of the message and the status.
2. A server error is logged once, as an error, with its status and its description; any other
   failure is not logged.
3. To collapse a failure changes those of the provider only. They become internal ones, with the
   message behind a fixed text, so none of the provider is left, and a second time changes nothing.
4. Two failures of the provider are reported alike after collapsing only if their messages are the
   same. -/
theorem failure_reported (f : Failure) :
    ((Response.ofFailure f).status = f.status ∧ (Response.ofFailure f).Tells f.message) ∧
    (if 500 ≤ f.status ∧ f.status < 600 then
      ∃ event, failureEvents f = [event] ∧ event.level = .error ∧
        event.fields = [("status", toString f.status), ("error", f.describe)]
    else failureEvents f = []) ∧
    ((f.isOfProvider = false → f.collapsed = f) ∧
      (f.isOfProvider = true →
        f.collapsed = .internal ("Error from upstream API: " ++ f.message) ∧
        (Response.ofFailure f.collapsed).status = 500 ∧
        (Response.ofFailure f.collapsed).Tells ("Error from upstream API: " ++ f.message)) ∧
      f.collapsed.isOfProvider = false ∧ f.collapsed.collapsed = f.collapsed) ∧
    ∀ g : Failure, f.isOfProvider = true → g.isOfProvider = true →
      ((Response.ofFailure f.collapsed).body = (Response.ofFailure g.collapsed).body ↔
        f.message = g.message) := by
  refine ⟨⟨rfl, Response.tells_ofFailure f⟩, ?log,
    ⟨Failure.collapsed_of_not_isOfProvider, ?collapse, f.isOfProvider_collapsed,
      f.collapsed_collapsed⟩, ?apart⟩
  case log =>
    rw [failureEvents_eq]
    by_cases hstatus : 500 ≤ f.status ∧ f.status < 600
    · rw [if_pos hstatus, if_pos hstatus]
      exact ⟨.requestFailed f, rfl, rfl, rfl⟩
    · rw [if_neg hstatus, if_neg hstatus]
  case collapse =>
    intro h
    have htells := Response.tells_ofFailure f.collapsed
    rw [Failure.collapsed_of_isOfProvider h] at htells ⊢
    exact ⟨rfl, rfl, htells⟩
  case apart =>
    intro g hf hg
    constructor
    · intro hbody
      have htells := Response.tells_ofFailure f.collapsed
      have htells' := Response.tells_ofFailure g.collapsed
      exact (Failure.message_collapsed_inj hf hg).mp (htells.text_unique htells' hbody)
    · intro hmessage
      rw [Failure.collapsed_of_isOfProvider hf, Failure.collapsed_of_isOfProvider hg, hmessage]

end Http

end AnalysisGateway
