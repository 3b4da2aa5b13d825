import AnalysisGateway.Proofs.Flow.Run

/-!
# Runs against a script

A script is a list of outcomes that calls take one after another. Where it has ended, every further
call fails. With the equation for a call, runs against a script are worked out without unfolding the
client.
-/

namespace AnalysisGateway

/-- The outcomes that a scripted provider has in store. -/
abbrev Script := List (Except Failure String)

/-- The outcome that the next call takes. -/
def Script.next : Script → Except Failure String
  | [] => .error (.provider "script exhausted")
  | outcome :: _ => outcome

/-- A script that has outcomes left gives the first of them. -/
theorem Script.getElem?_zero_of_next_ok {script : Script} {text : String}
    (h : script.next = .ok text) : script[0]? = some (.ok text) := by
  cases script with
  | nil => simp [Script.next] at h
  | cons outcome rest =>
      rw [Script.next] at h
      rw [h, List.getElem?_cons_zero]

/-- What becomes of a call that takes an outcome. -/
def Completion.ofOutcome : Except Failure String → Completion
  | .ok t => .text t
  | .error f => .failed f

/-- A script answers with the next outcome, and logs nothing. -/
theorem scripted_eq (call : Call) (script : Script) :
    scripted call script = ⟨.ofOutcome script.next, [], script.tail⟩ := by
  cases script with
  | nil => rfl
  | cons outcome rest => cases outcome <;> rfl

namespace Dialogue

/-- A call takes the next outcome and goes on with it. -/
theorem run_ask {α : Type} (call : Call) (next : Except Failure String → Dialogue α)
    (script : Script) :
    (ask call next).run scripted script =
      let t := (next script.next).run scripted script.tail
      { t with calls := call :: t.calls } := by
  cases script with
  | nil => rfl
  | cons outcome rest => cases outcome <;> rfl

end Dialogue

end AnalysisGateway
