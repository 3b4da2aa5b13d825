import Mathlib.Data.List.Forall2
import AnalysisGateway.Proofs.Flow.Run

/-!
# Runs that cannot be told apart

Two dialogues are alike if they have the same shape and differ in their calls only (`Alike`). Run
against clients that answer such calls alike, they end in the same way and report the same events
(`Dialogue.Alike.run`). What is hidden from an observer is said by the two relations that the rest
goes by: which calls may stand for each other, and which states.
-/

namespace AnalysisGateway

variable {α β σ τ : Type}

/-- Two answers with the same completion and the same events, which leave related states. -/
structure Answered.Alike (states : σ → τ → Prop) (a : Answered σ) (b : Answered τ) : Prop where
  completion_eq : a.completion = b.completion
  events_eq : a.events = b.events
  state : states a.state b.state

/-- Two clients that answer related calls alike, as long as their states are related. -/
def Client.Alike (calls : Call → Call → Prop) (states : σ → τ → Prop) (client : Client σ)
    (client' : Client τ) : Prop :=
  ∀ call call' s s', calls call call' → states s s' →
    (client call s).Alike states (client' call' s')

/-- Two runs with the same ending and the same events, which make related calls and leave related
states. -/
structure Transcript.Alike (calls : Call → Call → Prop) (states : σ → τ → Prop)
    (t : Transcript α σ) (u : Transcript α τ) : Prop where
  ending_eq : t.ending = u.ending
  calls : List.Forall₂ calls t.calls u.calls
  events_eq : t.events = u.events
  state : states t.state u.state

namespace Dialogue

/-- Two dialogues that differ in their calls only, which are related. -/
inductive Alike (calls : Call → Call → Prop) : Dialogue α → Dialogue α → Prop where
  | done (result : α) : Alike calls (.done result) (.done result)
  | report (event : Event) {next next' : Dialogue α} (h : Alike calls next next') :
      Alike calls (.report event next) (.report event next')
  | ask {call call' : Call} {next next' : Except Failure String → Dialogue α}
      (hcall : calls call call') (h : ∀ outcome, Alike calls (next outcome) (next' outcome)) :
      Alike calls (.ask call next) (.ask call' next')

variable {calls : Call → Call → Prop} {states : σ → τ → Prop} {client : Client σ}
  {client' : Client τ} {d d' : Dialogue α}

/-- A dialogue is like itself. -/
theorem Alike.refl (hcalls : ∀ call, calls call call) (d : Dialogue α) : d.Alike calls d := by
  induction d with
  | done result => exact .done result
  | report event next ih => exact .report event ih
  | ask call next ih => exact .ask (hcalls call) ih

/-- Another result does not tell dialogues apart. -/
theorem Alike.map (h : d.Alike calls d') (f : α → β) : (d.map f).Alike calls (d'.map f) := by
  induction h with
  | done result => exact .done (f result)
  | report event _ ih => exact .report event ih
  | ask hcall _ ih => exact .ask hcall ih

/-- **Dialogues that are alike run alike**, against clients that do not tell their calls apart. -/
theorem Alike.run (hclient : client.Alike calls states client') (h : d.Alike calls d') {s : σ}
    {s' : τ} (hstate : states s s') :
    (d.run client s).Alike calls states (d'.run client' s') := by
  induction h generalizing s s' with
  | done result => exact ⟨rfl, .nil, rfl, hstate⟩
  | report event _ ih =>
      obtain ⟨hending, hcalls, hevents, hafter⟩ := ih hstate
      exact ⟨hending, hcalls, congrArg (event :: ·) hevents, hafter⟩
  | @ask call call' next next' hcall _ ih =>
      obtain ⟨hcompletion', hevents, hbetween⟩ := hclient call call' s s' hcall hstate
      cases hcompletion : (client call s).completion with
      | text text =>
          rw [run_ask_of_text hcompletion, run_ask_of_text (hcompletion' ▸ hcompletion)]
          obtain ⟨hending, hcalls, hmore, hafter⟩ := ih (.ok text) hbetween
          exact ⟨hending, .cons hcall hcalls, congrArg₂ _ hevents hmore, hafter⟩
      | failed failure =>
          rw [run_ask_of_failed hcompletion, run_ask_of_failed (hcompletion' ▸ hcompletion)]
          obtain ⟨hending, hcalls, hmore, hafter⟩ := ih (.error failure) hbetween
          exact ⟨hending, .cons hcall hcalls, congrArg₂ _ hevents hmore, hafter⟩
      | crashed detail =>
          rw [run_ask_of_crashed hcompletion, run_ask_of_crashed (hcompletion' ▸ hcompletion)]
          exact ⟨rfl, .cons hcall .nil, hevents, hbetween⟩

end Dialogue

end AnalysisGateway
