import AnalysisGateway.Flow

/-!
# Runs against any client

Each rule of a dialogue has its equation. What a run does to a client's state is what its calls do,
one after another: a relation that counts calls, and that every single call keeps, holds between the
beginning and the end of a run for the number of its calls (`run_counts`). A result that is changed
afterwards changes nothing else of the run (`run_map`).
-/

namespace AnalysisGateway

variable {α β σ : Type}

/-- How a run ended, with its result changed. -/
def Ending.map (f : α → β) : Ending α → Ending β
  | .finished result => .finished (f result)
  | .crashed detail => .crashed detail

namespace Dialogue

variable {client : Client σ}

@[simp] theorem run_done (result : α) (state : σ) :
    (done result).run client state = ⟨.finished result, [], [], state⟩ := rfl

@[simp] theorem run_report (event : Event) (next : Dialogue α) (state : σ) :
    (report event next).run client state =
      { next.run client state with events := event :: (next.run client state).events } := rfl

/-- A call that a text answers goes on with the text. -/
theorem run_ask_of_text {call : Call} {next : Except Failure String → Dialogue α} {state : σ}
    {text : String} (h : (client call state).completion = .text text) :
    (ask call next).run client state =
      let a := client call state
      let t := (next (.ok text)).run client a.state
      ⟨t.ending, call :: t.calls, a.events ++ t.events, t.state⟩ := by
  rw [run]
  simp only [h]

/-- A call that fails goes on with the failure. -/
theorem run_ask_of_failed {call : Call} {next : Except Failure String → Dialogue α} {state : σ}
    {failure : Failure} (h : (client call state).completion = .failed failure) :
    (ask call next).run client state =
      let a := client call state
      let t := (next (.error failure)).run client a.state
      ⟨t.ending, call :: t.calls, a.events ++ t.events, t.state⟩ := by
  rw [run]
  simp only [h]

/-- A call that breaks off ends the run. -/
theorem run_ask_of_crashed {call : Call} {next : Except Failure String → Dialogue α} {state : σ}
    {detail : String} (h : (client call state).completion = .crashed detail) :
    (ask call next).run client state =
      let a := client call state
      ⟨.crashed detail, [call], a.events, a.state⟩ := by
  rw [run]
  simp only [h]

/-- The result of a run may be changed at once or at the end. -/
theorem run_map (f : α → β) (d : Dialogue α) (state : σ) :
    (d.map f).run client state =
      let t := d.run client state
      ⟨t.ending.map f, t.calls, t.events, t.state⟩ := by
  induction d generalizing state with
  | done result => rfl
  | report event next ih => simp only [map, run, ih]
  | ask call next ih =>
      simp only [map, run]
      cases (client call state).completion with
      | text text => simp only [ih]
      | failed failure => simp only [ih]
      | crashed detail => rfl

/-- **A run keeps what its calls keep**, for as many calls as it has. -/
theorem run_counts {R : Nat → σ → σ → Prop} (hzero : ∀ s, R 0 s s)
    (hadd : ∀ m n s t u, R m s t → R n t u → R (m + n) s u)
    (hcall : ∀ call s, R 1 s (client call s).state) (d : Dialogue α) (state : σ) :
    R (d.run client state).calls.length state (d.run client state).state := by
  induction d generalizing state with
  | done result => exact hzero state
  | report event next ih => exact ih state
  | ask call next ih =>
      have hfirst := hcall call state
      cases hcompletion : (client call state).completion with
      | text text =>
          rw [run_ask_of_text hcompletion, List.length_cons, Nat.add_comm]
          exact hadd _ _ _ _ _ hfirst (ih _ _)
      | failed failure =>
          rw [run_ask_of_failed hcompletion, List.length_cons, Nat.add_comm]
          exact hadd _ _ _ _ _ hfirst (ih _ _)
      | crashed detail =>
          rw [run_ask_of_crashed hcompletion]
          exact hfirst

end Dialogue

end AnalysisGateway
