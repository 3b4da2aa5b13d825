import AnalysisGateway.Proofs.Flow.Script
import AnalysisGateway.Proofs.Flow.Transcript

/-!
# The Markdown analysis as a machine

A second account of the Markdown analysis, which knows nothing of dialogues: a machine that stands
at one of four stages, with the calls made so far and the outcomes still to come.

1. A snippet that was received is checked, and refused or sent.
2. After the first call the analysis is settled: by its failure, or by an answer with all headings.
   Any other answer leads to a second call.
3. After the second call it is settled in any case: by an answer with all headings, and otherwise
   by the first answer, which fails if it is empty.

`rest` is the dialogue that is left at a stage, and `prospect` what a state leads to if that
dialogue is run. One step keeps the prospect (`prospect_step`), so the dialogue ends as the machine
does. `Sound` holds of every state that the machine reaches: one step keeps it (`Sound.step`), and
so does a run.
-/

namespace AnalysisGateway.Markdown

/-! ## The machine -/

/-- Where an analysis stands. -/
inductive Stage where
  /-- The snippet has not been checked. -/
  | received
  /-- The first call is due, with this message. -/
  | first (user : String)
  /-- The second call is due, after this answer. -/
  | second (user answer : String)
  /-- The result is known. -/
  | settled (result : Except Failure Document)

/-- A state: the stage, the calls so far in their order, and the outcomes still to come. -/
structure State where
  stage : Stage
  calls : List Call
  script : Script

/-- The state in which an analysis begins. -/
def State.start (script : Script) : State := ⟨.received, [], script⟩

/-- The state after a call, at the stage that its outcome leads to. -/
def State.call (s : State) (call : Call) (stage : Except Failure String → Stage) : State :=
  ⟨stage s.script.next, s.calls ++ [call], s.script.tail⟩

/-- The stage after the first call. -/
def afterFirst (user : String) : Except Failure String → Stage
  | .error failure => .settled (.error failure)
  | .ok text => if HasHeadings text then .settled (.ok ⟨text⟩) else .second user text

/-- The stage after the second call. -/
def afterSecond (answer : String) : Except Failure String → Stage
  | .error _ => .settled (kept answer)
  | .ok text => if HasHeadings text then .settled (.ok ⟨text⟩) else .settled (kept answer)

section

variable (settings : AnalysisSettings) (code : String)

/-- One step; a settled analysis stays as it is. -/
def step (s : State) : State :=
  match s.stage with
  | .received =>
    match settings.checkSnippet code with
    | .error failure => { s with stage := .settled (.error failure) }
    | .ok _ => { s with stage := .first (Text.trimmed code) }
  | .first user => s.call ⟨.markdown, user⟩ (afterFirst user)
  | .second user answer => s.call ⟨.markdownRetry, user⟩ (afterSecond answer)
  | .settled _ => s

/-- The state after so many steps. -/
def steps : Nat → State → State
  | 0, s => s
  | n + 1, s => steps n (step settings code s)

/-- Three steps settle every analysis: the check and at most two calls. -/
def finalState (script : Script) : State := steps settings code 3 (.start script)

/-! ## The dialogue that is left -/

/-- What the analysis still has to do at a stage. -/
def rest : Stage → Dialogue (Except Failure Document)
  | .received => analyzeMarkdown settings code
  | .first user => asking user
  | .second user answer => retryMarkdown user answer finishMarkdown
  | .settled result => .done result

/-- What a state leads to: the ending, all calls, and the outcomes left over. -/
def prospect (s : State) : Ending (Except Failure Document) × List Call × Script :=
  let t := (rest settings code s.stage).run scripted s.script
  (t.ending, s.calls ++ t.calls, t.state)

end

/-! ## The dialogue follows the machine -/

section

variable (settings : AnalysisSettings) (code : String)

/-- What is left after the first call is what its outcome asks for. -/
theorem run_rest_first (user : String) (script : Script) :
    let t := (rest settings code (.first user)).run scripted script
    let u := (rest settings code (afterFirst user script.next)).run scripted script.tail
    (t.ending, t.calls, t.state) = (u.ending, ⟨.markdown, user⟩ :: u.calls, u.state) := by
  simp only [rest, run_asking, scripted_eq]
  cases script.next with
  | error failure => simp [afterFirst, transcript, Completion.ofOutcome, ending, asksAgain]
  | ok text =>
      by_cases h : HasHeadings text
      · simp [afterFirst, h, transcript, Completion.ofOutcome, ending, asksAgain]
      · simp [afterFirst, h, transcript, Completion.ofOutcome, ending, asksAgain,
          run_retryMarkdown, scripted_eq]

/-- What is left after the second call is its result. -/
theorem run_rest_second (user answer : String) (script : Script) :
    let t := (rest settings code (.second user answer)).run scripted script
    let u := (rest settings code (afterSecond answer script.next)).run scripted script.tail
    (t.ending, t.calls, t.state) = (u.ending, ⟨.markdownRetry, user⟩ :: u.calls, u.state) := by
  simp only [rest, run_retryMarkdown, scripted_eq]
  cases script.next with
  | error failure => simp [afterSecond, Completion.ofOutcome, retryEnding]
  | ok text =>
      by_cases h : HasHeadings text <;>
        simp [afterSecond, h, Completion.ofOutcome, retryEnding]

/-- One step of the machine keeps what the state leads to. -/
theorem prospect_step (s : State) :
    prospect settings code (step settings code s) = prospect settings code s := by
  obtain ⟨stage, calls, script⟩ := s
  cases stage with
  | received =>
      cases hcheck : settings.checkSnippet code with
      | error failure => simp [prospect, step, hcheck, rest, analyzeMarkdown]
      | ok user =>
          obtain rfl := settings.checkSnippet_eq_trimmed hcheck
          have hrest : rest settings code .received = rest settings code (.first _) :=
            analyzeMarkdown_eq_asking hcheck
          simp only [prospect, step, hcheck, hrest]
  | first user =>
      have h := run_rest_first settings code user script
      simp only [Prod.mk.injEq] at h
      simp only [prospect, step, State.call, h, List.append_assoc, List.singleton_append]
  | second user answer =>
      have h := run_rest_second settings code user answer script
      simp only [Prod.mk.injEq] at h
      simp only [prospect, step, State.call, h, List.append_assoc, List.singleton_append]
  | settled result => rfl

/-- So does a run. -/
theorem prospect_steps (n : Nat) (s : State) :
    prospect settings code (steps settings code n s) = prospect settings code s := by
  induction n generalizing s with
  | zero => rfl
  | succ n ih => rw [steps, ih, prospect_step]

/-! ## The machine comes to an end -/

/-- The steps that are left at most. -/
def Stage.due : Stage → Nat
  | .received => 3
  | .first _ => 2
  | .second .. => 1
  | .settled _ => 0

theorem due_step (s : State) : (step settings code s).stage.due ≤ s.stage.due - 1 := by
  obtain ⟨stage, calls, script⟩ := s
  cases stage with
  | received => cases hcheck : settings.checkSnippet code <;> simp [step, hcheck, Stage.due]
  | first user =>
      simp only [step, State.call]
      cases script.next with
      | error failure => simp [afterFirst, Stage.due]
      | ok text => by_cases h : HasHeadings text <;> simp [afterFirst, h, Stage.due]
  | second user answer =>
      simp only [step, State.call]
      cases script.next with
      | error failure => simp [afterSecond, Stage.due]
      | ok text => by_cases h : HasHeadings text <;> simp [afterSecond, h, Stage.due]
  | settled result => simp [step, Stage.due]

theorem due_steps (n : Nat) (s : State) :
    (steps settings code n s).stage.due ≤ s.stage.due - n := by
  induction n generalizing s with
  | zero => simp [steps]
  | succ n ih =>
      have hstep := due_step settings code s
      have hrun := ih (step settings code s)
      rw [steps]
      omega

/-- The final state is settled. -/
theorem exists_settled_finalState (script : Script) :
    ∃ result, (finalState settings code script).stage = .settled result := by
  have hdue := due_steps settings code 3 (.start script)
  rw [← finalState] at hdue
  cases hstage : (finalState settings code script).stage with
  | settled result => exact ⟨result, rfl⟩
  | _ => rw [hstage] at hdue; simp [Stage.due, State.start] at hdue

end

/-! ## What holds of every state -/

/-- What a stage says of the script and of the number of calls made so far. -/
def Stage.Fits (script : Script) (made : Nat) : Stage → Prop
  | .received | .first _ => made = 0
  | .second _ answer => made = 1 ∧ script[0]? = some (.ok answer)
  | .settled result => made ≤ 2 ∧ ∀ d, result = .ok d →
      d.analysis ≠ "" ∧ ∃ i < made, script[i]? = some (.ok d.analysis)

/-- A state that an analysis can reach: the calls have taken the outcomes of the script in their
order, and the stage fits them. -/
structure Sound (script : Script) (s : State) : Prop where
  script_eq : s.script = script.drop s.calls.length
  fits : s.stage.Fits script s.calls.length

theorem sound_start (script : Script) : Sound script (.start script) :=
  ⟨rfl, rfl⟩

/-- A call takes exactly one outcome. -/
theorem Sound.script_call {script : Script} {s : State} (h : Sound script s) (call : Call)
    (stage : Except Failure String → Stage) :
    (s.call call stage).script = script.drop (s.call call stage).calls.length := by
  simp only [State.call, h.script_eq, List.tail_drop, List.length_append, List.length_singleton]

/-- The text that a call was answered with stands in the script at the place of the call. -/
theorem Sound.getElem?_of_next {script : Script} {s : State} (h : Sound script s) {text : String}
    (hnext : s.script.next = .ok text) : script[s.calls.length]? = some (.ok text) := by
  have hzero := Script.getElem?_zero_of_next_ok hnext
  rwa [h.script_eq, List.getElem?_drop, Nat.add_zero] at hzero

/-- A first answer that counts after all is not empty, and was received. -/
theorem fits_kept {script : Script} {answer : String} (h : script[0]? = some (.ok answer)) :
    (Stage.settled (kept answer)).Fits script 2 := by
  refine ⟨Nat.le_refl 2, fun d hd => ?_⟩
  rw [kept] at hd
  split at hd
  · contradiction
  · next hne =>
    rw [← Except.ok.inj hd]
    exact ⟨hne, 0, by omega, h⟩

/-- An answer with all headings that was received last. -/
theorem fits_complete {script : Script} {text : String} {made : Nat} (hmade : made < 2)
    (htext : HasHeadings text) (h : script[made]? = some (.ok text)) :
    (Stage.settled (.ok ⟨text⟩)).Fits script (made + 1) := by
  refine ⟨by omega, fun d hd => ?_⟩
  rw [← Except.ok.inj hd]
  exact ⟨htext.ne_empty, made, by omega, h⟩

section

variable {settings : AnalysisSettings} {code : String}

/-- One step keeps the state sound. -/
theorem Sound.step {script : Script} {s : State} (h : Sound script s) :
    Sound script (step settings code s) := by
  obtain ⟨stage, calls, left⟩ := s
  have hscript := h.script_call
  have hnext := fun text (hout : left.next = .ok text) => h.getElem?_of_next hout
  have hfits := h.fits
  cases stage with
  | received =>
      cases hcheck : settings.checkSnippet code with
      | error failure =>
          simp only [Markdown.step, hcheck]
          exact ⟨h.script_eq, by simp only [Stage.Fits] at hfits ⊢; simp [hfits]⟩
      | ok user =>
          simp only [Markdown.step, hcheck]
          exact ⟨h.script_eq, hfits⟩
  | first user =>
      refine ⟨hscript _ _, ?_⟩
      simp only [Stage.Fits] at hfits
      simp only [Markdown.step, State.call, List.length_append, List.length_singleton, hfits]
      cases hout : left.next with
      | error failure => simp [afterFirst, Stage.Fits]
      | ok text =>
          have hget := hnext text hout
          simp only [hfits] at hget
          by_cases hall : HasHeadings text
          · simpa only [afterFirst, hall, if_true] using fits_complete (by omega) hall hget
          · simpa only [afterFirst, hall, if_false, Stage.Fits] using ⟨trivial, hget⟩
  | second user answer =>
      refine ⟨hscript _ _, ?_⟩
      simp only [Stage.Fits] at hfits
      simp only [Markdown.step, State.call, List.length_append, List.length_singleton, hfits.1]
      cases hout : left.next with
      | error failure => exact fits_kept hfits.2
      | ok text =>
          have hget := hnext text hout
          simp only [hfits.1] at hget
          by_cases hall : HasHeadings text
          · simpa only [afterSecond, hall, if_true] using fits_complete (by omega) hall hget
          · simpa only [afterSecond, hall, if_false] using fits_kept hfits.2
  | settled result => exact h

/-- So does a run. -/
theorem Sound.steps {script : Script} {s : State} (h : Sound script s) (n : Nat) :
    Sound script (steps settings code n s) := by
  induction n generalizing s with
  | zero => exact h
  | succ n ih => exact ih h.step

end

/-! ## The run -/

/-- **A Markdown analysis runs as the machine does**: it ends with the machine's result, after the
machine's calls, and leaves the machine's script. The calls take outcomes from the front of the
script, one each and at most two. A result that is a document is not empty, and it is the text of
one of the outcomes taken. -/
theorem run_analyzeMarkdown (settings : AnalysisSettings) (code : String) (script : Script) :
    let t := (analyzeMarkdown settings code).run scripted script
    let s := finalState settings code script
    ∃ result, s.stage = .settled result ∧ t.ending = .finished result ∧
      t.calls = s.calls ∧ t.state = s.script ∧
      t.calls.length ≤ 2 ∧ t.state = script.drop t.calls.length ∧
      ∀ d, result = .ok d →
        d.analysis ≠ "" ∧ ∃ i < t.calls.length, script[i]? = some (.ok d.analysis) := by
  intro t s
  obtain ⟨result, hresult⟩ := exists_settled_finalState settings code script
  have hprospect : (t.ending, t.calls, t.state) = (.finished result, s.calls, s.script) := by
    have h := prospect_steps settings code 3 (.start script)
    rw [← finalState] at h
    simp only [prospect, hresult] at h
    simpa [State.start, rest, t, s] using h.symm
  simp only [Prod.mk.injEq] at hprospect
  obtain ⟨hending, hcalls, hstate⟩ := hprospect
  have hsound : Sound script s := (sound_start script).steps 3
  have hfits := hsound.fits
  rw [hresult] at hfits
  rw [hcalls, hstate]
  exact ⟨result, hresult, hending, rfl, rfl, hfits.1, hsound.script_eq, hfits.2⟩

end AnalysisGateway.Markdown
