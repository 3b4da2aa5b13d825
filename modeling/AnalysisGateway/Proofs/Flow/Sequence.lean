import AnalysisGateway.Proofs.Flow.Transcript
import AnalysisGateway.Proofs.Flow.Script
import AnalysisGateway.Proofs.Http.History

/-!
# Analyses one after another

A run against a script depends on as many outcomes as it has calls, the first ones, and leaves the
others (`run_scripted_congr`). So each run of a sequence is the run of its dialogue alone on what
the calls before it have left (`getElem?_runAll_scripted`): how many those are differs from run to
run, and is read off the transcripts. A snippet that is refused takes nothing, and its analysis can
be left out anywhere.
-/

namespace AnalysisGateway

open Http (marked marked_nil_left marked_nil_right marked_cons_true marked_cons_false)

/-- The next outcome of a script is its first entry. -/
theorem Script.next_congr {script other : Script} (h : other[0]? = script[0]?) :
    other.next = script.next := by
  cases script <;> cases other <;> simp_all [Script.next]

namespace Dialogue

variable {α σ : Type}

/-- **A run takes one outcome for each call**, from the front of the script on. On another script
that begins with the same ones it goes the same way, and leaves what comes behind them. -/
theorem run_scripted_congr (d : Dialogue α) {script other : Script}
    (h : ∀ i < (d.run scripted script).calls.length, other[i]? = script[i]?) :
    d.run scripted other =
      { d.run scripted script with
        state := other.drop (d.run scripted script).calls.length } := by
  induction d generalizing script other with
  | done result => rfl
  | report event next ih => simp only [run_report, ih h]
  | ask call next ih =>
      rw [run_ask] at h ⊢
      rw [run_ask]
      have hnext : other.next = script.next := Script.next_congr (h 0 (Nat.succ_pos _))
      have hrest : ∀ i < ((next script.next).run scripted script.tail).calls.length,
          other.tail[i]? = script.tail[i]? := by
        intro i hi
        rw [List.getElem?_tail, List.getElem?_tail]
        exact h (i + 1) (Nat.succ_lt_succ hi)
      simp only [hnext, ih _ hrest, List.drop_tail, List.length_cons]

/-- What a run leaves of a script. -/
theorem state_run_scripted (d : Dialogue α) (script : Script) :
    (d.run scripted script).state = script.drop (d.run scripted script).calls.length :=
  congrArg Transcript.state (d.run_scripted_congr fun _ _ => rfl)

/-- The number of calls of the first runs of a sequence. -/
def callsBefore : List (Transcript α σ) → Nat → Nat
  | t :: runs, k + 1 => t.calls.length + callsBefore runs k
  | _, _ => 0

/-- One run more. -/
theorem callsBefore_succ {t : Transcript α σ} {runs : List (Transcript α σ)} {k : Nat}
    (h : runs[k]? = some t) : callsBefore runs (k + 1) = callsBefore runs k + t.calls.length := by
  induction k generalizing runs with
  | zero =>
      cases runs with
      | nil => nomatch h
      | cons first runs =>
          obtain rfl : first = t := Option.some.inj h
          simp [callsBefore]
  | succ k ih =>
      cases runs with
      | nil => nomatch h
      | cons first runs =>
          rw [callsBefore, callsBefore, ih h, Nat.add_assoc]

@[simp] theorem length_runAll (client : Client σ) (ds : List (Dialogue α)) (state : σ) :
    (runAll client ds state).length = ds.length := by
  induction ds generalizing state with
  | nil => rfl
  | cons d ds ih => rw [runAll, List.length_cons, List.length_cons, ih]

/-- **Each run of a sequence is one of its own**, on the script without as many outcomes as the runs
before it have calls. -/
theorem getElem?_runAll_scripted (ds : List (Dialogue α)) (script : Script) (k : Nat) :
    (runAll scripted ds script)[k]? =
      ds[k]?.map fun d =>
        d.run scripted (script.drop (callsBefore (runAll scripted ds script) k)) := by
  induction ds generalizing script k with
  | nil => rfl
  | cons d ds ih =>
      cases k with
      | zero => rfl
      | succ k =>
          simp only [runAll, List.getElem?_cons_succ, callsBefore, ih, state_run_scripted,
            List.drop_drop]

end Dialogue

section

variable {σ : Type} {settings : AnalysisSettings}

/-- Snippets that are refused can be left out anywhere in a sequence, whoever the client is. -/
theorem runAll_analyze_marked (client : Client σ) {marks : List Bool} {codes : List String}
    (h : ∀ code, (code, false) ∈ codes.zip marks →
      ∃ failure, settings.checkSnippet code = .error failure) (state : σ) :
    Dialogue.runAll client ((marked marks codes).map (analyze settings)) state =
      marked marks (Dialogue.runAll client (codes.map (analyze settings)) state) := by
  induction codes generalizing marks state with
  | nil => simp [Dialogue.runAll]
  | cons code codes ih =>
      cases marks with
      | nil => simp [Dialogue.runAll]
      | cons mark marks =>
          have hrest : ∀ other, (other, false) ∈ codes.zip marks →
              ∃ failure, settings.checkSnippet other = .error failure :=
            fun other hother => h other (List.mem_cons_of_mem _ hother)
          cases mark with
          | true => simp only [marked_cons_true, List.map_cons, Dialogue.runAll, ih hrest]
          | false =>
              obtain ⟨failure, hfailure⟩ := h code List.mem_cons_self
              simp only [marked_cons_false, List.map_cons, Dialogue.runAll,
                analyze_of_error hfailure, Dialogue.run_done, ih hrest]

end

/-- **Analyses one after another take the outcomes of a script in their order**, each of them at
most once and none left out.

1. There is one run for each snippet: that of its analysis alone, on the script without as many
   outcomes as the analyses before it have calls.
2. It takes the next ones, one for each call, and at most as many as its format has calls: no other
   entry of a script matters to it, and what comes behind them is left to the analyses after it.
3. If some of the snippets are refused, then without them the others have the same runs. -/
theorem runAll_analyze (settings : AnalysisSettings) (codes : List String) (script : Script) :
    let runs := Dialogue.runAll scripted (codes.map (analyze settings)) script
    let before := Dialogue.callsBefore runs
    runs.length = codes.length ∧
    (∀ k code, codes[k]? = some code →
      let t := (analyze settings code).run scripted (script.drop (before k))
      runs[k]? = some t ∧
      before (k + 1) = before k + t.calls.length ∧
      t.calls.length ≤ settings.format.maxCalls ∧
      t.state = script.drop (before (k + 1)) ∧
      ∀ other : Script, (∀ i < t.calls.length, other[i]? = script[before k + i]?) →
        (analyze settings code).run scripted other =
          { t with state := other.drop t.calls.length }) ∧
    ∀ marks, (∀ code, (code, false) ∈ codes.zip marks →
        ∃ failure, settings.checkSnippet code = .error failure) →
      Dialogue.runAll scripted ((marked marks codes).map (analyze settings)) script =
        marked marks runs := by
  intro runs before
  refine ⟨?_, ?_, fun marks h => runAll_analyze_marked scripted h script⟩
  · rw [Dialogue.length_runAll, List.length_map]
  intro k code hcode t
  have hrun : runs[k]? = some t := by
    rw [Dialogue.getElem?_runAll_scripted, List.getElem?_map, hcode]
    rfl
  have hbefore : before (k + 1) = before k + t.calls.length := Dialogue.callsBefore_succ hrun
  refine ⟨hrun, hbefore, ?_, ?_, ?_⟩
  · exact length_calls_run_analyze_le settings code scripted _
  · rw [hbefore, ← List.drop_drop]
    exact Dialogue.state_run_scripted _ _
  · intro other hother
    refine Dialogue.run_scripted_congr _ fun i hi => ?_
    rw [hother i hi, List.getElem?_drop]

end AnalysisGateway
