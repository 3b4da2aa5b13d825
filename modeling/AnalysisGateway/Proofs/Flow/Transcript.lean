import AnalysisGateway.Proofs.Flow.Log
import AnalysisGateway.Proofs.Flow.Opening
import AnalysisGateway.Proofs.Flow.Snippet

/-!
# What an analysis comes to

Whoever the client is, the answers to two calls decide all of an analysis: how it ends, which calls
it makes, what is logged, and in which state the client is left (`Format.transcript`). The second
answer counts only if there is a second call, which takes a Markdown analysis whose first text lacks
headings.

`run_analyze_eq` is the one place where the dialogue of an analysis is followed through its cases.
All else that is said of runs of an analysis is read off the transcript.
-/

namespace AnalysisGateway

variable {σ : Type}

/-! ## Transcripts -/

/-- A transcript with its result changed. -/
def Transcript.map {α β : Type} (f : α → β) (t : Transcript α σ) : Transcript β σ :=
  ⟨t.ending.map f, t.calls, t.events, t.state⟩

/-- The number of calls that an analysis of a format makes at most. -/
def Format.maxCalls : Format → Nat
  | .markdown => 2
  | .json => 1

/-- Whether a Markdown analysis asks again: its first text lacks headings. -/
def Markdown.asksAgain : Completion → Bool
  | .text text => !decide (HasHeadings text)
  | .failed _ | .crashed _ => false

/-- What a Markdown analysis comes to, from the answers to its calls. -/
def Markdown.transcript (user : String) (first second : Answered σ) :
    Transcript (Except Failure Document) σ where
  ending := ending first.completion second.completion
  calls := ⟨.markdown, user⟩ ::
    if asksAgain first.completion then [⟨.markdownRetry, user⟩] else []
  events := log first second
  state := if asksAgain first.completion then second.state else first.state

/-- What a JSON analysis comes to, from the answer to its only call. -/
def Report.transcript (code : String) (only : Answered σ) :
    Transcript (Except Failure Report) σ where
  ending := reportEnding only.completion
  calls := [⟨.json, fencedSnippet code⟩]
  events := only.events ++ reportRemarks only.completion
  state := only.state

/-- What an analysis comes to, from the answers to its calls. -/
def Format.transcript (code : String) (first second : Answered σ) :
    Format → Transcript (Except Failure Analysis) σ
  | .markdown =>
    (Markdown.transcript (Text.trimmed code) first second).map fun r => r.map .document
  | .json => (Report.transcript code first).map fun r => r.map .report

/-! ## Markdown -/

namespace Markdown

/-- The analysis of a snippet that has passed the check. -/
def asking (user : String) : Dialogue (Except Failure Document) :=
  .ask ⟨.markdown, user⟩ fun
    | .error failure => .report (.firstCallFailed failure) (.done (.error failure))
    | .ok first =>
      match checkMarkdown first with
      | .ok text => finishMarkdown text
      | .error flaw => .report (.retrying flaw.reason) (retryMarkdown user first finishMarkdown)

theorem analyzeMarkdown_eq_asking {settings : AnalysisSettings} {code user : String}
    (h : settings.checkSnippet code = .ok user) :
    analyzeMarkdown settings code = asking user := by
  simp only [analyzeMarkdown, h]
  rfl

/-- After a first answer without all headings the second one decides. -/
theorem run_retryMarkdown (client : Client σ) (user first : String) (state : σ) :
    let b := client ⟨.markdownRetry, user⟩ state
    (retryMarkdown user first finishMarkdown).run client state =
      ⟨retryEnding first b.completion, [⟨.markdownRetry, user⟩],
        b.events ++ retryRemarks b.completion, b.state⟩ := by
  intro b
  rw [retryMarkdown]
  cases hsecond : b.completion with
  | crashed detail =>
      rw [Dialogue.run_ask_of_crashed hsecond, retryEnding, retryRemarks, List.append_nil]
  | failed failure =>
      rw [Dialogue.run_ask_of_failed hsecond]
      simp [finishMarkdown_eq, retryEnding, retryRemarks, b]
  | text other =>
      rw [Dialogue.run_ask_of_text hsecond]
      by_cases hother : HasHeadings other
      · simp [checkMarkdown_of_hasHeadings hother, hother, finishMarkdown_eq, kept_of_hasHeadings,
          retryEnding, retryRemarks, b]
      · simp [checkMarkdown_eq_error hother, hother, finishMarkdown_eq, retryEnding, retryRemarks,
          lack, b]

/-- A Markdown analysis comes to what its answers decide. -/
theorem run_asking (client : Client σ) (user : String) (state : σ) :
    let a := client ⟨.markdown, user⟩ state
    (asking user).run client state =
      transcript user a (client ⟨.markdownRetry, user⟩ a.state) := by
  intro a
  rw [asking]
  cases hfirst : a.completion with
  | crashed detail =>
      rw [Dialogue.run_ask_of_crashed hfirst]
      simp [transcript, hfirst, ending, log, asksAgain, a]
  | failed failure =>
      rw [Dialogue.run_ask_of_failed hfirst]
      simp [transcript, hfirst, ending, log, asksAgain, a]
  | text first =>
      rw [Dialogue.run_ask_of_text hfirst]
      by_cases hheadings : HasHeadings first
      · simp [checkMarkdown_of_hasHeadings hheadings, hheadings, finishMarkdown_eq,
          kept_of_hasHeadings, transcript, hfirst, ending, log, asksAgain, a]
      · simp [checkMarkdown_eq_error hheadings, hheadings, run_retryMarkdown, transcript, hfirst,
          ending, log, lack, asksAgain, a]

end Markdown

/-! ## JSON -/

/-- What is left to do once a text has arrived asks nothing further. -/
theorem run_finishJson (client : Client σ) (text : String) (state : σ) :
    (finishJson text).run client state =
      ⟨.finished (reportResult (.ok text)), [], reportRemarks (.text text), state⟩ := by
  by_cases hempty : text = ""
  · subst hempty
    rfl
  · have hisEmpty : text.isEmpty = false := by simp [hempty]
    cases hreport : Report.ofAnswer text with
    | ok report => simp [finishJson, reportResult, reportRemarks, hisEmpty, hempty, hreport]
    | error flaw => simp [finishJson, reportResult, reportRemarks, hisEmpty, hempty, hreport]

section

variable {settings : AnalysisSettings} {code user : String}

/-- A JSON analysis comes to what its only answer decides. -/
theorem Report.run_analyzeJson_eq (client : Client σ) (h : settings.checkSnippet code = .ok user)
    (state : σ) :
    (analyzeJson settings code).run client state =
      Report.transcript code (client ⟨.json, fencedSnippet code⟩ state) := by
  simp only [analyzeJson, h]
  cases hcall : (client ⟨.json, fencedSnippet code⟩ state).completion with
  | crashed detail =>
      rw [Dialogue.run_ask_of_crashed hcall]
      simp [Report.transcript, hcall, reportEnding, reportRemarks]
  | failed failure =>
      rw [Dialogue.run_ask_of_failed hcall]
      simp [Report.transcript, hcall, reportEnding, reportRemarks, reportResult]
  | text text =>
      rw [Dialogue.run_ask_of_text hcall]
      simp [Report.transcript, hcall, reportEnding, run_finishJson]

/-! ## Analyses -/

/-- The analysis of a refused snippet is its failure, and asks nobody. -/
theorem analyze_of_error {failure : Failure} (h : settings.checkSnippet code = .error failure) :
    analyze settings code = .done (.error failure) := by
  rw [analyze]
  split
  · rw [analyzeMarkdown, h]
    rfl
  · rw [analyzeJson, h]
    rfl

/-- **An analysis comes to what the answers to its calls decide**, whoever gives them. -/
theorem run_analyze_eq (client : Client σ) (h : settings.checkSnippet code = .ok user) (state : σ) :
    let a := client (settings.format.firstCall code) state
    (analyze settings code).run client state =
      settings.format.transcript code a (client ⟨.markdownRetry, user⟩ a.state) := by
  obtain rfl := settings.checkSnippet_eq_trimmed h
  rw [analyze]
  cases settings.format with
  | markdown =>
      simp only [Dialogue.run_map, Markdown.analyzeMarkdown_eq_asking h, Markdown.run_asking]
      rfl
  | json =>
      simp only [Dialogue.run_map, Report.run_analyzeJson_eq client h]
      rfl

/-- It ends as its calls decide. -/
theorem ending_run_analyze (client : Client σ) (h : settings.checkSnippet code = .ok user)
    (state : σ) :
    let a := client (settings.format.firstCall code) state
    ((analyze settings code).run client state).ending =
      settings.format.ending a.completion (client ⟨.markdownRetry, user⟩ a.state).completion := by
  rw [run_analyze_eq client h]
  cases settings.format <;> rfl

/-- Its log is that of the answers to its calls. -/
theorem events_run_analyze (client : Client σ) (h : settings.checkSnippet code = .ok user)
    (state : σ) :
    let a := client (settings.format.firstCall code) state
    ((analyze settings code).run client state).events =
      settings.format.log a (client ⟨.markdownRetry, user⟩ a.state) := by
  rw [run_analyze_eq client h]
  cases settings.format <;> rfl

/-- The client is left as it was after one of the answers. -/
theorem Format.state_transcript (code : String) (first second : Answered σ) (f : Format) :
    (f.transcript code first second).state = first.state ∨
      (f.transcript code first second).state = second.state := by
  cases f with
  | markdown =>
      simp only [Format.transcript, Transcript.map, Markdown.transcript]
      split
      · exact .inr rfl
      · exact .inl rfl
  | json => exact .inl rfl

/-- A first answer that settles the analysis is the end of it. -/
theorem Format.Settles.transcript_eq {f : Format} {text : String} {result : Analysis}
    (h : f.Settles text result) {first : Answered σ} (hfirst : first.completion = .text text)
    (code : String) (second : Answered σ) :
    f.transcript code first second =
      ⟨.finished (.ok result), [f.firstCall code], first.events, first.state⟩ := by
  cases h with
  | document hheadings =>
      simp [Format.transcript, Transcript.map, Markdown.transcript, hfirst, Markdown.ending,
        Markdown.asksAgain, Markdown.log, hheadings, Ending.map, Except.map, Format.firstCall]
  | report hreport =>
      have hne : text ≠ "" := Report.ne_empty_of_ofAnswer hreport
      simp [Format.transcript, Transcript.map, Report.transcript, hfirst, reportEnding,
        reportResult, reportRemarks, hne, hreport, Ending.map, Except.map, Format.firstCall]

/-- An analysis has no more calls than its format allows. -/
theorem length_calls_run_analyze_le (settings : AnalysisSettings) (code : String)
    (client : Client σ) (state : σ) :
    ((analyze settings code).run client state).calls.length ≤ settings.format.maxCalls := by
  cases hcheck : settings.checkSnippet code with
  | error failure =>
      rw [analyze_of_error hcheck]
      exact Nat.zero_le _
  | ok user =>
      rw [run_analyze_eq client hcheck]
      cases settings.format with
      | markdown =>
          simp only [Format.transcript, Transcript.map, Markdown.transcript]
          split <;> simp [Format.maxCalls]
      | json => exact Nat.le_refl 1

end

end AnalysisGateway
