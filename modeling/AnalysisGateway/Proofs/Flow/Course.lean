import AnalysisGateway.Proofs.Flow.Script
import AnalysisGateway.Proofs.Flow.Transcript

/-!
# The course of an analysis

An analysis takes one of ten courses: the snippet is refused, or the replies to its calls decide
between four ways of a JSON analysis and five of a Markdown analysis. A course says what the log has
and what the result is (`AnalysisSettings.Course`). What the log has is said in full: of each entry
the level, the message and the fields.

The course can be told from the log. Its levels say whether there was a second call, and which of
the replies counts (`told`); the entry of the second call names the headings that the first text
lacks, and the entry of a second text in vain those that it lacks.
-/

namespace AnalysisGateway

/-- What is received in reply to a call. -/
abbrev Received := Except Failure String

/-- The replies that a script has for so many calls. -/
def Script.replies : Nat → Script → List Received
  | 0, _ => []
  | n + 1, script => script.next :: replies n script.tail

@[simp] theorem Script.length_replies (n : Nat) (script : Script) :
    (script.replies n).length = n := by
  induction n generalizing script with
  | zero => rfl
  | succ n ih => simp [replies, ih]

/-- The replies to two calls at most are the first of two. -/
theorem Script.replies_eq_take {n : Nat} (hn : n ≤ 2) (script : Script) :
    script.replies n = [script.next, Script.next script.tail].take n := by
  match n with
  | 0 | 1 | 2 => rfl

/-! ## Entries -/

namespace Log

/-- An entry of the log: how urgent it is, what it says, and of what. -/
structure Entry where
  level : Level
  message : String
  fields : List (String × String)
  deriving DecidableEq

/-- An entry that gives a failure. -/
def Entry.ofFailure (message : String) (failure : Failure) : Entry :=
  ⟨.error, message, [("error", failure.describe)]⟩

/-- An entry that names the headings which do not occur in a text, in their order. -/
def Entry.ofLack (level : Level) (message text : String) : Entry :=
  ⟨level, message, [("reason", "missing headings: " ++ ", ".intercalate (headingsNotIn text))]⟩

/-- A first text lacks headings. -/
def Entry.retrying : String → Entry :=
  .ofLack .info "Retrying completion with stricter prompt due to missing sections"

/-- A second text lacks headings as well. -/
def Entry.retryIncomplete : String → Entry :=
  .ofLack .warn "Retry still missing sections; keeping first answer"

/-- What is wrong with a text without a report. -/
def complaint : ReportFlaw → String
  | .noObject => "no JSON object found in response"
  | .notJson span fault => "JSON decode error: " ++ fault.message span
  | .missingFields names => "missing fields: " ++ ", ".intercalate names
  | .wrongKind found expected =>
    "fields have unexpected types: " ++ (Json.Cause.wrongKind found expected).message

/-- A text has no report, for a reason. -/
def Entry.fallbackUsed (reason : String) : Entry :=
  ⟨.warn, "Failed to parse valid JSON from LLM response; using fallback", [("reason", reason)]⟩

end Log

open Log (Entry)

/-- The failure of the same kind without a text. -/
def Failure.blank : Failure → Failure
  | .validation _ => .validation ""
  | .payloadTooLarge _ => .payloadTooLarge ""
  | .configuration _ => .configuration ""
  | .providerTimeout => .providerTimeout
  | .provider _ => .provider ""
  | .emptyResponse => .emptyResponse
  | .internal _ => .internal ""

/-- A description begins with the kind of its failure. -/
theorem Failure.take_describe (f : Failure) :
    f.describe.toList.take 14 = f.blank.describe.toList.take 14 := by
  -- of two kinds, no longer beginning is the same: `Upstream API t` and `Upstream API e`
  have hopening (s t : String) (h : 14 ≤ s.toList.length) :
      (s ++ t).toList.take 14 = (s ++ "").toList.take 14 := by
    rw [String.toList_append, String.toList_append, List.take_append_of_le_length h,
      List.take_append_of_le_length h]
  cases f with
  | validation t => exact hopening "Validation error: " t (by decide)
  | payloadTooLarge t => exact hopening "Payload too large: " t (by decide)
  | configuration t => exact hopening "Configuration error: " t (by decide)
  | providerTimeout => rfl
  | provider t => exact hopening "Upstream API error: " t (by decide)
  | emptyResponse => rfl
  | internal t => exact hopening "Internal server error: " t (by decide)

/-- A description tells its failure: the kind by its first characters, the text by the others. -/
theorem Failure.describe_injective : Function.Injective Failure.describe := by
  intro f g h
  have hkind : f.blank.describe.toList.take 14 = g.blank.describe.toList.take 14 := by
    rw [← take_describe, h, take_describe]
  cases f <;> cases g <;> simp only [blank] at hkind
  all_goals first
    | rfl
    | exact congrArg _ ((String.append_right_inj _).mp h)
    | exact absurd hkind (by decide)

/-- What the log has of an event. -/
def Event.entry (event : Event) : Entry := ⟨event.level, event.message, event.fields⟩

/-- What is reported of a text without all headings names those that do not occur in it. -/
theorem lack_eq (text : String) :
    lack text = "missing headings: " ++ ", ".intercalate (headingsNotIn text) :=
  congrArg (fun headings => Incomplete.reason ⟨headings⟩) (missingHeadings_eq text)

@[simp] theorem entry_retrying (text : String) :
    (Event.retrying (lack text)).entry = .retrying text := by
  rw [lack_eq]
  rfl

@[simp] theorem entry_retryIncomplete (text : String) :
    (Event.retryIncomplete (lack text)).entry = .retryIncomplete text := by
  rw [lack_eq]
  rfl

@[simp] theorem entry_retryFailed (failure : Failure) :
    (Event.retryFailed failure).entry =
      .ofFailure "LLM call failed on retry; keeping first answer" failure := rfl

@[simp] theorem entry_fallbackUsed (flaw : ReportFlaw) :
    (Event.fallbackUsed flaw.reason).entry = .fallbackUsed (Log.complaint flaw) := by
  cases flaw <;> rfl

/-! ## Courses -/

/-- The courses of a Markdown analysis. -/
inductive Markdown.Course : List Received → List Entry → Except Failure Document → Prop where
  | failed (failure : Failure) :
      Course [.error failure] [.ofFailure "LLM call failed on first attempt" failure]
        (.error failure)
  | complete {first : String} (h : HasHeadings first) : Course [.ok first] [] (.ok ⟨first⟩)
  | retried {first second : String} (hfirst : ¬ HasHeadings first) (hsecond : HasHeadings second) :
      Course [.ok first, .ok second] [.retrying first] (.ok ⟨second⟩)
  | retryIncomplete {first second : String} (hfirst : ¬ HasHeadings first)
      (hsecond : ¬ HasHeadings second) :
      Course [.ok first, .ok second] [.retrying first, .retryIncomplete second] (kept first)
  | retryFailed {first : String} (hfirst : ¬ HasHeadings first) (failure : Failure) :
      Course [.ok first, .error failure]
        [.retrying first, .ofFailure "LLM call failed on retry; keeping first answer" failure]
        (kept first)

/-- The courses of a JSON analysis. -/
inductive Report.Course : List Received → List Entry → Except Failure Report → Prop where
  | failed (failure : Failure) :
      Course [.error failure] [.ofFailure "LLM call failed" failure] (.error failure.collapsed)
  | empty : Course [.ok ""] [] (.error (Failure.collapsed .emptyResponse))
  | report {text : String} {r : Report} (h : ofAnswer text = .ok r) : Course [.ok text] [] (.ok r)
  | fallback {text : String} {flaw : ReportFlaw} (hne : text ≠ "")
      (h : ofAnswer text = .error flaw) :
      Course [.ok text] [.fallbackUsed (Log.complaint flaw)] (.ok .fallback)

/-- The courses of an analysis: a refused snippet has no replies and leaves nothing in the log. -/
inductive AnalysisSettings.Course (settings : AnalysisSettings) (code : String) :
    List Received → List Entry → Except Failure Analysis → Prop where
  | refused {failure : Failure} (h : settings.checkSnippet code = .error failure) :
      Course settings code [] [] (.error failure)
  | markdown {user : String} {replies : List Received} {log : List Entry}
      {result : Except Failure Document} (haccepts : settings.checkSnippet code = .ok user)
      (hformat : settings.format = .markdown) (h : Markdown.Course replies log result) :
      Course settings code replies log (result.map .document)
  | json {user : String} {replies : List Received} {log : List Entry}
      {result : Except Failure Report} (haccepts : settings.checkSnippet code = .ok user)
      (hformat : settings.format = .json) (h : Report.Course replies log result) :
      Course settings code replies log (result.map .report)

/-! ## Runs -/

/-- A transcript ends with a result, by a course with as many of two replies as it has calls. -/
def Transcript.Follows {α σ : Type} (course : List Received → List Entry → α → Prop)
    (first second : Received) (t : Transcript α σ) : Prop :=
  ∃ result, t.ending = .finished result ∧
    course ([first, second].take t.calls.length) (t.events.map Event.entry) result

section

variable {σ : Type} (between after : σ)

/-- After a first text without all headings, the second reply tells the courses apart. -/
theorem Markdown.follows_retry {first : String} (hfirst : ¬ HasHeadings first) (user : String)
    (second : Received) :
    (transcript user ⟨.text first, [], between⟩ ⟨.ofOutcome second, [], after⟩).Follows Course
      (.ok first) second := by
  cases second with
  | error failure =>
      refine ⟨kept first, ?_, ?_⟩
      · simp [transcript, ending, hfirst, Completion.ofOutcome, retryEnding]
      · simpa [transcript, asksAgain, hfirst, log, Completion.ofOutcome, retryRemarks] using
          Course.retryFailed hfirst failure
  | ok second =>
      by_cases hsecond : HasHeadings second
      · refine ⟨.ok ⟨second⟩, ?_, ?_⟩
        · simp [transcript, ending, hfirst, Completion.ofOutcome, retryEnding, hsecond]
        · simpa [transcript, asksAgain, hfirst, log, Completion.ofOutcome, retryRemarks, hsecond]
            using Course.retried hfirst hsecond
      · refine ⟨kept first, ?_, ?_⟩
        · simp [transcript, ending, hfirst, Completion.ofOutcome, retryEnding, hsecond]
        · simpa [transcript, asksAgain, hfirst, log, Completion.ofOutcome, retryRemarks, hsecond]
            using Course.retryIncomplete hfirst hsecond

/-- **A Markdown analysis takes one of its courses.** -/
theorem Markdown.follows_course (user : String) (first second : Received) :
    (transcript user ⟨.ofOutcome first, [], between⟩ ⟨.ofOutcome second, [], after⟩).Follows Course
      first second := by
  cases first with
  | error failure => exact ⟨_, rfl, .failed failure⟩
  | ok first =>
      by_cases hfirst : HasHeadings first
      · refine ⟨.ok ⟨first⟩, ?_, ?_⟩
        · simp [transcript, ending, hfirst, Completion.ofOutcome]
        · simpa [transcript, asksAgain, hfirst, log, Completion.ofOutcome] using
            Course.complete hfirst
      · exact follows_retry between after hfirst user second

/-- **A JSON analysis takes one of its courses.** -/
theorem Report.follows_course (code : String) (first second : Received) :
    (transcript code ⟨.ofOutcome first, [], after⟩).Follows Course first second := by
  cases first with
  | error failure => exact ⟨_, rfl, .failed failure⟩
  | ok text =>
      by_cases hempty : text = ""
      · subst hempty
        exact ⟨_, rfl, .empty⟩
      · cases hanswer : ofAnswer text with
        | ok r =>
            refine ⟨.ok r, ?_, ?_⟩
            · simp [transcript, Completion.ofOutcome, reportEnding, reportResult, hempty, hanswer]
            · simpa [transcript, Completion.ofOutcome, reportRemarks, hempty, hanswer] using
                Course.report hanswer
        | error flaw =>
            refine ⟨.ok .fallback, ?_, ?_⟩
            · simp [transcript, Completion.ofOutcome, reportEnding, reportResult, hempty, hanswer]
            · simpa [transcript, Completion.ofOutcome, reportRemarks, hempty, hanswer] using
                Course.fallback hempty hanswer

end

/-- **Every run against a script takes one of the courses**, with the replies that it takes. -/
theorem AnalysisSettings.exists_course (settings : AnalysisSettings) (code : String)
    (script : Script) :
    let t := (analyze settings code).run scripted script
    ∃ result, t.ending = .finished result ∧
      settings.Course code (script.replies t.calls.length) (t.events.map Event.entry) result := by
  intro t
  cases hcheck : settings.checkSnippet code with
  | error failure =>
      have hrun : t = ⟨.finished (.error failure), [], [], script⟩ := by
        simp only [t, analyze_of_error hcheck, Dialogue.run_done]
      rw [hrun]
      exact ⟨_, rfl, .refused hcheck⟩
  | ok user =>
      have hcalls := length_calls_run_analyze_le settings code scripted script
      have hrun := run_analyze_eq scripted hcheck script
      simp only [scripted_eq] at hrun
      cases hformat : settings.format with
      | markdown =>
          rw [hformat] at hcalls hrun
          obtain ⟨result, hending, hcourse⟩ := Markdown.follows_course script.tail script.tail.tail
            (Text.trimmed code) script.next (Script.next script.tail)
          rw [Script.replies_eq_take hcalls]
          simp only [t, hrun, Format.transcript, Transcript.map, hending, Ending.map]
          exact ⟨_, rfl, .markdown hcheck hformat hcourse⟩
      | json =>
          rw [hformat] at hcalls hrun
          obtain ⟨result, hending, hcourse⟩ := Report.follows_course script.tail code script.next
            (Script.next script.tail)
          rw [Script.replies_eq_take (Nat.le_trans hcalls (by decide))]
          simp only [t, hrun, Format.transcript, Transcript.map, hending, Ending.map]
          exact ⟨_, rfl, .json hcheck hformat hcourse⟩

/-! ## What the log tells -/

/-- The number of calls that a log tells of, if there has been a reply at all. -/
def callsTold (replies : List Received) (log : List Entry) : Nat :=
  if replies.isEmpty then 0 else if ∃ entry ∈ log, entry.level = .info then 2 else 1

/-- The analysis that the levels of a log and the replies tell of. -/
def told : Format → List Level → List Received → Option Analysis
  | .markdown, [], [.ok first] => some (.document ⟨first⟩)
  | .markdown, [.info], [.ok _, .ok second] => some (.document ⟨second⟩)
  | .markdown, [.info, .warn], [.ok first, .ok _] =>
    (Markdown.kept first).toOption.map .document
  | .markdown, [.info, .error], [.ok first, .error _] =>
    (Markdown.kept first).toOption.map .document
  | .json, [], [.ok text] => (Report.ofAnswer text).toOption.map .report
  | .json, [.warn], [.ok _] => some (.report .fallback)
  | _, _, _ => none

section

variable {replies : List Received} {log : List Entry}

/-- What is told of a Markdown analysis is its document, if it has one. -/
theorem Markdown.Course.told_eq {result : Except Failure Document}
    (h : Course replies log result) :
    told .markdown (log.map Entry.level) replies = result.toOption.map .document := by
  cases h <;> rfl

/-- What is told of a JSON analysis is its report, if it has one. -/
theorem Report.Course.told_eq {result : Except Failure Report} (h : Course replies log result) :
    told .json (log.map Entry.level) replies = result.toOption.map .report := by
  cases h with
  | failed failure => rfl
  | empty => rfl
  | report hreport =>
      simp only [List.map_nil, told, hreport]
      rfl
  | fallback => rfl

/-- A changed result is there if it was there before. -/
theorem toOption_map {ε α β : Type} (f : α → β) (result : Except ε α) :
    (result.map f).toOption = result.toOption.map f := by
  cases result <;> rfl

namespace AnalysisSettings.Course

variable {settings : AnalysisSettings} {code : String} {result : Except Failure Analysis}

/-- **What is told of an analysis is its result, if it has one.** -/
theorem told_eq (h : settings.Course code replies log result) :
    told settings.format (log.map Entry.level) replies = result.toOption := by
  cases h with
  | refused => cases settings.format <;> rfl
  | markdown _ hformat h => rw [hformat, h.told_eq, toOption_map]
  | json _ hformat h => rw [hformat, h.told_eq, toOption_map]

/-- A second call is told of at the level of information, and nothing else is. -/
theorem length_replies (h : settings.Course code replies log result) :
    replies.length = callsTold replies log := by
  cases h with
  | refused => rfl
  | markdown _ _ h =>
      cases h <;> simp [callsTold, Entry.ofFailure, Entry.retrying, Entry.retryIncomplete,
        Entry.ofLack]
  | json _ _ h => cases h <;> simp [callsTold, Entry.ofFailure, Entry.fallbackUsed]

/-- There is a second call exactly if the log has an entry at the level of information. -/
theorem length_replies_eq_two_iff (h : settings.Course code replies log result) :
    replies.length = 2 ↔ ∃ entry ∈ log, entry.level = .info := by
  cases h with
  | refused => simp
  | markdown _ _ h =>
      cases h <;> simp [Entry.ofFailure, Entry.retrying, Entry.retryIncomplete, Entry.ofLack]
  | json _ _ h => cases h <;> simp [Entry.ofFailure, Entry.fallbackUsed]

/-- If the only call fails, the log has one error, with the failure. -/
theorem exists_error {failure : Failure} (h : settings.Course code [.error failure] log result) :
    ∃ message, log = [⟨.error, message, [("error", failure.describe)]⟩] := by
  cases h with
  | markdown _ _ h =>
      cases h
      exact ⟨_, rfl⟩
  | json _ _ h =>
      cases h
      exact ⟨_, rfl⟩

/-- What follows on a second call: its entry names the headings that the first text lacks, and what
comes after it depends on the second reply. -/
theorem entries_eq {first : String} {second : Received}
    (h : settings.Course code [.ok first, second] log result) :
    log.map (fun entry => (entry.level, entry.fields)) =
      (.info, [("reason", "missing headings: " ++ ", ".intercalate (headingsNotIn first))]) ::
        match second with
        | .error failure => [(.error, [("error", failure.describe)])]
        | .ok text =>
          if HasHeadings text then []
          else [(.warn, [("reason",
            "missing headings: " ++ ", ".intercalate (headingsNotIn text))])] := by
  cases h with
  | markdown _ _ h =>
      cases h with
      | retried _ hsecond => simp only [if_pos hsecond]; rfl
      | retryIncomplete _ hsecond => simp only [if_neg hsecond]; rfl
      | retryFailed _ failure => rfl
  | json _ _ h => contradiction

/-- The fallback is logged exactly if it takes the place of a text without a report. -/
theorem fallbackUsed_mem_iff (h : settings.Course code replies log result) (reason : String) :
    .fallbackUsed reason ∈ log ↔
      settings.format = .json ∧ ∃ text flaw, replies = [.ok text] ∧ text ≠ "" ∧
        Report.ofAnswer text = .error flaw ∧ reason = Log.complaint flaw := by
  cases h with
  | refused => simp
  | markdown _ hformat h =>
      cases h <;> simp [hformat, Entry.fallbackUsed, Entry.retrying, Entry.retryIncomplete,
        Entry.ofLack, Entry.ofFailure]
  | json _ hformat h =>
      cases h with
      | failed failure => simp [Entry.fallbackUsed, Entry.ofFailure]
      | empty => simp
      | report hreport => simp [hreport]
      | fallback hne hflaw => simp [hformat, hne, hflaw, Entry.fallbackUsed]

end AnalysisSettings.Course

end

/-- **The log tells the course of an analysis.** Every run against a script takes one of the
courses, with the entries and the result of this course. So

1. if the only call fails, there is one error, with the failure, which its description tells;
2. if there is a second call, the log has an informative entry that names the headings which the
   first text lacks, and after it nothing, a warning that names the headings which the second text
   lacks, or an error with the failure of the second call;
3. the fallback is logged, with the reason, exactly if it takes the place of a text that is not
   empty and has no report;
4. there is a second call exactly if the log has an informative entry;
5. the number of calls can be told from the levels of the log, once there is a reply;
6. the result can be told from the levels of the log and the replies. -/
theorem analyze_follows_course (settings : AnalysisSettings) (code : String) (script : Script) :
    let t := (analyze settings code).run scripted script
    let replies := script.replies t.calls.length
    let log := t.events.map Event.entry
    ∃ result, t.ending = .finished result ∧ settings.Course code replies log result ∧
      (∀ failure, replies = [.error failure] →
        ∃ message, log = [⟨.error, message, [("error", failure.describe)]⟩]) ∧
      Function.Injective Failure.describe ∧
      (∀ first second, replies = [.ok first, second] →
        log.map (fun entry => (entry.level, entry.fields)) =
          (.info, [("reason", "missing headings: " ++ ", ".intercalate (headingsNotIn first))]) ::
            match second with
            | .error failure => [(.error, [("error", failure.describe)])]
            | .ok text =>
              if HasHeadings text then []
              else [(.warn, [("reason",
                "missing headings: " ++ ", ".intercalate (headingsNotIn text))])]) ∧
      (∀ reason, .fallbackUsed reason ∈ log ↔
        settings.format = .json ∧ ∃ text flaw, replies = [.ok text] ∧ text ≠ "" ∧
          Report.ofAnswer text = .error flaw ∧ reason = Log.complaint flaw) ∧
      (t.calls.length = 2 ↔ ∃ entry ∈ log, entry.level = .info) ∧
      t.calls.length = callsTold replies log ∧
      told settings.format (log.map Entry.level) replies = result.toOption := by
  intro t replies log
  obtain ⟨result, hending, hcourse⟩ := settings.exists_course code script
  change settings.Course code replies log result at hcourse
  have hcalls : replies.length = t.calls.length := script.length_replies _
  have htwo := hcourse.length_replies_eq_two_iff
  have hnumber := hcourse.length_replies
  rw [hcalls] at htwo hnumber
  refine ⟨result, hending, hcourse, fun failure hreplies => ?_, Failure.describe_injective,
    fun first second hreplies => ?_, hcourse.fallbackUsed_mem_iff, htwo, hnumber, hcourse.told_eq⟩
  · rw [hreplies] at hcourse
    exact hcourse.exists_error
  · rw [hreplies] at hcourse
    exact hcourse.entries_eq

end AnalysisGateway
