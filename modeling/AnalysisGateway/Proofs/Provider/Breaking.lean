import AnalysisGateway.Proofs.Provider.Failing
import AnalysisGateway.Proofs.Settings.Credential

/-!
# Keys that break calls off

A key is given without the blanks around it, so no line break is left at its ends. A control inside
of it is, and no header can hold that one: with such a key every call breaks off, before anything is
logged or sent. Every other call gives a text or a failure, whatever the address, the model, the
texts and the replies are.
-/

namespace AnalysisGateway

/-! ## Which keys there are -/

/-- A variable gives texts without blanks around them, and every one of these but the empty one. -/
theorem Environment.exists_gives_iff {key : String} (name : String) :
    (∃ env : Environment, env.Gives name key) ↔ key ≠ "" ∧ Text.trimmed key = key := by
  constructor
  · rintro ⟨env, value, -, ⟨c, hc, hblank⟩, rfl⟩
    refine ⟨fun hempty => ?_, ?_⟩
    · rw [Text.trimmed, String.ofList_eq_empty_iff, Text.trim_eq_nil_iff] at hempty
      rw [hempty c hc] at hblank
      contradiction
    · rw [Text.trimmed, Text.trimmed, String.toList_ofList, Text.trim_trim]
  · rintro ⟨hne, htrimmed⟩
    refine ⟨fun _ => some (Text.toBytes key), key, rfl, ?_, htrimmed⟩
    by_contra hnone
    have hnil : Text.trim key.toList = [] := by
      refine (Text.trim_eq_nil_iff _).mpr fun c hc => ?_
      by_contra hblank
      exact hnone ⟨c, hc, by simpa using hblank⟩
    refine hne ?_
    rw [← htrimmed, Text.trimmed, hnil]

/-- The keys that environments give. -/
theorem Settings.exists_apiKey_eq_iff {key : String} :
    (∃ env, apiKey env = some key) ↔ key ≠ "" ∧ Text.trimmed key = key := by
  rw [← Environment.exists_gives_iff "GROQ_API_KEY"]
  constructor
  · rintro ⟨env, hkey⟩
    obtain hgives | ⟨-, hgives⟩ := apiKey_eq_some_iff.mp hkey
    · exact ⟨env, hgives⟩
    · exact (Environment.exists_gives_iff _).mpr ((Environment.exists_gives_iff _).mp ⟨env, hgives⟩)
  · rintro ⟨env, hgives⟩
    exact ⟨env, apiKey_eq_some_iff.mpr (.inl hgives)⟩

/-! ## Which of them break calls off -/

/-- A header holds a text without controls, but for tabs. -/
theorem fitsHeader_iff {s : String} :
    fitsHeader s = true ↔ ∀ c ∈ s.toList, c = '\t' ∨ ' ' ≤ c ∧ c ≠ '\x7f' := by
  simp [fitsHeader]

namespace Provider

variable {p : ProviderSettings} {system user : String} {line : Line}

/-- A call that breaks off has logged nothing and sent nothing. -/
theorem complete_eq_of_crashed {provider : Provider} {detail : String}
    (h : (provider.complete system user line).completion = .crashed detail) :
    provider.complete system user line = ⟨.crashed detail, [], line⟩ := by
  cases provider with
  | unavailable reason => contradiction
  | available p key =>
      have hanswers := p.answers_ask key system user line
      rw [complete] at h ⊢
      generalize p.ask key system user line = answered at h hanswers
      cases hanswers with
      | crashed => rw [Completion.crashed.inj h]
      | unaddressed => exact Completion.noConfusion h
      | late => exact Completion.noConfusion h
      | unconnected => exact Completion.noConfusion h
      | sent =>
          rw [Answered.ofOutcome] at h
          split at h <;> exact Completion.noConfusion h

/-- A completion is a text or a failure unless its call has broken off. -/
theorem text_or_failed_iff {completion : Completion} :
    ((∃ text, completion = .text text) ∨ ∃ failure, completion = .failed failure) ↔
      ¬ ∃ detail, completion = .crashed detail := by
  cases completion <;> simp

/-- A call breaks off exactly if there is a key that no header can hold. -/
theorem exists_completion_eq_crashed_iff :
    (∃ detail, ((ofSettings p).complete system user line).completion = .crashed detail) ↔
      ∃ key, p.apiKey = some key ∧ fitsHeader key = false := by
  rw [ofSettings]
  cases hkey : p.apiKey with
  | none => simp [complete, Answered.unsent]
  | some key => simp [complete, p.exists_completion_ask_eq_crashed_iff]

/-- **Which calls give a text or a failure**: all of them, unless there is a key with a control
other than a tab. A call with such a key breaks off, and has logged nothing and sent nothing. An
environment gives every key that is not empty and has no blanks around it. -/
theorem answers_iff_fitsHeader (p : ProviderSettings) (system user : String) (line : Line) :
    let a := (ofSettings p).complete system user line
    (((∃ text, a.completion = .text text) ∨ ∃ failure, a.completion = .failed failure) ↔
      ∀ key, p.apiKey = some key → ∀ c ∈ key.toList, c = '\t' ∨ ' ' ≤ c ∧ c ≠ '\x7f') ∧
    (∀ detail, a.completion = .crashed detail → a.events = [] ∧ a.state = line) ∧
    ∀ key, (∃ env, ∀ f, (Settings.ofFormat env f).1.provider.apiKey = some key) ↔
      key ≠ "" ∧ Text.trimmed key = key := by
  intro a
  refine ⟨?_, fun detail hcrashed => ?_, fun key => ?_⟩
  · rw [text_or_failed_iff, exists_completion_eq_crashed_iff]
    simp only [← fitsHeader_iff, not_exists, not_and, Bool.not_eq_false]
  · have ha : a = ⟨.crashed detail, [], line⟩ := complete_eq_of_crashed hcrashed
    rw [ha]
    exact ⟨rfl, rfl⟩
  · rw [← Settings.exists_apiKey_eq_iff]
    exact exists_congr fun env => ⟨fun h => h .markdown, fun h f => h⟩

/-- Trimming leaves a line break where it stands between two other characters, and then a call
breaks off. -/
theorem not_forall_completion_ne_crashed :
    ¬ ∀ (env : Environment) (f : Format) (system user : String) (line : Line) (detail : String),
      ((ofSettings (Settings.ofFormat env f).1.provider).complete system user line).completion ≠
        .crashed detail := by
  intro h
  let env := Environment.ofList [("GROQ_API_KEY", Text.toBytes "k\r\nX-Evil: 1")]
  have hkey : (Settings.ofFormat env .markdown).1.provider.apiKey = some "k\r\nX-Evil: 1" := by
    decide +kernel
  obtain ⟨detail, hcrashed⟩ := exists_completion_eq_crashed_iff.mpr
    ⟨_, hkey, (by decide : fitsHeader "k\r\nX-Evil: 1" = false)⟩
  exact h env .markdown "" "" ⟨true, [], [], false⟩ detail hcrashed

end Provider

end AnalysisGateway
