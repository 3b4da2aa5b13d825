import AnalysisGateway.Proofs.Flow.Transcript
import AnalysisGateway.Proofs.Settings.Numbers

/-!
# The bounds on a snippet

A snippet counts by the length that is left of it without the blanks around it. Whatever bounds an
environment gives, a snippet below the lower one is refused as too short, and one that is not below
the lower but above the upper one as too large. Nobody is asked in either case.

The two bounds are read apart, so an environment can cross them. The lower one counts first: between
crossed bounds a snippet is too short, although it is above the upper one as well.
-/

namespace AnalysisGateway

/-- The settings reject a snippet with a failure: the check gives it, and so does the analysis,
whoever answers the calls, and there are none. -/
structure AnalysisSettings.Rejects (s : AnalysisSettings) (code : String) (failure : Failure) :
    Prop where
  checkSnippet_eq : s.checkSnippet code = .error failure
  run_eq : ∀ {σ : Type} (client : Client σ) (state : σ),
    (analyze s code).run client state = ⟨.finished (.error failure), [], [], state⟩

namespace AnalysisSettings

variable {s : AnalysisSettings} {code : String}

/-- What the check refuses is rejected, for nobody is asked before the check. -/
theorem rejects_iff {failure : Failure} :
    s.Rejects code failure ↔ s.checkSnippet code = .error failure := by
  refine ⟨Rejects.checkSnippet_eq, fun h => ⟨h, fun client state => ?_⟩⟩
  rw [analyze_of_error h]
  rfl

/-- The check refuses as too short what is below a lower bound of at least one. -/
theorem checkSnippet_validation_iff (hmin : 1 ≤ s.minLength) :
    (∃ text, s.checkSnippet code = .error (.validation text)) ↔
      (Text.trim code.toList).length < s.minLength := by
  constructor
  · rintro ⟨text, h⟩
    cases checks_iff.mpr h with
    | empty hempty => omega
    | tooShort _ hshort => exact hshort
  · intro hshort
    by_cases hempty : (Text.trim code.toList).length = 0
    · exact ⟨_, checks_iff.mp (.empty hempty)⟩
    · exact ⟨_, checks_iff.mp (.tooShort hempty hshort)⟩

/-- The check refuses as too large what is above the upper bound, unless it is too short. -/
theorem checkSnippet_payloadTooLarge_iff :
    (∃ text, s.checkSnippet code = .error (.payloadTooLarge text)) ↔
      s.minLength ≤ (Text.trim code.toList).length ∧
        s.maxLength < (Text.trim code.toList).length := by
  constructor
  · rintro ⟨text, h⟩
    obtain _ | _ | ⟨-, hmin, hlong⟩ := checks_iff.mpr h
    exact ⟨hmin, hlong⟩
  · rintro ⟨hmin, hlong⟩
    exact ⟨_, checks_iff.mp (.tooLong (by omega) hmin hlong)⟩

end AnalysisSettings

namespace Settings

/-- **Which snippets the bounds of an environment reject**: as too short those below the lower
bound, and as too large those above the upper bound that are not too short. -/
theorem rejects_iff_length (env : Environment) (f : Format) (code : String) :
    let s := (ofFormat env f).1.analysis
    let n := (Text.trim code.toList).length
    ((∃ text, s.Rejects code (.validation text) ∧ (Failure.validation text).status = 400) ↔
      n < s.minLength) ∧
    ((∃ text, s.Rejects code (.payloadTooLarge text) ∧
        (Failure.payloadTooLarge text).status = 413) ↔
      s.minLength ≤ n ∧ s.maxLength < n) := by
  intro s n
  have hmin : 1 ≤ s.minLength := one_le_minLength env f
  simp only [AnalysisSettings.rejects_iff, Failure.status, and_true]
  exact ⟨AnalysisSettings.checkSnippet_validation_iff hmin,
    AnalysisSettings.checkSnippet_payloadTooLarge_iff⟩

/-- Between crossed bounds a snippet is above the upper one, and still not too large: with an upper
bound of two, three characters are below the fifty of Markdown. -/
theorem not_forall_rejects_too_large :
    ¬ ∀ (env : Environment) (f : Format) (code : String),
      (ofFormat env f).1.analysis.maxLength < (Text.trim code.toList).length →
      ∃ text, (ofFormat env f).1.analysis.Rejects code (.payloadTooLarge text) := by
  intro h
  let env := Environment.ofList [("MAX_CODE_LENGTH", Text.toBytes "2")]
  have hbounds : (ofFormat env .markdown).1.analysis = ⟨.markdown, 50, 2⟩ := by decide +kernel
  obtain ⟨text, hrejects⟩ := h env .markdown "abc" (by rw [hbounds]; decide)
  have hcheck := hrejects.checkSnippet_eq
  rw [hbounds] at hcheck
  exact absurd ((AnalysisSettings.checkSnippet_payloadTooLarge_iff).mp ⟨text, hcheck⟩) (by decide)

end Settings

end AnalysisGateway
