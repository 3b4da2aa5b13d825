import AnalysisGateway.Snippet

/-!
# The check of a snippet

What the check gives: the first of three reasons to refuse a snippet, and otherwise the trimmed one.
A refusal is never a failure of the provider.
-/

namespace AnalysisGateway.AnalysisSettings

variable (settings : AnalysisSettings) {code : String}

/-- What the check makes of a snippet, by the length that is left of it without the blanks around
it. -/
inductive Checks (code : String) : Except Failure String → Prop where
  | empty (h : (Text.trim code.toList).length = 0) :
      Checks code (.error (.validation "Code snippet cannot be empty"))
  | tooShort (hpos : (Text.trim code.toList).length ≠ 0)
      (h : (Text.trim code.toList).length < settings.minLength) :
      Checks code (.error (.validation ("Provide a code snippet of at least " ++
        toString settings.minLength ++ " characters")))
  | tooLong (hpos : (Text.trim code.toList).length ≠ 0)
      (hmin : settings.minLength ≤ (Text.trim code.toList).length)
      (h : settings.maxLength < (Text.trim code.toList).length) :
      Checks code (.error (.payloadTooLarge ("Code snippet too large (>" ++
        toString settings.maxLength ++ " chars)")))
  | accepted (hpos : (Text.trim code.toList).length ≠ 0)
      (hmin : settings.minLength ≤ (Text.trim code.toList).length)
      (hmax : (Text.trim code.toList).length ≤ settings.maxLength) :
      Checks code (.ok (Text.trimmed code))

variable {settings} in
/-- **The check gives what it makes of the snippet.** -/
theorem checks_iff {result : Except Failure String} :
    settings.Checks code result ↔ settings.checkSnippet code = result := by
  constructor
  · intro h
    cases h with
    | empty h => simp [checkSnippet, h]
    | tooShort hpos h => rw [checkSnippet, if_neg hpos, if_pos h]
    | tooLong hpos hmin h =>
        rw [checkSnippet, if_neg hpos, if_neg (Nat.not_lt.mpr hmin), if_pos h]
    | accepted hpos hmin hmax =>
        rw [checkSnippet, if_neg hpos, if_neg (Nat.not_lt.mpr hmin), if_neg (Nat.not_lt.mpr hmax)]
        rfl
  · rintro rfl
    rw [checkSnippet]
    split
    · next h => exact .empty h
    next hpos =>
      split
      · next h => exact .tooShort hpos h
      next hmin =>
        split
        · next h => exact .tooLong hpos (Nat.le_of_not_lt hmin) h
        · next hmax => exact .accepted hpos (Nat.le_of_not_lt hmin) (Nat.le_of_not_lt hmax)

/-- A snippet that passes is the trimmed one. -/
theorem checkSnippet_eq_trimmed {user : String} (h : settings.checkSnippet code = .ok user) :
    user = Text.trimmed code := by
  cases checks_iff.mpr h
  rfl

/-- A refused snippet is empty, too short or too long. -/
theorem exists_of_checkSnippet_eq_error {failure : Failure}
    (h : settings.checkSnippet code = .error failure) :
    (∃ text, failure = .validation text) ∨ ∃ text, failure = .payloadTooLarge text := by
  cases checks_iff.mpr h with
  | empty => exact .inl ⟨_, rfl⟩
  | tooShort => exact .inl ⟨_, rfl⟩
  | tooLong => exact .inr ⟨_, rfl⟩

/-- A refusal is the client's fault, not the provider's. -/
theorem isOfProvider_of_checkSnippet {failure : Failure}
    (h : settings.checkSnippet code = .error failure) : failure.isOfProvider = false := by
  obtain ⟨text, rfl⟩ | ⟨text, rfl⟩ := settings.exists_of_checkSnippet_eq_error h <;> rfl

end AnalysisGateway.AnalysisSettings
