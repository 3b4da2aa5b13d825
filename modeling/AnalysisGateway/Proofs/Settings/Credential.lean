import AnalysisGateway.Proofs.Text.Trim
import AnalysisGateway.Proofs.Text.Utf8Sound
import AnalysisGateway.Settings

/-!
# The credential in the environment

Two variables can give the credential. The first one counts if it is set to a text that is not all
blank, and then the second one counts for nothing: neither for the credential nor for any other
setting. What is given is the text without the blanks around it.
-/

namespace AnalysisGateway

/-- The settings with another credential. -/
def ProviderSettings.withKey (p : ProviderSettings) (key? : Option String) : ProviderSettings :=
  { p with apiKey := key? }

/-- The settings of a deployment with another credential. -/
def Settings.withKey (s : Settings) (key? : Option String) : Settings :=
  { s with provider := s.provider.withKey key? }

namespace Environment

variable {env : Environment} {name key : String}

/-- A variable is set to a text if its bytes are those of the text. -/
theorem text?_eq_some_iff {value : String} :
    env.text? name = some value ↔ env name = some (Text.toBytes value) := by
  rw [text?, Option.bind_eq_some_iff]
  constructor
  · rintro ⟨bytes, hset, hvalue⟩
    rw [hset, Text.ofBytes?_eq_some_iff.mp hvalue]
  · exact fun hset => ⟨_, hset, Text.ofBytes?_toBytes value⟩

/-- The text of a variable is that of its value. -/
theorem text?_congr {env' : Environment} (h : env' name = env name) :
    env'.text? name = env.text? name := by
  rw [text?, text?, h]

/-- Two environments that differ in the variables of the credential only. -/
def SameButKeys (env env' : Environment) : Prop :=
  ∀ name, name ≠ "GROQ_API_KEY" → name ≠ "LLM_API_KEY" → env' name = env name

/-- A variable gives a key if it is set to a text that is not all blank, of which the key is left
without the blanks around it. -/
def Gives (env : Environment) (name key : String) : Prop :=
  ∃ value, env name = some (Text.toBytes value) ∧
    (∃ c ∈ value.toList, Text.isBlank c = false) ∧ Text.trimmed value = key

/-- The key that a variable gives. -/
def given? (env : Environment) (name : String) : Option String :=
  ((env.text? name).map Text.trimmed).filter (!·.isEmpty)

theorem given?_eq_some_iff : env.given? name = some key ↔ env.Gives name key := by
  have hblank (value : String) : (!(Text.trimmed value).isEmpty) = true ↔
      ∃ c ∈ value.toList, Text.isBlank c = false := by
    rw [Bool.not_eq_true', ← Bool.not_eq_true, String.isEmpty_iff, Text.trimmed,
      String.ofList_eq_empty_iff, Text.trim_eq_nil_iff]
    simp
  rw [given?, Option.filter_eq_some_iff, Option.map_eq_some_iff]
  constructor
  · rintro ⟨⟨value, hvalue, rfl⟩, hkey⟩
    exact ⟨value, text?_eq_some_iff.mp hvalue, (hblank value).mp hkey, rfl⟩
  · rintro ⟨value, hvalue, hkey, rfl⟩
    exact ⟨⟨value, text?_eq_some_iff.mpr hvalue, rfl⟩, (hblank value).mpr hkey⟩

end Environment

namespace Settings

variable {env env' : Environment}

/-- Of several variables, the first one that gives a key counts. -/
theorem find?_cons_eq_or (env : Environment) (name : String) (names : List String) :
    (((name :: names).filterMap env.text?).map Text.trimmed).find? (!·.isEmpty) =
      (env.given? name).or (((names.filterMap env.text?).map Text.trimmed).find? (!·.isEmpty)) := by
  rw [Environment.given?]
  cases hvalue : env.text? name with
  | none =>
      rw [List.filterMap_cons_none hvalue, Option.map_none, Option.filter_none, Option.none_or]
  | some value =>
      rw [List.filterMap_cons_some hvalue, List.map_cons, List.find?_cons, Option.map_some,
        Option.filter_some]
      cases !(Text.trimmed value).isEmpty <;> rfl

theorem apiKey_eq_or (env : Environment) :
    apiKey env = (env.given? "GROQ_API_KEY").or (env.given? "LLM_API_KEY") := by
  rw [apiKey, find?_cons_eq_or, find?_cons_eq_or]
  exact congrArg _ Option.or_none

/-- **The credential** is the key that the first variable gives, or else the one that the second
gives. -/
theorem apiKey_eq_some_iff {key : String} :
    apiKey env = some key ↔
      env.Gives "GROQ_API_KEY" key ∨
        (∀ other, ¬ env.Gives "GROQ_API_KEY" other) ∧ env.Gives "LLM_API_KEY" key := by
  simp only [apiKey_eq_or, Option.or_eq_some_iff, Environment.given?_eq_some_iff,
    Option.eq_none_iff_forall_ne_some, ne_eq]

/-! ## What the credential does not decide -/

/-- A variable is read from its own value. -/
theorem readVariable_congr {α : Type} {name : String} (h : env' name = env name)
    (substitute : Substitute) (read : String → Except String α) :
    readVariable env' name substitute read = readVariable env name substitute read := by
  rw [readVariable, readVariable, Environment.text?_congr h]

/-- **The variables of the credential decide nothing else**: neither another setting nor a
warning. -/
theorem ofFormat_eq_withKey (h : env.SameButKeys env') (f : Format) :
    ofFormat env' f = ((ofFormat env f).1.withKey (apiKey env'), (ofFormat env f).2) := by
  have htext {name : String} (hgroq : name ≠ "GROQ_API_KEY") (hllm : name ≠ "LLM_API_KEY") :
      env'.text? name = env.text? name := Environment.text?_congr (h name hgroq hllm)
  have hread {α : Type} {name : String} (hgroq : name ≠ "GROQ_API_KEY")
      (hllm : name ≠ "LLM_API_KEY") (substitute : Substitute) (read : String → Except String α) :
      readVariable env' name substitute read = readVariable env name substitute read :=
    readVariable_congr (h name hgroq hllm) substitute read
  rw [ofFormat, ofFormat]
  simp (disch := decide) only [htext, hread]
  rfl

/-- Nor do they decide the format. -/
theorem formatOf_eq (h : env.SameButKeys env') : formatOf env' = formatOf env := by
  rw [formatOf, formatOf, readVariable_congr (h _ (by decide) (by decide))]

/-- **The second variable counts for nothing if the first one gives a key.** -/
theorem ofFormat_eq_of_gives {key : String} (hgives : env.Gives "GROQ_API_KEY" key)
    (hother : ∀ name, name ≠ "LLM_API_KEY" → env' name = env name) (f : Format) :
    ofFormat env' f = ofFormat env f := by
  have hkey : apiKey env' = apiKey env := by
    have hfirst : env'.given? "GROQ_API_KEY" = env.given? "GROQ_API_KEY" := by
      rw [Environment.given?, Environment.given?, Environment.text?_congr (hother _ (by decide))]
    rw [apiKey_eq_or, apiKey_eq_or, hfirst, Environment.given?_eq_some_iff.mpr hgives]
    rfl
  rw [ofFormat_eq_withKey (fun name _ hname => hother name hname), hkey]
  rfl

/-- It never counts for the format. -/
theorem formatOf_eq_of_ne (hother : ∀ name, name ≠ "LLM_API_KEY" → env' name = env name) :
    formatOf env' = formatOf env :=
  formatOf_eq fun name _ hname => hother name hname

end Settings

end AnalysisGateway
