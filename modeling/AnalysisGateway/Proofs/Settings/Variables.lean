import Mathlib.Data.List.Forall2
import AnalysisGateway.Proofs.Settings.Credential

/-!
# Settings and their variables

Seven of the settings are quantities, each read from one variable (`Quantity`); the others are
texts, the credential and the format. Every setting has variables of its own (`Setting.names`),
and the log has one part for each quantity, in the order of declaration. Two equations say so:
`Quantity.get_ofFormat` for the values and `events_ofFormat` for the log.

The rest follows from them. A setting changes with its own variables only
(`Setting.get_ofFormat_congr`), and a value that cannot be read leaves the settings as if the
variable were not set (`ofFormat_cleared`).
-/

namespace AnalysisGateway

namespace Settings

/-! ## One variable -/

/-- What a variable yields: nothing unless it is set to a text, then its value if the text can be
read, and otherwise a warning. -/
inductive Yields {α : Type} (env : Environment) (name : String) (substitute : Substitute)
    (read : String → Except String α) : Option α × List Event → Prop where
  | unset (hset : ∀ text, env name ≠ some (Text.toBytes text)) :
      Yields env name substitute read (none, [])
  | value {text : String} {a : α} (hset : env name = some (Text.toBytes text))
      (hread : read text = .ok a) : Yields env name substitute read (some a, [])
  | warned {text reason : String} (hset : env name = some (Text.toBytes text))
      (hread : read text = .error reason) :
      Yields env name substitute read (none, [.settingIgnored name text reason substitute])

section

variable {env env' : Environment} {name : String} {substitute : Substitute} {α : Type}
  {read : String → Except String α}

/-- A variable is not set to a text if it is set to no text's bytes. -/
theorem text?_eq_none_iff :
    env.text? name = none ↔ ∀ text, env name ≠ some (Text.toBytes text) := by
  simp only [Option.eq_none_iff_forall_ne_some, ne_eq, Environment.text?_eq_some_iff]

/-- **A variable is read as what it yields.** -/
theorem yields_readVariable (env : Environment) (name : String) (substitute : Substitute)
    (read : String → Except String α) :
    Yields env name substitute read (readVariable env name substitute read) := by
  unfold readVariable
  split
  · next hnone => exact .unset (text?_eq_none_iff.mp hnone)
  · next text htext =>
    have hset : env name = some (Text.toBytes text) := Environment.text?_eq_some_iff.mp htext
    split
    · next a hread => exact .value hset hread
    · next reason hread => exact .warned hset hread

/-- A variable that is not set yields nothing. -/
theorem readVariable_of_text?_eq_none (h : env.text? name = none) :
    readVariable env name substitute read = (none, []) := by
  simp only [readVariable, h]

/-- A text that can be read yields its value. -/
theorem readVariable_of_ok {text : String} {a : α} (hset : env name = some (Text.toBytes text))
    (hread : read text = .ok a) : readVariable env name substitute read = (some a, []) := by
  have htext : env.text? name = some text := Environment.text?_eq_some_iff.mpr hset
  simp only [readVariable, htext, hread]

/-- A text that cannot be read yields a warning. -/
theorem readVariable_of_error {text reason : String}
    (hset : env name = some (Text.toBytes text)) (hread : read text = .error reason) :
    readVariable env name substitute read =
      (none, [.settingIgnored name text reason substitute]) := by
  have htext : env.text? name = some text := Environment.text?_eq_some_iff.mpr hset
  simp only [readVariable, htext, hread]

end

/-! ## Quantities -/

/-- A number among the settings, with a variable of its own. -/
inductive Quantity where
  | portNumber
  | maxBodyBytes
  | minLength
  | maxLength
  | temperature
  | maxTokens
  | timeout
  deriving DecidableEq, Repr

namespace Quantity

/-- All quantities, in the order in which they are declared. -/
def all : List Quantity :=
  [portNumber, maxBodyBytes, minLength, maxLength, temperature, maxTokens, timeout]

theorem mem_all (q : Quantity) : q ∈ all := by
  cases q <;> decide

/-- The variable of a quantity. -/
def name : Quantity → String
  | portNumber => "PORT"
  | maxBodyBytes => "MAX_BODY_BYTES"
  | minLength => "MIN_CODE_LENGTH"
  | maxLength => "MAX_CODE_LENGTH"
  | temperature => "LLM_TEMPERATURE"
  | maxTokens => "LLM_MAX_TOKENS"
  | timeout => "LLM_TIMEOUT"

theorem name_injective : Function.Injective name := by
  intro q r h
  cases q <;> cases r <;> simp_all [name]

/-- The bits of a natural number; the temperature is none. -/
def width? : Quantity → Option Nat
  | portNumber => some 16
  | maxTokens => some 32
  | maxBodyBytes | minLength | maxLength | timeout => some 64
  | temperature => none

/-- How a quantity is read: a natural number of its width, or the pattern of a single. -/
def read (q : Quantity) : String → Except String Nat :=
  match q.width? with
  | some width => readNumber width
  | none => readReal

/-- What takes the place of a quantity that cannot be read. -/
def substitute : Quantity → Substitute
  | maxTokens => .nothing
  | _ => .byDefault

/-- The value of a quantity in the settings; only the bound on tokens may be absent. -/
def get (q : Quantity) (s : Settings) : Option Nat :=
  match q with
  | portNumber => some s.server.portNumber
  | maxBodyBytes => some s.server.maxBodyBytes
  | minLength => some s.analysis.minLength
  | maxLength => some s.analysis.maxLength
  | temperature => some s.provider.temperature
  | maxTokens => s.provider.maxTokens
  | timeout => some s.provider.timeout

/-- The default of a quantity, which may depend on the format. -/
def default (f : Format) : Quantity → Option Nat
  | portNumber => some 5000
  | maxBodyBytes => some 1048576
  | minLength => some f.defaultMinLength
  | maxLength => some 20000
  | temperature => some f.defaultTemperature
  | maxTokens => f.defaultMaxTokens
  | timeout => some f.defaultTimeout

/-- The least length of a snippet is at least one; the other quantities are as they are read. -/
def raised : Quantity → Nat → Nat
  | minLength, n => max n 1
  | _, n => n

/-- What the variable of a quantity yields. -/
def found (env : Environment) (q : Quantity) : Option Nat × List Event :=
  readVariable env q.name q.substitute q.read

/-- The default of a quantity needs no raising. -/
theorem map_raised_default (f : Format) (q : Quantity) :
    (q.default f).map q.raised = q.default f := by
  cases q <;> cases f <;> rfl

/-- **The value of a quantity** is the one in its variable, or else its default. -/
theorem get_ofFormat (env : Environment) (f : Format) (q : Quantity) :
    q.get (ofFormat env f).1 = ((q.found env).1 <|> q.default f).map q.raised := by
  have hgetD (found? : Option Nat) (d : Nat) (g : Nat → Nat) :
      some (g (found?.getD d)) = (found? <|> some d).map g := by
    cases found? <;> rfl
  cases q with
  | portNumber => exact hgetD (found env portNumber).1 5000 id
  | maxBodyBytes => exact hgetD (found env maxBodyBytes).1 1048576 id
  | minLength => exact hgetD (found env minLength).1 f.defaultMinLength (max · 1)
  | maxLength => exact hgetD (found env maxLength).1 20000 id
  | temperature => exact hgetD (found env temperature).1 f.defaultTemperature id
  | maxTokens =>
      have hraised : raised maxTokens = id := rfl
      rw [hraised, Option.map_id]
      rfl
  | timeout => exact hgetD (found env timeout).1 f.defaultTimeout id

end Quantity

/-- **The log** has the warnings of the quantities, in their order. -/
theorem events_ofFormat (env : Environment) (f : Format) :
    (ofFormat env f).2 = Quantity.all.flatMap fun q => (q.found env).2 := by
  simp only [Quantity.all, List.flatMap_cons, List.flatMap_nil, List.append_nil]
  simp only [ofFormat, List.append_assoc]
  rfl

/-! ## All settings -/

/-- A setting. -/
inductive Setting where
  | host
  | baseUrl
  | model
  | apiKey
  | format
  | quantity (q : Quantity)
  deriving DecidableEq, Repr

namespace Setting

/-- The values that a setting can have. -/
def Value : Setting → Type
  | host | baseUrl | model => String
  | apiKey => Option String
  | format => Format
  | quantity _ => Option Nat

/-- The value of a setting. -/
def get : (x : Setting) → Settings → x.Value
  | host, s => s.server.host
  | baseUrl, s => s.provider.baseUrl
  | model, s => s.provider.model
  | apiKey, s => s.provider.apiKey
  | format, s => s.analysis.format
  | quantity q, s => q.get s

/-- The variables of a setting. The format is not read from a variable here, but given. -/
def names : Setting → List String
  | host => ["HOST"]
  | baseUrl => ["LLM_BASE_URL"]
  | model => ["LLM_MODEL"]
  | apiKey => ["GROQ_API_KEY", "LLM_API_KEY"]
  | format => []
  | quantity q => [q.name]

/-- There are no other settings. -/
theorem ext {s t : Settings} (h : ∀ x : Setting, x.get s = x.get t) : s = t := by
  have hquantity (q : Quantity) : q.get s = q.get t := h (quantity q)
  obtain ⟨⟨_, _, _⟩, ⟨_, _, _⟩, ⟨_, _, _, _, _, _⟩⟩ := s
  obtain ⟨⟨_, _, _⟩, ⟨_, _, _⟩, ⟨_, _, _, _, _, _⟩⟩ := t
  congr
  · exact h host
  · exact Option.some.inj (hquantity .portNumber)
  · exact Option.some.inj (hquantity .maxBodyBytes)
  · exact h format
  · exact Option.some.inj (hquantity .minLength)
  · exact Option.some.inj (hquantity .maxLength)
  · exact h apiKey
  · exact h baseUrl
  · exact h model
  · exact Option.some.inj (hquantity .temperature)
  · exact hquantity .maxTokens
  · exact Option.some.inj (hquantity .timeout)

/-- No setting is read from the variable of the format. -/
theorem format_not_mem_names (x : Setting) : "ANALYSIS_FORMAT" ∉ x.names := by
  cases x with
  | quantity q => cases q <;> decide
  | _ => decide

section

variable {env env' : Environment}

/-- A setting that is no quantity is decided by the texts of its variables. -/
theorem get_ofFormat_of_text? {x : Setting} (hx : ∀ q, x ≠ quantity q)
    (h : ∀ name ∈ x.names, env'.text? name = env.text? name) (f : Format) :
    x.get (ofFormat env' f).1 = x.get (ofFormat env f).1 := by
  cases x with
  | host => exact congrArg (fun text? => text?.getD "127.0.0.1") (h "HOST" (by decide))
  | baseUrl =>
      exact congrArg (fun text? => text?.getD defaultBaseUrl) (h "LLM_BASE_URL" (by decide))
  | model => exact congrArg (fun text? => text?.getD f.defaultModel) (h "LLM_MODEL" (by decide))
  | apiKey =>
      have hgroq := h "GROQ_API_KEY" (by decide)
      have hllm := h "LLM_API_KEY" (by decide)
      have hkey : Settings.apiKey env' = Settings.apiKey env := by
        simp only [apiKey_eq_or, Environment.given?, hgroq, hllm]
      exact hkey
  | format => rfl
  | quantity q => exact absurd rfl (hx q)

/-- **A setting changes with its own variables only.** -/
theorem get_ofFormat_congr {x : Setting} (h : ∀ name ∈ x.names, env' name = env name)
    (f : Format) : x.get (ofFormat env' f).1 = x.get (ofFormat env f).1 := by
  by_cases hx : ∃ q, x = quantity q
  · obtain ⟨q, rfl⟩ := hx
    have hfound : q.found env' = q.found env :=
      readVariable_congr (h q.name (List.mem_singleton_self _)) _ _
    have hvalue : q.get (ofFormat env' f).1 = q.get (ofFormat env f).1 := by
      rw [q.get_ofFormat, q.get_ofFormat, hfound]
    exact hvalue
  · have htext : ∀ name ∈ x.names, env'.text? name = env.text? name := fun name hname =>
      Environment.text?_congr (h name hname)
    exact get_ofFormat_of_text? (not_exists.mp hx) htext f

end

end Setting

/-- The variable of the format decides neither a setting nor a warning. -/
theorem ofFormat_eq_of_ne {env env' : Environment}
    (h : ∀ name, name ≠ "ANALYSIS_FORMAT" → env' name = env name) (f : Format) :
    ofFormat env' f = ofFormat env f := by
  refine Prod.ext (Setting.ext fun x => ?_) ?_
  · refine x.get_ofFormat_congr (fun name hname => h name ?_) f
    rintro rfl
    exact x.format_not_mem_names hname
  · rw [events_ofFormat, events_ofFormat]
    refine congrArg List.flatten (List.map_congr_left fun q _ => ?_)
    have hname : q.name ≠ "ANALYSIS_FORMAT" := by cases q <;> decide
    rw [Quantity.found, Quantity.found, readVariable_congr (h q.name hname)]

/-! ## Values that count for nothing -/

section

variable {env : Environment} {q : Quantity}

/-- A quantity is misread if its variable is set to a text that cannot be read. -/
def Quantity.Misread (env : Environment) (q : Quantity) : Prop :=
  ∃ text reason, env q.name = some (Text.toBytes text) ∧ q.read text = .error reason

/-- The log has something of a quantity exactly if it is misread. -/
theorem Quantity.misread_iff : q.Misread env ↔ (q.found env).2 ≠ [] := by
  rw [found]
  constructor
  · rintro ⟨text, reason, hset, hread⟩
    simp [readVariable_of_error hset hread]
  · intro h
    generalize hyields : readVariable env q.name q.substitute q.read = result at h
    cases hyields ▸ yields_readVariable env q.name q.substitute q.read with
    | unset => contradiction
    | value => contradiction
    | warned hset hread => exact ⟨_, _, hset, hread⟩

instance (env : Environment) : DecidablePred (Quantity.Misread env) := fun _ =>
  decidable_of_iff _ Quantity.misread_iff.symm

/-- A misread quantity is warned of, by the name of its variable and the text of its value. -/
structure Quantity.Warns (q : Quantity) (env : Environment) (event : Event) : Prop where
  level_eq : event.level = .warn
  exists_message_eq : ∃ text reason, env q.name = some (Text.toBytes text) ∧
    q.read text = .error reason ∧
    event.message = "Invalid value '" ++ text ++ "' for " ++ q.name ++ ": " ++ reason ++ ". "
      ++ q.substitute.message

/-- What the log has of a quantity is one warning if it is misread, and nothing otherwise. -/
theorem Quantity.cases_found (env : Environment) (q : Quantity) :
    (q.Misread env ∧ (q.found env).1 = none ∧
      ∃ event, (q.found env).2 = [event] ∧ q.Warns env event) ∨
    ¬ q.Misread env ∧ (q.found env).2 = [] := by
  have hyields := yields_readVariable env q.name q.substitute q.read
  rw [misread_iff, found]
  generalize readVariable env q.name q.substitute q.read = result at hyields
  cases hyields with
  | unset => exact .inr ⟨fun h => h rfl, rfl⟩
  | value => exact .inr ⟨fun h => h rfl, rfl⟩
  | warned hset hread =>
      exact .inl ⟨List.cons_ne_nil _ _, rfl, _, rfl, rfl, _, _, hset, hread, rfl⟩

/-- **The log is one warning for each misread quantity**, in the order of the quantities. -/
theorem forall₂_warns (env : Environment) (f : Format) :
    List.Forall₂ (fun (q : Quantity) event => q.Warns env event)
      (Quantity.all.filter fun q => q.Misread env) (ofFormat env f).2 := by
  rw [events_ofFormat]
  induction Quantity.all with
  | nil => exact .nil
  | cons q quantities ih =>
      rw [List.flatMap_cons]
      obtain ⟨hmisread, -, event, hevents, hwarns⟩ | ⟨hread, hevents⟩ := q.cases_found env
      · rw [List.filter_cons_of_pos (by simpa using hmisread), hevents]
        exact .cons hwarns ih
      · rw [List.filter_cons_of_neg (by simpa using hread), hevents]
        exact ih

end

end Settings

open Settings (Quantity Setting)

namespace Environment

variable {env : Environment} {name : String}

/-- A variable is spoiled if it is set to bytes that are no text, or if it is the variable of a
quantity that is misread. -/
def Spoiled (env : Environment) (name : String) : Prop :=
  (∃ bytes, env name = some bytes ∧ ∀ text, bytes ≠ Text.toBytes text) ∨
    ∃ q : Quantity, q.name = name ∧ q.Misread env

/-- Bytes that are no text are found out by reading them. -/
theorem spoiled_iff :
    env.Spoiled name ↔ (env name ≠ none ∧ env.text? name = none) ∨
      ∃ q ∈ Quantity.all, q.name = name ∧ q.Misread env := by
  refine or_congr ?_ ⟨fun ⟨q, h⟩ => ⟨q, q.mem_all, h⟩, fun ⟨q, _, h⟩ => ⟨q, h⟩⟩
  rw [Settings.text?_eq_none_iff]
  constructor
  · rintro ⟨bytes, hset, hbytes⟩
    simpa [hset] using hbytes
  · rintro ⟨hset, htext⟩
    obtain ⟨bytes, hset⟩ := Option.ne_none_iff_exists'.mp hset
    exact ⟨bytes, hset, fun text hbytes => htext text (hset.trans (congrArg some hbytes))⟩

instance (env : Environment) : DecidablePred env.Spoiled := fun _ =>
  decidable_of_iff _ spoiled_iff.symm

/-- The environment without its spoiled variables. -/
def cleared (env : Environment) : Environment := fun name =>
  if env.Spoiled name then none else env name

/-- What is no quantity's variable keeps its text. -/
theorem text?_cleared (h : ∀ q : Quantity, q.name ≠ name) :
    env.cleared.text? name = env.text? name := by
  by_cases hspoiled : env.Spoiled name
  · have hcleared : env.cleared name = none := if_pos hspoiled
    obtain ⟨-, htext⟩ | ⟨q, -, hname, -⟩ := spoiled_iff.mp hspoiled
    · rw [htext, text?, hcleared]
      rfl
    · exact absurd hname (h q)
  · exact text?_congr (if_neg hspoiled)

/-- The variable of a quantity keeps its value, without a warning. -/
theorem found_cleared (q : Quantity) : q.found env.cleared = ((q.found env).1, []) := by
  by_cases hspoiled : env.Spoiled q.name
  · have hcleared : env.cleared q.name = none := if_pos hspoiled
    have hnothing : q.found env.cleared = (none, []) := by
      rw [Quantity.found, Settings.readVariable_of_text?_eq_none]
      rw [text?, hcleared]
      rfl
    have hnone : (q.found env).1 = none := by
      obtain ⟨-, htext⟩ | ⟨r, -, hname, hmisread⟩ := spoiled_iff.mp hspoiled
      · rw [Quantity.found, Settings.readVariable_of_text?_eq_none htext]
      · obtain rfl := Quantity.name_injective hname
        obtain ⟨-, hnone, -⟩ | ⟨hread, -⟩ := r.cases_found env
        · exact hnone
        · contradiction
    rw [hnothing, hnone]
  · have hread : ¬ q.Misread env := fun h => hspoiled (.inr ⟨q, rfl, h⟩)
    have hevents : (q.found env).2 = [] := by
      obtain ⟨hmisread, -⟩ | ⟨-, hevents⟩ := q.cases_found env
      · contradiction
      · exact hevents
    have hfound : q.found env.cleared = q.found env :=
      Settings.readVariable_congr (if_neg hspoiled) _ _
    rw [hfound, ← hevents]

end Environment

namespace Settings

/-- **A spoiled variable is as good as one that is not set**, only that it may be warned of. -/
theorem ofFormat_cleared (env : Environment) (f : Format) :
    ofFormat env.cleared f = ((ofFormat env f).1, []) := by
  refine Prod.ext (Setting.ext fun x => ?_) ?_
  · by_cases hx : ∃ q, x = .quantity q
    · obtain ⟨q, rfl⟩ := hx
      have hvalue : q.get (ofFormat env.cleared f).1 = q.get (ofFormat env f).1 := by
        rw [q.get_ofFormat, q.get_ofFormat, Environment.found_cleared]
      exact hvalue
    · have htext : ∀ name ∈ x.names, env.cleared.text? name = env.text? name := by
        intro name hname
        refine Environment.text?_cleared fun q hq => ?_
        subst hq
        cases x with
        | quantity r => exact hx ⟨r, rfl⟩
        | _ => revert hname; cases q <;> decide
      exact Setting.get_ofFormat_of_text? (not_exists.mp hx) htext f
  · simp [events_ofFormat, Environment.found_cleared]

/-- **Settings are read apart.**

1. A variable whose value is no text, or a number that cannot be read, is as good as one that is not
   set; without these variables there is no warning.
2. The log is one warning for each quantity that is misread, in the order of the quantities.
3. A variable changes no setting but its own.
4. The variable of the format has no part in the settings of a given format.
5. The settings of an environment are those of the format that this variable yields, or of Markdown,
   and its warning comes first. -/
theorem ofFormat_apart (env : Environment) (f : Format) :
    ofFormat env.cleared f = ((ofFormat env f).1, []) ∧
    List.Forall₂ (fun (q : Quantity) event => q.Warns env event)
      (Quantity.all.filter fun q => q.Misread env) (ofFormat env f).2 ∧
    (∀ name env', (∀ other, other ≠ name → env' other = env other) →
      ∀ x : Setting, name ∉ x.names → x.get (ofFormat env' f).1 = x.get (ofFormat env f).1) ∧
    (∀ env', (∀ name, name ≠ "ANALYSIS_FORMAT" → env' name = env name) →
      ofFormat env' f = ofFormat env f) ∧
    ∃ format? warnings,
      Yields env "ANALYSIS_FORMAT" .byDefault readFormat (format?, warnings) ∧
      ofEnvironment env = ((ofFormat env (format?.getD .markdown)).1,
        warnings ++ (ofFormat env (format?.getD .markdown)).2) := by
  refine ⟨ofFormat_cleared env f, forall₂_warns env f, ?_, ?_, ?_⟩
  · intro name env' hother x hname
    exact x.get_ofFormat_congr (fun own hown => hother own fun h => hname (h ▸ hown)) f
  · exact fun env' h => ofFormat_eq_of_ne h f
  · exact ⟨_, _, yields_readVariable env "ANALYSIS_FORMAT" .byDefault readFormat, rfl⟩

end Settings

end AnalysisGateway
