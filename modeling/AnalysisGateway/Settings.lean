import AnalysisGateway.Event
import AnalysisGateway.Json.Record
import AnalysisGateway.Number.Numeral
import AnalysisGateway.Text.Utf8

/-!
# Settings

The settings of a deployment: where it listens, what it accepts, and which provider it asks. They
are read from the environment, each from a variable of its own, with defaults that depend on the
format:

1. a variable that is absent or not UTF-8 gives the default without a word;
2. a number that cannot be read gives the default and one warning; warnings come in the order in
   which the numbers are declared;
3. the credential is the first of two variables that is not blank, without the blanks around it;
4. the least length of a snippet is never below one.
-/

namespace AnalysisGateway

/-- The variables of an environment, by name. -/
abbrev Environment := String → Option Bytes

namespace Environment

/-- The value of a variable that is set to UTF-8. -/
def text? (env : Environment) (name : String) : Option String :=
  (env name).bind Text.ofBytes?

/-- An environment of named values; the first of a name counts. -/
def ofList (vars : List (String × Bytes)) : Environment := fun name =>
  (vars.find? (·.1 == name)).map (·.2)

/-- The environment with a variable set. -/
def set (env : Environment) (name : String) (value : Bytes) : Environment := fun n =>
  if n = name then some value else env n

end Environment

/-- Where the service listens, and the greatest body it reads. -/
structure ServerSettings where
  host : String
  portNumber : Nat
  maxBodyBytes : Nat
  deriving DecidableEq, Repr

/-- The address that the service listens on. -/
def ServerSettings.address (s : ServerSettings) : String := s.host ++ ":" ++ toString s.portNumber

/-- The format of the answers, and the bounds on a trimmed snippet, in characters. -/
structure AnalysisSettings where
  format : Format
  minLength : Nat
  maxLength : Nat
  deriving DecidableEq, Repr

/-- The provider and what is asked of it. The temperature is the pattern of a single. -/
structure ProviderSettings where
  apiKey : Option String
  baseUrl : String
  model : String
  temperature : Nat
  maxTokens : Option Nat
  timeout : Nat
  deriving DecidableEq, Repr

/-- The settings of a deployment. -/
structure Settings where
  server : ServerSettings
  analysis : AnalysisSettings
  provider : ProviderSettings
  deriving DecidableEq, Repr

/-- The provider unless one is configured. -/
def defaultBaseUrl : String := "https://api.groq.com/openai/v1"

/-- The greatest length of a snippet unless it is configured. -/
def defaultMaxLength : Nat := 20000

/-- The settings of a format without an environment. -/
def AnalysisSettings.ofFormat (f : Format) : AnalysisSettings where
  format := f
  minLength := f.defaultMinLength
  maxLength := defaultMaxLength

/-- The provider's settings of a format without an environment, and without a credential. -/
def ProviderSettings.ofFormat (f : Format) : ProviderSettings where
  apiKey := none
  baseUrl := defaultBaseUrl
  model := f.defaultModel
  temperature := f.defaultTemperature
  maxTokens := f.defaultMaxTokens
  timeout := f.defaultTimeout

/-! ## Quoted settings -/

/-- How a quoted value shows a number of a binary layout: positional from 1e-4 and below 1e16, and
the upper one of two equally near decimals. -/
def quotedStyle : Decimal.RealStyle := ⟨-4, 16, false, .upper⟩

/-- A single on one line. -/
def quotedSingle (bits : Nat) : String :=
  let sign := if Binary.single.isNegative bits then "-" else ""
  match Binary.single.magnitude bits with
  | .finite m q => sign ++ String.ofList (Decimal.magnitudeChars Binary.single quotedStyle m q)
  | .infinite => sign ++ "inf"
  | .notANumber => "NaN"

/-- The provider's settings on one line, without the credential. -/
def ProviderSettings.quoted (p : ProviderSettings) : String :=
  "LlmConfig \x7b api_key: " ++ (if p.apiKey.isSome then "Some(\"<redacted>\")" else "None")
    ++ ", base_url: " ++ Text.quoted p.baseUrl ++ ", model: " ++ Text.quoted p.model
    ++ ", temperature: " ++ quotedSingle p.temperature
    ++ ", max_tokens: "
    ++ (match p.maxTokens with
      | some n => "Some(" ++ toString n ++ ")"
      | none => "None")
    ++ ", timeout_secs: " ++ toString p.timeout ++ " \x7d"

/-! ## Reading the environment -/

namespace Settings

/-- The variable's value, if it is set and can be read, and a warning if it is set and cannot. -/
def readVariable (env : Environment) (name : String) (substitute : Substitute)
    (read : String → Except String α) : Option α × List Event :=
  match env.text? name with
  | none => (none, [])
  | some value =>
    match read value with
    | .ok a => (some a, [])
    | .error reason => (none, [.settingIgnored name value reason substitute])

/-- A number below `2 ^ width`, or the wording of its fault. -/
def readNumber (width : Nat) (s : String) : Except String Nat :=
  (Numeral.read width s).mapError NumeralFault.message

/-- The pattern of a single, or the wording of its fault. -/
def readReal (s : String) : Except String Nat :=
  (Decimal.read Binary.single s).mapError Decimal.Fault.message

/-- A format, or the wording of its fault. -/
def readFormat (s : String) : Except String Format :=
  (Format.read s).mapError Format.Unknown.message

/-- The credential: the first of the two variables that is not blank. -/
def apiKey (env : Environment) : Option String :=
  (["GROQ_API_KEY", "LLM_API_KEY"].filterMap env.text?).map Text.trimmed
    |>.find? (!·.isEmpty)

/-- The settings of a format in an environment, and the warnings. -/
def ofFormat (env : Environment) (f : Format) : Settings × List Event :=
  let portNumber := readVariable env "PORT" .byDefault (readNumber 16)
  let maxBodyBytes := readVariable env "MAX_BODY_BYTES" .byDefault (readNumber 64)
  let minLength := readVariable env "MIN_CODE_LENGTH" .byDefault (readNumber 64)
  let maxLength := readVariable env "MAX_CODE_LENGTH" .byDefault (readNumber 64)
  let temperature := readVariable env "LLM_TEMPERATURE" .byDefault readReal
  let maxTokens := readVariable env "LLM_MAX_TOKENS" .nothing (readNumber 32)
  let timeout := readVariable env "LLM_TIMEOUT" .byDefault (readNumber 64)
  ({ server := {
       host := (env.text? "HOST").getD "127.0.0.1"
       portNumber := portNumber.1.getD 5000
       maxBodyBytes := maxBodyBytes.1.getD (1024 * 1024) }
     analysis := {
       format := f
       minLength := max (minLength.1.getD f.defaultMinLength) 1
       maxLength := maxLength.1.getD defaultMaxLength }
     provider := {
       apiKey := apiKey env
       baseUrl := (env.text? "LLM_BASE_URL").getD defaultBaseUrl
       model := (env.text? "LLM_MODEL").getD f.defaultModel
       temperature := temperature.1.getD f.defaultTemperature
       maxTokens := maxTokens.1 <|> f.defaultMaxTokens
       timeout := timeout.1.getD f.defaultTimeout } },
   portNumber.2 ++ maxBodyBytes.2 ++ minLength.2 ++ maxLength.2 ++ temperature.2 ++ maxTokens.2
     ++ timeout.2)

/-- The format in an environment, and the warning. -/
def formatOf (env : Environment) : Format × List Event :=
  let f := readVariable env "ANALYSIS_FORMAT" .byDefault readFormat
  (f.1.getD .markdown, f.2)

/-- The settings in an environment, and the warnings. -/
def ofEnvironment (env : Environment) : Settings × List Event :=
  let f := formatOf env
  let s := ofFormat env f.1
  (s.1, f.2 ++ s.2)

end Settings

/-! ## Reading JSON -/

/-- A format by its exact name. -/
def Format.readJson : Json.Reader Format :=
  Json.readChoice [("markdown", .markdown), ("json", .json)]

namespace ServerSettings

/-- Server settings of which some have been read. -/
structure Draft where
  host : Option String := none
  portNumber : Option Nat := none
  maxBodyBytes : Option Nat := none

/-- How server settings are read. -/
def shape : Json.Record Draft ServerSettings where
  name := "struct ServerConfig"
  fields := [
    Json.field "host" Json.readText (·.host) fun v d => { d with host := some v },
    Json.field "port" (Json.readNatural 16 "u16") (·.portNumber)
      fun v d => { d with portNumber := some v },
    Json.field "max_body_bytes" (Json.readNatural 64 "usize") (·.maxBodyBytes)
      fun v d => { d with maxBodyBytes := some v }]
  blank := {}
  finish d := do
    let host ← Json.required "host" d.host
    let portNumber ← Json.required "port" d.portNumber
    let maxBodyBytes ← Json.required "max_body_bytes" d.maxBodyBytes
    return { host, portNumber, maxBodyBytes }

end ServerSettings

namespace AnalysisSettings

/-- Analysis settings of which some have been read. -/
structure Draft where
  format : Option Format := none
  minLength : Option Nat := none
  maxLength : Option Nat := none

/-- How analysis settings are read. -/
def shape : Json.Record Draft AnalysisSettings where
  name := "struct AnalysisConfig"
  fields := [
    Json.field "format" Format.readJson (·.format) fun v d => { d with format := some v },
    Json.field "min_code_length" (Json.readNatural 64 "usize") (·.minLength)
      fun v d => { d with minLength := some v },
    Json.field "max_code_length" (Json.readNatural 64 "usize") (·.maxLength)
      fun v d => { d with maxLength := some v }]
  blank := {}
  finish d := do
    let format ← Json.required "format" d.format
    let minLength ← Json.required "min_code_length" d.minLength
    let maxLength ← Json.required "max_code_length" d.maxLength
    return { format, minLength, maxLength }

end AnalysisSettings

namespace ProviderSettings

/-- Provider settings of which some have been read. -/
structure Draft where
  apiKey : Option (Option String) := none
  baseUrl : Option String := none
  model : Option String := none
  temperature : Option Nat := none
  maxTokens : Option (Option Nat) := none
  timeout : Option Nat := none

/-- How provider settings are read. -/
def shape : Json.Record Draft ProviderSettings where
  name := "struct LlmConfig"
  fields := [
    Json.field "api_key" (Json.readOptional Json.readText) (·.apiKey)
      fun v d => { d with apiKey := some v },
    Json.field "base_url" Json.readText (·.baseUrl) fun v d => { d with baseUrl := some v },
    Json.field "model" Json.readText (·.model) fun v d => { d with model := some v },
    Json.field "temperature" Json.readSingle (·.temperature)
      fun v d => { d with temperature := some v },
    Json.field "max_tokens" (Json.readOptional (Json.readNatural 32 "u32")) (·.maxTokens)
      fun v d => { d with maxTokens := some v },
    Json.field "timeout_secs" (Json.readNatural 64 "u64") (·.timeout)
      fun v d => { d with timeout := some v }]
  blank := {}
  finish d := do
    let baseUrl ← Json.required "base_url" d.baseUrl
    let model ← Json.required "model" d.model
    let temperature ← Json.required "temperature" d.temperature
    let timeout ← Json.required "timeout_secs" d.timeout
    return { apiKey := d.apiKey.join, baseUrl, model, temperature, maxTokens := d.maxTokens.join,
             timeout }

end ProviderSettings

namespace Settings

/-- Settings of which some have been read. -/
structure Draft where
  server : Option ServerSettings := none
  analysis : Option AnalysisSettings := none
  provider : Option ProviderSettings := none

/-- How settings are read. -/
def shape : Json.Record Draft Settings where
  name := "struct Config"
  fields := [
    Json.field "server" ServerSettings.shape.read (·.server)
      fun v d => { d with server := some v },
    Json.field "analysis" AnalysisSettings.shape.read (·.analysis)
      fun v d => { d with analysis := some v },
    Json.field "llm" ProviderSettings.shape.read (·.provider)
      fun v d => { d with provider := some v }]
  blank := {}
  finish d := do
    let server ← Json.required "server" d.server
    let analysis ← Json.required "analysis" d.analysis
    let provider ← Json.required "llm" d.provider
    return { server, analysis, provider }

end Settings

end AnalysisGateway
