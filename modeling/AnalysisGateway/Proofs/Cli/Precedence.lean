import AnalysisGateway.Cli.Run
import AnalysisGateway.Proofs.Cli.Arguments
import AnalysisGateway.Proofs.Http.Responds
import AnalysisGateway.Proofs.Settings.Numbers

/-!
# Arguments, environment and defaults

Every setting has up to three sources: an argument, variables of its own, and the default of the
format. The first one that has a value counts (`Setting.Decided`). The format is a setting like the
others, but the defaults are those of the format that is chosen, so an argument for it changes five
more settings where nothing else sets them.

With a format among the arguments, the variable of the format is not read at all. It then decides
neither a setting nor a line of the log (`Options.settings_congr`).

What the program does with its settings is said of the process (`Process.Serves`): the address that
it tries is theirs, the service that answers is theirs, and so is all that the log tells of the
start.
-/

namespace AnalysisGateway

open Settings (Quantity Setting)

/-! ## Sources -/

namespace Settings

/-- A variable has a value if it is set to a text that can be read as this value. -/
theorem readVariable_fst_eq_some_iff {α : Type} {env : Environment} {name : String}
    {substitute : Substitute} {read : String → Except String α} {a : α} :
    (readVariable env name substitute read).1 = some a ↔
      ∃ text, env name = some (Text.toBytes text) ∧ read text = .ok a := by
  constructor
  · intro h
    have hyields := yields_readVariable env name substitute read
    generalize readVariable env name substitute read = result at h hyields
    cases hyields with
    | unset => contradiction
    | value hset hread => exact ⟨_, hset, Option.some.inj h ▸ hread⟩
    | warned => contradiction
  · rintro ⟨text, hset, hread⟩
    rw [readVariable_of_ok hset hread]

/-- The wording of a fault does not matter to what is read. -/
theorem readFormat_eq_ok_iff {s : String} {f : Format} :
    readFormat s = .ok f ↔ Format.read s = .ok f := by
  rw [readFormat]
  cases Format.read s <;> simp [Except.mapError]

end Settings

namespace Settings.Setting

/-- The value of a setting among the arguments. -/
def argument? (o : Cli.Options) : (x : Setting) → Option x.Value
  | host => o.host
  | format => o.format
  | quantity .portNumber => o.portNumber.map some
  | quantity .maxBodyBytes | quantity .minLength | quantity .maxLength | quantity .temperature
  | quantity .maxTokens | quantity .timeout => none
  | baseUrl => none
  | model => none
  | apiKey => none

/-- The value of a setting in its variables. -/
def found? (env : Environment) : (x : Setting) → Option x.Value
  | host => env.text? "HOST"
  | baseUrl => env.text? "LLM_BASE_URL"
  | model => env.text? "LLM_MODEL"
  | apiKey => (Settings.apiKey env).map some
  | format => (readVariable env "ANALYSIS_FORMAT" .byDefault readFormat).1
  | quantity q => (q.found env).1.map fun n => some (q.raised n)

/-- The variables of a setting set it to a value: a text to itself, a format or a number to what the
text reads as, and the credential to the first key that is given. -/
def IsSet (env : Environment) : (x : Setting) → x.Value → Prop
  | host, v => env "HOST" = some (Text.toBytes v)
  | baseUrl, v => env "LLM_BASE_URL" = some (Text.toBytes v)
  | model, v => env "LLM_MODEL" = some (Text.toBytes v)
  | apiKey, v => ∃ key, (env.Gives "GROQ_API_KEY" key ∨
      (∀ other, ¬ env.Gives "GROQ_API_KEY" other) ∧ env.Gives "LLM_API_KEY" key) ∧ some key = v
  | format, v => ∃ text, env "ANALYSIS_FORMAT" = some (Text.toBytes text) ∧ Format.read text = .ok v
  | quantity q, v => ∃ n, (∃ text, env q.name = some (Text.toBytes text) ∧ q.read text = .ok n) ∧
      some (q.raised n) = v

/-- The default of a setting, which may depend on the format. -/
def default (f : Format) : (x : Setting) → x.Value
  | host => "127.0.0.1"
  | baseUrl => defaultBaseUrl
  | model => f.defaultModel
  | apiKey => none
  | format => Format.markdown
  | quantity q => q.default f

/-- **The value that the sources decide on**: the argument's, or else that of the variables, or else
the default. -/
inductive Decided (o : Cli.Options) (env : Environment) (f : Format) (x : Setting) :
    x.Value → Prop where
  | given {v : x.Value} (h : x.argument? o = some v) : Decided o env f x v
  | set {v : x.Value} (hargument : x.argument? o = none) (h : x.IsSet env v) : Decided o env f x v
  | default (hargument : x.argument? o = none) (hset : ∀ v, ¬ x.IsSet env v) :
      Decided o env f x (x.default f)

/-- The settings whose default depends on the format. -/
def byFormat : List Setting :=
  [quantity .minLength, model, quantity .temperature, quantity .maxTokens, quantity .timeout]

theorem default_ne_iff (x : Setting) : x.default .markdown ≠ x.default .json ↔ x ∈ byFormat := by
  have hsame {x : Setting} (h : x.default .markdown = x.default .json) (hx : x ∉ byFormat) :
      x.default .markdown ≠ x.default .json ↔ x ∈ byFormat := iff_of_false (fun hne => hne h) hx
  cases x with
  | host => exact hsame rfl (by decide)
  | baseUrl => exact hsame rfl (by decide)
  | apiKey => exact hsame rfl (by decide)
  | format => exact hsame rfl (by decide)
  | model =>
      have hmodels : Format.markdown.defaultModel ≠ Format.json.defaultModel := by decide
      exact iff_of_true hmodels (by decide)
  | quantity q =>
      have hquantity : q.default .markdown ≠ q.default .json ↔ quantity q ∈ byFormat := by
        cases q <;> decide
      exact hquantity

variable {env : Environment} {x : Setting}

/-- What is found in the variables of a setting is what they set it to. -/
theorem found?_eq_some_iff {v : x.Value} : x.found? env = some v ↔ x.IsSet env v := by
  cases x with
  | host => exact Environment.text?_eq_some_iff
  | baseUrl => exact Environment.text?_eq_some_iff
  | model => exact Environment.text?_eq_some_iff
  | apiKey =>
      refine Option.map_eq_some_iff.trans (exists_congr fun key => and_congr_left' ?_)
      exact apiKey_eq_some_iff
  | format =>
      refine readVariable_fst_eq_some_iff.trans (exists_congr fun text => and_congr_right' ?_)
      exact readFormat_eq_ok_iff
  | quantity q =>
      refine Option.map_eq_some_iff.trans (exists_congr fun n => and_congr_left' ?_)
      exact readVariable_fst_eq_some_iff

/-- Without an argument, a quantity is what is found of it, or else its default. -/
theorem get_quantity (env : Environment) (f : Format) (q : Quantity) :
    (quantity q).get (Settings.ofFormat env f).1 =
      ((quantity q).found? env).getD ((quantity q).default f) := by
  change q.get (Settings.ofFormat env f).1 =
    ((q.found env).1.map fun n => some (q.raised n)).getD (q.default f)
  rw [q.get_ofFormat]
  cases (q.found env).1 with
  | some n => rfl
  | none => exact q.map_raised_default f

/-- The sources are asked one after another. -/
theorem decided_iff {o : Cli.Options} {f : Format} {v : x.Value} :
    x.Decided o env f v ↔ ((x.argument? o).or (x.found? env)).getD (x.default f) = v := by
  have hunset : x.found? env = none ↔ ∀ v, ¬ x.IsSet env v := by
    simp only [Option.eq_none_iff_forall_ne_some, ne_eq, found?_eq_some_iff]
  constructor
  · rintro (hargument | ⟨hargument, hset⟩ | ⟨hargument, hset⟩)
    · rw [hargument]
      rfl
    · rw [hargument, found?_eq_some_iff.mpr hset]
      rfl
    · rw [hargument, hunset.mpr hset]
      rfl
  · rintro rfl
    cases hargument : x.argument? o with
    | some v => exact .given hargument
    | none =>
        rw [Option.none_or]
        cases hfound : x.found? env with
        | some v => exact .set hargument (found?_eq_some_iff.mp hfound)
        | none => exact .default hargument (hunset.mp hfound)

end Settings.Setting

/-! ## Settings of a command line -/

namespace Cli

open Settings

variable {o : Options} {env env' : Environment} {f : Format}

/-- The settings are those of the format that is chosen, with the arguments for the address. -/
theorem Options.settings_eq (o : Options) (env : Environment) :
    let f := o.format.getD (formatOf env).1
    let s := (Settings.ofFormat env f).1
    o.settings env =
      ({ s with server := { s.server with
           host := o.host.getD s.server.host
           portNumber := o.portNumber.getD s.server.portNumber } },
        (if o.format.isSome then [] else (formatOf env).2) ++ (Settings.ofFormat env f).2) := by
  rw [settings]
  cases o.format <;> rfl

/-- **The first source that has a value counts**, for every setting. -/
theorem Options.get_settings (o : Options) (env : Environment) (x : Setting) :
    x.get (o.settings env).1 =
      ((x.argument? o).or (x.found? env)).getD (x.default (o.format.getD (formatOf env).1)) := by
  rw [o.settings_eq]
  cases x with
  | host => exact Option.getD_or.symm
  | baseUrl => rfl
  | model => rfl
  | apiKey =>
      have hkey (key? : Option String) : key? = (key?.map some).getD none := by
        cases key? <;> rfl
      exact hkey (apiKey env)
  | format => exact Option.getD_or.symm
  | quantity q =>
      have hquantity := Setting.get_quantity env (o.format.getD (formatOf env).1) q
      cases q with
      | portNumber =>
          have hport (given? : Option Nat) (n : Nat) :
              some (given?.getD n) = (given?.map some).getD (some n) := by
            cases given? <;> rfl
          rw [Option.getD_or, ← hquantity]
          exact hport o.portNumber _
      | maxBodyBytes => exact hquantity
      | minLength => exact hquantity
      | maxLength => exact hquantity
      | temperature => exact hquantity
      | maxTokens => exact hquantity
      | timeout => exact hquantity

/-- The values of the settings are those that the sources decide on. -/
theorem Options.get_settings_eq_iff (o : Options) (env : Environment) (x : Setting) (v : x.Value) :
    x.get (o.settings env).1 = v ↔ x.Decided o env (o.format.getD (formatOf env).1) v := by
  rw [o.get_settings, Setting.decided_iff]

/-! ## A format among the arguments -/

/-- **A format among the arguments leaves its variable unread**: the variable decides neither a
setting nor a warning. -/
theorem Options.settings_congr (hf : o.format = some f)
    (h : ∀ name, name ≠ "ANALYSIS_FORMAT" → env' name = env name) :
    o.settings env' = o.settings env := by
  rw [o.settings_eq, o.settings_eq, hf]
  simp only [Option.getD_some, Option.isSome_some, if_true, ofFormat_eq_of_ne h]

/-- Nor does the program write anything else for it. -/
theorem serve_congr (hf : o.format = some f)
    (h : ∀ name, name ≠ "ANALYSIS_FORMAT" → env' name = env name) (machine : Machine)
    (stopped : Bool) : serve machine o env' stopped = serve machine o env stopped := by
  have hfilter : filterOf env' = filterOf env := by
    rw [filterOf, filterOf, Environment.text?_congr (h _ (by decide))]
  simp only [serve, Options.lines, Options.settings_congr hf h, hfilter]

/-- There is no warning of the variable either. -/
theorem Options.settingIgnored_not_mem (hf : o.format = some f) (env : Environment)
    (value reason : String) (substitute : Substitute) :
    .settingIgnored "ANALYSIS_FORMAT" value reason substitute ∉ (o.settings env).2 := by
  intro hmem
  rw [o.settings_eq, hf] at hmem
  simp only [Option.isSome_some, if_true, List.nil_append, events_ofFormat] at hmem
  obtain ⟨q, -, hmem⟩ := List.mem_flatMap.mp hmem
  obtain ⟨_, _, heq⟩ := Quantity.exists_eq_of_mem_found hmem
  have hname : "ANALYSIS_FORMAT" ≠ q.name := by cases q <;> decide
  exact hname (Event.settingIgnored.inj heq).1

/-! ## Filters -/

/-- The filter that is used unless one is set lets everything pass but the details. -/
theorem passes_default (e : Event) :
    Log.Filter.default.passes e = true ↔ e.level.rank ≤ Level.info.rank := by
  have htarget : "codecomplexity".toList.isPrefixOf e.target.toList = true := by
    cases e <;> simp only [Event.target] <;> decide
  have hfilter : Log.Filter.default.directives.filter (·.isFor e) =
      Log.Filter.default.directives := by
    refine List.filter_eq_self.mpr (List.forall_mem_singleton.mpr ?_)
    simp only [Log.Directive.isFor, Option.all_some, htarget]
    rfl
  rw [Log.Filter.passes, Log.Filter.deciding?, hfilter]
  exact decide_eq_true_iff

/-- So does the filter of an environment that sets none. -/
theorem passes_filterOf (h : env "RUST_LOG" = none) (e : Event) :
    (filterOf env).passes e = true ↔ e.level.rank ≤ Level.info.rank := by
  have hunset : env.text? "RUST_LOG" = none := by simp [Environment.text?, h]
  rw [filterOf, hunset]
  exact passes_default e

/-! ## Processes -/

/-- A process that serves settings. If the machine refuses their address, that is the error of the
process, and it ends; otherwise their service answers until the process is told to stop. The log has
the warnings, then whom the settings ask and how, whether they lack a key, where the service and its
analysis are found, and the stop; of these what passes, a line for each. -/
structure Process.Serves (p : Process) (machine : Machine) (s : Settings) (warnings : List Event)
    (passes : Event → Bool) (line : Event → String) (stopped : Bool) : Prop where
  service_eq_some_iff : ∀ service, p.service = some service ↔
    machine.refusal s.server.host s.server.portNumber = none ∧
      service.settings = s ∧ service.provider = .ofSettings s.provider
  refused : ∀ reason, machine.refusal s.server.host s.server.portNumber = some reason →
    p.errors = ["Error: " ++ reason] ∧ p.exit = some 1
  listens : machine.refusal s.server.host s.server.portNumber = none →
    p.errors = [] ∧ p.exit = if stopped = true then some 0 else none
  output_eq :
    let address := s.server.host ++ ":" ++ toString s.server.portNumber
    p.output = (List.filter passes (warnings ++
      .initializing s.provider.model s.analysis.format s.provider.timeout ::
      (if s.provider.apiKey = none then [.keyMissing] else []) ++
      [.starting address, .healthAt address, .analysisAt address s.analysis.format.endpoint,
        .documentationAt address] ++
      if p.exit = some 0 then [.stopping] else [])).map line

/-- The process that serves with options in an environment. -/
def served (machine : Machine) (o : Options) (env : Environment) (stopped : Bool) : Process :=
  ⟨serve machine o env stopped, (machine.listen (o.settings env).1).toOption⟩

/-- What is reported of a start, with the key looked up in the settings. -/
theorem startEvents_eq (s : Settings) : startEvents s =
    .initializing s.provider.model s.analysis.format s.provider.timeout ::
    (if s.provider.apiKey = none then [.keyMissing] else []) ++
    [.starting s.server.address, .healthAt s.server.address,
      .analysisAt s.server.address s.analysis.format.endpoint,
      .documentationAt s.server.address] := by
  rw [startEvents, Provider.ofSettings]
  cases s.provider.apiKey <;> rfl

/-- Where the address is refused, the process ends with the reason. -/
theorem served_of_refusal {machine : Machine} {reason : String}
    (h : machine.refusal (o.settings env).1.server.host (o.settings env).1.server.portNumber =
      some reason) (stopped : Bool) :
    served machine o env stopped =
      ⟨⟨o.lines env ((o.settings env).2 ++ startEvents (o.settings env).1),
        ["Error: " ++ reason], some 1⟩, none⟩ := by
  have hlisten : machine.listen (o.settings env).1 = .error reason := by rw [Machine.listen, h]
  simp only [served, serve, hlisten]
  rfl

/-- Elsewhere the service of the settings answers, until the process is told to stop. -/
theorem served_of_listening {machine : Machine}
    (h : machine.refusal (o.settings env).1.server.host (o.settings env).1.server.portNumber = none)
    (stopped : Bool) :
    served machine o env stopped =
      ⟨⟨o.lines env ((o.settings env).2 ++ startEvents (o.settings env).1 ++
          if stopped = true then [.stopping] else []),
        [], if stopped = true then some 0 else none⟩, some (.ofSettings (o.settings env).1)⟩ := by
  have hlisten : machine.listen (o.settings env).1 = .ok (.ofSettings (o.settings env).1) := by
    rw [Machine.listen, h]
  simp only [served, serve, hlisten]
  cases stopped with
  | true => rfl
  | false => simp only [Bool.false_eq_true, if_false, List.append_nil]; rfl

/-- **With options in an environment, the settings of both are served.** -/
theorem serves_served (machine : Machine) (o : Options) (env : Environment) (stopped : Bool) :
    (served machine o env stopped).Serves machine (o.settings env).1 (o.settings env).2
      (filterOf env).passes (fun e => String.ofList (Log.line o.jsonLogs e)) stopped := by
  cases hrefusal : machine.refusal (o.settings env).1.server.host
      (o.settings env).1.server.portNumber with
  | some reason =>
      rw [served_of_refusal hrefusal, startEvents_eq]
      constructor
      case service_eq_some_iff => simp [hrefusal]
      case refused =>
        intro other hother
        rw [hrefusal] at hother
        rw [Option.some.inj hother]
        exact ⟨rfl, rfl⟩
      case listens => simp [hrefusal]
      case output_eq => simp [Options.lines, ServerSettings.address]
  | none =>
      rw [served_of_listening hrefusal, startEvents_eq]
      constructor
      case service_eq_some_iff =>
        rintro ⟨settings, provider⟩
        simp [hrefusal, Http.Service.ofSettings, eq_comm]
      case refused => simp [hrefusal]
      case listens => exact fun _ => ⟨rfl, rfl⟩
      case output_eq => cases stopped <;> simp [Options.lines, ServerSettings.address]

/-! ## Runs -/

/-- The environment with the assignments of the environment file, if there is one. -/
def loaded (env : Environment) (file : Option Bytes) : Environment :=
  match file with
  | some bytes => EnvironmentFile.load bytes env
  | none => env

/-- With arguments that are accepted, the program serves. -/
theorem run_eq_served {arguments : List String} (h : read arguments = .options o)
    (machine : Machine) (env : Environment) (file : Option Bytes) (stopped : Bool) :
    run machine arguments env file stopped = served machine o (loaded env file) stopped := by
  simp only [run, h]
  cases file <;> rfl

/-- **Arguments come before the environment, and the environment before the defaults.** For
arguments that are accepted:

1. They list values of options, none of them twice, and the options asked for are these values.
2. The settings are those of a format in the environment, only with the host and the port number
   that are among the arguments. The format is the one among the arguments, or else the one in the
   environment.
3. So every setting is decided by its first source that has a value, where the defaults are those of
   the format that is chosen, and the analysis has the endpoint of this format.
4. The defaults of five settings depend on the format.
5. The program serves these settings, in the environment as it is with the file: it tries their
   address, their service answers, and the log tells of their start after their warnings. Nothing
   but details is kept from the log if the environment sets no filter.
6. With a format among the arguments, two environments that differ in the variable of the format
   only give the same settings and the same warnings, of which none is about this variable, and the
   program writes the same in both, and runs the same service. -/
theorem run_precedence {arguments : List String} (h : read arguments = .options o) :
    (∃ items, Lists (arguments.map String.toList) items ∧ (items.map Prod.fst).Nodup ∧
      o.Holds items) ∧
    (∀ env : Environment,
      let f := o.format.getD (formatOf env).1
      let s := (Settings.ofFormat env f).1
      (o.settings env).1 = { s with server := { s.server with
        host := o.host.getD s.server.host
        portNumber := o.portNumber.getD s.server.portNumber } } ∧
      (∀ (x : Setting) (v : x.Value), x.get (o.settings env).1 = v ↔ x.Decided o env f v) ∧
      ∀ path, (Http.Service.ofSettings (o.settings env).1).route? path = some .analysis ↔
        path = f.endpoint) ∧
    (∀ x : Setting, x.default .markdown ≠ x.default .json ↔ x ∈ Setting.byFormat) ∧
    (∀ machine env file stopped,
      let process := run machine arguments env file stopped
      let env := loaded env file
      process.toRun = serve machine o env stopped ∧
      process.Serves machine (o.settings env).1 (o.settings env).2 (filterOf env).passes
        (fun e => String.ofList (Log.line o.jsonLogs e)) stopped ∧
      (env "RUST_LOG" = none →
        ∀ e, (filterOf env).passes e = true ↔ e.level.rank ≤ Level.info.rank)) ∧
    ∀ f, o.format = some f →
      ∀ env env' : Environment, (∀ name, name ≠ "ANALYSIS_FORMAT" → env' name = env name) →
        o.settings env' = o.settings env ∧
        (∀ value reason substitute,
          .settingIgnored "ANALYSIS_FORMAT" value reason substitute ∉ (o.settings env).2) ∧
        ∀ machine stopped, serve machine o env' stopped = serve machine o env stopped ∧
          run machine arguments env' none stopped = run machine arguments env none stopped := by
  refine ⟨?listed, fun env => ⟨?settings, o.get_settings_eq_iff env, ?endpoint⟩,
    Setting.default_ne_iff, ?serves, ?unread⟩
  case listed =>
    obtain ⟨items, hlists, hnodup, -, hholds⟩ := read_eq_options_iff.mp h
    exact ⟨items, hlists, hnodup, hholds⟩
  case settings => rw [o.settings_eq]
  case endpoint =>
    intro path
    rw [Http.Service.route?_eq_analysis_iff, o.settings_eq]
    rfl
  case serves =>
    intro machine env file stopped
    simp only [run_eq_served h]
    exact ⟨rfl, serves_served machine o (loaded env file) stopped, passes_filterOf⟩
  case unread =>
    intro f hf env env' hsame
    have hsettings : o.settings env' = o.settings env := Options.settings_congr hf hsame
    refine ⟨hsettings, Options.settingIgnored_not_mem hf env, fun machine stopped => ?_⟩
    have hserve := serve_congr hf hsame machine stopped
    refine ⟨hserve, ?_⟩
    rw [run_eq_served h, run_eq_served h]
    simp only [served, loaded, hserve, hsettings]

/-- A port number and a format among the arguments, with another port number and no format in the
environment. On a machine that refuses no address, a service listens. -/
theorem run_precedence_json :
    let arguments := ["--port=8080", "--format", "json"]
    let o : Options := { portNumber := some 8080, format := some .json }
    let env := Environment.ofList
      [("PORT", Text.toBytes "9000"), ("ANALYSIS_FORMAT", Text.toBytes "yaml")]
    let env' := Environment.ofList [("PORT", Text.toBytes "9000")]
    read arguments = .options o ∧ (o.settings env).1.server.portNumber = 8080 ∧
      (o.settings env).1.analysis.minLength = 1 ∧ o.settings env' = o.settings env ∧
      (∀ machine stopped,
        run machine arguments env' none stopped = run machine arguments env none stopped) ∧
      ∃ service, (run ⟨fun _ _ => none⟩ arguments env none false).service = some service ∧
        service.settings.server.portNumber = 8080 ∧ service.provider.isAvailable = false := by
  intro arguments o env env'
  have hport : readPort ['8', '0', '8', '0'] = .ok 8080 := by decide
  have hformat : Format.read "json" = .ok .json := by decide +kernel
  have hread : read arguments = .options o := by
    refine read_eq_options_iff.mpr ⟨[(.portNumber, "8080"), (.format, "json")],
      .joined (a := .portNumber) (v := "8080".toList) rfl
        (.apart (a := .format) (v := "json".toList) rfl (by simp [IsPlain]) .nil),
      by decide, ?_, ?_⟩
    · simp [IsValue, hport, hformat]
    · constructor <;> simp [o, hport, hformat, eq_comm]
  obtain ⟨-, hsettings, -, hrun, hunread⟩ := run_precedence hread
  have hsame : ∀ name, name ≠ "ANALYSIS_FORMAT" → env' name = env name := by
    intro name hname
    simp only [env, env', Environment.ofList, List.find?_cons, List.find?_nil,
      beq_eq_false_iff_ne.mpr hname.symm]
  obtain ⟨hequal, -, hwritten⟩ := hunread .json rfl env env' hsame
  have hserves := (hrun ⟨fun _ _ => none⟩ env none false).2.1
  have hport : (o.settings env).1.server.portNumber = 8080 := by
    rw [(hsettings env).1]
    rfl
  refine ⟨hread, hport, ?_, hequal, fun machine stopped => (hwritten machine stopped).2,
    .ofSettings (o.settings env).1, (hserves.service_eq_some_iff _).mpr ⟨rfl, rfl, rfl⟩, hport, ?_⟩
  · have hunset : env "MIN_CODE_LENGTH" = none := by decide
    have hdefault : Setting.Decided o env .json (.quantity .minLength) (some 1) := by
      refine .default rfl ?_
      rintro _ ⟨_, ⟨_, hset, _⟩, _⟩
      exact Option.some_ne_none _ (hset.symm.trans hunset)
    exact Option.some.inj (((hsettings env).2.1 _ _).mpr hdefault)
  · have hkey : (o.settings env).1.provider.apiKey = none := by decide
    rw [Http.Service.ofSettings, Provider.ofSettings, hkey]
    rfl

end Cli

end AnalysisGateway
