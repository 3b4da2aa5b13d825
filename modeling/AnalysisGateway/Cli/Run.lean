import AnalysisGateway.Cli.Arguments
import AnalysisGateway.Cli.EnvironmentFile
import AnalysisGateway.Http.Service
import AnalysisGateway.Log.Filter
import AnalysisGateway.Log.Line

/-!
# Runs of the program

What the program writes, how it ends and which service it runs, from its arguments, its environment,
an environment file and the machine it runs on. Arguments come before the environment, and the
environment before the defaults of the format; a format among the arguments leaves the one in the
environment unread. Of the log only the events of the service itself are kept.
-/

namespace AnalysisGateway.Cli

/-- A machine, as far as the program can tell: why an address cannot be listened on, if so. -/
structure Machine where
  refusal : (host : String) → (portNumber : Nat) → Option String

/-- The service of the settings, listening on their address, or why the address is refused. -/
def Machine.listen (machine : Machine) (s : Settings) : Except String Http.Service :=
  match machine.refusal s.server.host s.server.portNumber with
  | some reason => .error reason
  | none => .ok (.ofSettings s)

/-- A run: what is written, and the exit code, if the program ends. -/
structure Run where
  output : List String
  errors : List String
  exit : Option Nat
  deriving DecidableEq, Repr

/-- A process: its run, and the service that answers the requests to it, if one listens. -/
structure Process extends Run where
  service : Option Http.Service
  deriving DecidableEq, Repr

/-- The settings that are served, and the warnings on the way. -/
def Options.settings (o : Options) (env : Environment) : Settings × List Event :=
  let (format, unread) := match o.format with
    | some f => (f, [])
    | none => Settings.formatOf env
  let (s, warnings) := Settings.ofFormat env format
  ({ s with server := { s.server with
       host := o.host.getD s.server.host
       portNumber := o.portNumber.getD s.server.portNumber } },
   unread ++ warnings)

/-- What is reported before the service listens. -/
def startEvents (s : Settings) : List Event :=
  let address := s.server.address
  let format := s.analysis.format
  [.initializing s.provider.model format s.provider.timeout]
    ++ (if (Provider.ofSettings s.provider).isAvailable then [] else [.keyMissing])
    ++ [.starting address, .healthAt address, .analysisAt address format.endpoint,
      .documentationAt address]

/-- The filter in an environment. -/
def filterOf (env : Environment) : Log.Filter :=
  ((env.text? "RUST_LOG").bind Log.Filter.read).getD .default

/-- The lines of the events that the filter lets pass. -/
def Options.lines (o : Options) (env : Environment) (events : List Event) : List String :=
  (events.filter (filterOf env).passes).map fun e => String.ofList (Log.line o.jsonLogs e)

/-- Serves with options in an environment; `stopped` says that the program is told to stop. -/
def serve (machine : Machine) (o : Options) (env : Environment) (stopped : Bool) : Run :=
  let (s, warnings) := o.settings env
  let started := warnings ++ startEvents s
  match machine.listen s with
  | .error reason => ⟨o.lines env started, ["Error: " ++ reason], some 1⟩
  | .ok _ =>
    if stopped then ⟨o.lines env (started ++ [.stopping]), [], some 0⟩
    else ⟨o.lines env started, [], none⟩

/-- Runs the program. -/
def run (machine : Machine) (arguments : List String) (env : Environment) (file : Option Bytes)
    (stopped : Bool) : Process :=
  match read arguments with
  | .help => ⟨⟨helpLines, [], some 0⟩, none⟩
  | .refused r => ⟨⟨[], r.lines, some 2⟩, none⟩
  | .options o =>
    let env := match file with
      | some bytes => EnvironmentFile.load bytes env
      | none => env
    ⟨serve machine o env stopped, (machine.listen (o.settings env).1).toOption⟩

end AnalysisGateway.Cli
