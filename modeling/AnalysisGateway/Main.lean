import AnalysisGateway.Cli.Run

/-!
# The program

Starts the service with the arguments and the environment of the process. It listens to its standard
input: the end of the input tells it to stop.
-/

namespace AnalysisGateway

/-- The environment in a block of entries `NAME=value`, each with a zero byte after it. -/
def Environment.ofBlock (block : Bytes) : Environment :=
  ofList <| (block.splitBy fun b _ => b != 0x00).filterMap fun entry => do
    let name ← Text.ofBytes? (entry.takeWhile (· != 0x3D))
    return (name, ((entry.dropWhile (· != 0x3D)).drop 1).takeWhile (· != 0x00))

/-- The variables that the program reads by itself; an environment file may name any other. -/
def variableNames : List String :=
  ["HOST", "PORT", "MAX_BODY_BYTES", "ANALYSIS_FORMAT", "MIN_CODE_LENGTH", "MAX_CODE_LENGTH",
   "GROQ_API_KEY", "LLM_API_KEY", "LLM_BASE_URL", "LLM_MODEL", "LLM_TEMPERATURE", "LLM_MAX_TOKENS",
   "LLM_TIMEOUT", "RUST_LOG"]

/-- Those variables of the process. -/
def namedVariables : IO Environment := do
  let mut vars : List (String × Bytes) := []
  for name in variableNames do
    if let some value ← IO.getEnv name then
      vars := vars ++ [(name, Text.toBytes value)]
  return Environment.ofList vars

/-- All variables of the process, where the system shows them. -/
def processEnvironment : IO Environment := do
  try
    return Environment.ofBlock (← IO.FS.readBinFile "/proc/self/environ").toList
  catch _ => namedVariables

/-- The environment file of the working directory. -/
def environmentFile : IO (Option Bytes) := do
  try
    return some (← IO.FS.readBinFile ".env").toList
  catch _ => return none

/-- A machine on which every address can be listened on. -/
def openMachine : Cli.Machine where
  refusal _ _ := none

end AnalysisGateway

open AnalysisGateway in
/-- Runs the program. -/
def main (arguments : List String) : IO UInt32 := do
  let env ← processEnvironment
  let file ← environmentFile
  let run := Cli.run openMachine arguments env file true
  for line in run.output.dropLast do
    IO.println line
  if run.exit = some 0 ∧ run.service.isSome then
    discard (← IO.getStdin).readToEnd
  for line in run.output.getLast?.toList do
    IO.println line
  for line in run.errors do
    IO.eprintln line
  return (run.exit.getD 0).toUInt32
