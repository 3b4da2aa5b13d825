import AnalysisGateway.Format
import AnalysisGateway.Number.Numeral
import AnalysisGateway.Text.Similarity
import AnalysisGateway.Text.Split
import AnalysisGateway.Text.Visible

/-!
# Command-line arguments

Four options and a request for help:

* `--host`, `--port` and `--format` take a value, as the next argument or after `=`; `--json-logs`
  and `--help` take none. Each may be given once, and there are no other arguments.
* An argument that begins with a hyphen is never the value of the one before it. After `--` nothing
  is an option.
* Arguments are taken in their order, and the first fault is reported. A value is looked at when the
  next option comes, or at the end; an unknown argument is reported before that.
* Help is given as soon as it is asked for.
* What is reported holds no control sequences, even where an argument does.
-/

namespace AnalysisGateway.Cli

/-- The arguments that are known. -/
inductive Argument where
  | host
  | portNumber
  | format
  | jsonLogs
  | help
  deriving DecidableEq, Repr

namespace Argument

/-- All arguments, in the order in which they are listed. -/
def all : List Argument := [.host, .portNumber, .format, .jsonLogs, .help]

/-- The name of an argument, without its hyphens. -/
def name : Argument → String
  | .host => "host"
  | .portNumber => "port"
  | .format => "format"
  | .jsonLogs => "json-logs"
  | .help => "help"

/-- Whether an argument takes a value. -/
def takesValue : Argument → Bool
  | .host | .portNumber | .format => true
  | .jsonLogs | .help => false

/-- How an argument is shown. -/
def shown (a : Argument) : String :=
  "--" ++ a.name ++ (if a.takesValue then " <" ++ a.name.toUpper ++ ">" else "")

/-- The argument of a name. -/
def ofName? (name : List Char) : Option Argument := all.find? (·.name.toList == name)

/-- The argument whose name is most like a text, if it is like it at all; of equally like ones the
last. -/
def similar? (text : List Char) : Option Argument :=
  (all.map fun a => (a, Text.similarity text a.name.toList)).foldl (fun best (a, s) =>
    if s.exceeds (.of 7 10) then
      match best with
      | some (b, t) => if t.exceeds s then some (b, t) else some (a, s)
      | none => some (a, s)
    else best) none |>.map (·.1)

end Argument

/-- What the command line asks for. -/
structure Options where
  host : Option String := none
  portNumber : Option Nat := none
  format : Option Format := none
  jsonLogs : Bool := false
  deriving DecidableEq, Repr

/-! ## Faults -/

/-- Why a command line is refused. `given` are the arguments that a usage line shows. -/
inductive Refusal where
  | unexpected (argument : String) (similar : Option Argument) (given : List Argument)
  | valueMissing (a : Argument)
  | badValue (a : Argument) (value reason : String)
  | repeated (a : Argument)
  | valueUnneeded (a : Argument) (value : String) (given : List Argument)
  deriving DecidableEq, Repr

/-- The usage line that shows some arguments, or the one for all. -/
def usage (given : List Argument) : String :=
  "Usage: codecomplexity " ++
    (if given.isEmpty then "[OPTIONS]" else " ".intercalate (given.map Argument.shown))

namespace Refusal

/-- The first line of a refusal. What was given is shown in a style of its own. -/
def headline : Refusal → List Text.Span
  | .unexpected argument _ _ => [.plain "unexpected argument '", .styled argument, .plain "' found"]
  | .valueMissing a =>
    [.plain "a value is required for '", .styled a.shown, .plain "' but none was supplied"]
  | .badValue a value reason =>
    [.plain "invalid value '", .styled value, .plain "' for '", .styled a.shown,
      .plain ("': " ++ reason)]
  | .repeated a =>
    [.plain "the argument '", .styled a.shown, .plain "' cannot be used multiple times"]
  | .valueUnneeded a value _ =>
    [.plain "unexpected value '", .styled value, .plain "' for '", .styled a.shown,
      .plain "' found; no more were expected"]

/-- What a refusal says between its first and its last line. -/
def advice : Refusal → List String
  | .unexpected _ (some a) given =>
    ["", "  tip: a similar argument exists: '--" ++ a.name ++ "'", "", usage given]
  | .unexpected _ none given | .valueUnneeded _ _ given => ["", usage given]
  | .repeated _ => ["", usage []]
  | .valueMissing _ | .badValue .. => []

/-- The spans of a refusal. -/
def spans (r : Refusal) : List Text.Span :=
  .styled "error:" :: .plain " " :: r.headline
    ++ r.advice.map (fun line => .plain ("\n" ++ line))
    ++ [.plain "\n\nFor more information, try '", .styled "--help", .plain "'."]

/-- The lines of a refusal, without control sequences. -/
def lines (r : Refusal) : List String :=
  (Text.split '\n' (Text.visible r.spans)).map String.ofList

end Refusal

/-- The lines of the help. -/
def helpLines : List String := [
  "LLM-backed code complexity analysis service",
  "",
  usage [],
  "",
  "Options:",
  "      --host <HOST>      Address to bind (overrides HOST)",
  "      --port <PORT>      Port to listen on (overrides PORT)",
  "      --format <FORMAT>  Response format: `markdown` or `json` (overrides ANALYSIS_FORMAT)",
  "      --json-logs        Emit logs as JSON lines",
  "  -h, --help             Print help"]

/-! ## Values -/

/-- The wording of a fault in a signed number. -/
def signedFault (negative : Bool) : NumeralFault → String
  | .tooLarge =>
    if negative then "number too small to fit in target type" else NumeralFault.tooLarge.message
  | fault => fault.message

/-- Reads a signed number of 64 bits: its sign and its magnitude. -/
def readSigned (s : List Char) : Except String (Bool × Nat) :=
  match s with
  | ['-'] => .error NumeralFault.badDigit.message
  | '-' :: digits =>
    match Numeral.readDigits (Nat.pow 2 63 + 1) 0 digits with
    | .ok n => .ok (true, n)
    | .error fault => .error (signedFault true fault)
  | s =>
    match Numeral.readChars 63 s with
    | .ok n => .ok (false, n)
    | .error fault => .error (signedFault false fault)

/-- Reads a port number. -/
def readPort (s : List Char) : Except String Nat := do
  let (negative, n) ← readSigned s
  if n < Nat.pow 2 16 ∧ (¬ negative ∨ n = 0) then return n
  else throw ((if negative then "-" else "") ++ toString n ++ " is not in 0..=65535")

/-- The options with the value of an argument. -/
def Options.withValue (o : Options) (a : Argument) (value : String) : Except String Options :=
  match a with
  | .host => .ok { o with host := some value }
  | .portNumber => (readPort value.toList).map fun n => { o with portNumber := some n }
  | .format => match Format.read value with
    | .ok f => .ok { o with format := some f }
    | .error unknown => .error unknown.message
  | .jsonLogs => .ok { o with jsonLogs := true }
  | .help => .ok o

/-! ## Reading -/

/-- How far the arguments have been read: the options, the arguments taken in, and the one whose
value is still to be looked at or still to come. -/
structure Progress where
  options : Options := {}
  given : List Argument := []
  waiting : Option (Argument × Option String) := none

namespace Progress

/-- Takes an argument in. A fault leaves it among the given ones, unless it is given twice. -/
def take (p : Progress) (a : Argument) (value : String) : Progress × Option Refusal :=
  if p.given.contains a then ({ p with given := p.given.erase a }, some (.repeated a))
  else
    let p := { p with given := p.given ++ [a] }
    match p.options.withValue a value with
    | .ok options => ({ p with options }, none)
    | .error reason => (p, some (.badValue a value reason))

/-- Looks at the value of the waiting argument. -/
def settle (p : Progress) : Progress × Option Refusal :=
  match p.waiting with
  | none => (p, none)
  | some (a, none) => ({ p with waiting := none }, some (.valueMissing a))
  | some (a, some value) => { p with waiting := none }.take a value

/-- Whether the next argument may be a value. -/
def wantsValue (p : Progress) : Bool :=
  match p.waiting with
  | some (_, none) => true
  | _ => false

/-- The refusal of an unknown argument that is no option. -/
def unknown (argument : String) : Refusal := .unexpected argument none []

/-- The refusal of an unknown option. -/
def unknownOption (p : Progress) (name : List Char) : Refusal :=
  let given := p.settle.1.given
  let similar := Argument.similar? name
  .unexpected ("--" ++ String.ofList name) similar
    (given ++ (similar.filter (!given.contains ·)).toList)

end Progress

/-- How the reading of arguments ends. -/
inductive Reading where
  | options (o : Options)
  | help
  | refused (r : Refusal)
  deriving DecidableEq, Repr

/-- Goes on after the waiting argument has been settled. -/
def Progress.settled (p : Progress) (next : Progress → Except Reading Progress) :
    Except Reading Progress :=
  match p.settle with
  | (_, some refusal) => .error (.refused refusal)
  | (p, none) => next p

/-- Takes an argument in at once, after the waiting one. -/
def Progress.takeNow (p : Progress) (a : Argument) (value : String) : Except Reading Progress :=
  p.settled fun p => match p.take a value with
    | (_, some refusal) => .error (.refused refusal)
    | (p, none) => .ok p

/-- Takes a request for help. -/
def Progress.help (p : Progress) : Except Reading Progress := p.settled fun _ => .error .help

/-- Reads an option that is written out. -/
def Progress.long (p : Progress) (s : List Char) : Except Reading Progress :=
  let (name, value) := Text.cut '=' s
  match Argument.ofName? name with
  | none => .error (.refused (p.unknownOption name))
  | some a =>
    match a.takesValue, value with
    | true, some v => p.takeNow a (String.ofList v)
    | true, none => p.settled fun p => .ok { p with waiting := some (a, none) }
    | false, some v => .error (.refused (.valueUnneeded a (String.ofList v)
        (p.given ++ (if p.given.contains a then [] else [a]))))
    | false, none => if a = .help then p.help else p.takeNow a ""

/-- Reads an argument of one hyphen and letters, of which only the first matters. -/
def Progress.short (p : Progress) (c : Char) : Except Reading Progress :=
  if c = 'h' then p.help
  else .error (.refused (Progress.unknown (String.ofList ['-', c])))

/-- Reads an argument that is no option. -/
def Progress.plain (p : Progress) (s : List Char) : Except Reading Progress :=
  match p.waiting with
  | some (a, none) => .ok { p with waiting := some (a, some (String.ofList s)) }
  | _ => .error (.refused (Progress.unknown (String.ofList s)))

/-- Reads arguments. -/
def readFrom (p : Progress) : List (List Char) → Reading
  | [] =>
    match p.settle with
    | (_, some refusal) => .refused refusal
    | (p, none) => .options p.options
  | ['-', '-'] :: rest =>
    match rest with
    | [] => readFrom p []
    | s :: _ => .refused (Progress.unknown (String.ofList s))
  | s :: rest =>
    let next := match s with
      | '-' :: '-' :: name => p.long name
      | '-' :: c :: _ => p.short c
      | s => p.plain s
    match next with
    | .ok p => readFrom p rest
    | .error reading => reading

/-- Reads a command line without the name of the program. -/
def read (arguments : List String) : Reading := readFrom {} (arguments.map String.toList)

end AnalysisGateway.Cli
