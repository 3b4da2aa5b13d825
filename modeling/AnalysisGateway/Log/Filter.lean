import AnalysisGateway.Event
import AnalysisGateway.Number.Numeral
import AnalysisGateway.Text.Alphanumeric
import AnalysisGateway.Text.Blank
import AnalysisGateway.Text.Split

/-!
# Log filters

Which events are written. A filter is a list of directives with commas between them; a directive is
a level, a part of the service, or `part=level`, and may ask for a span in square brackets, or for a
field in braces inside them. The events of a part are those whose target begins with its name, and
the directive with the longest such name decides, of several the one that asks for a field; without
any directive, only errors are written. A directive with an equals sign must not begin with a blank.
Events here never lie in a span, so a directive that asks for one, or for a field of a certain
value, decides nothing.
-/

namespace AnalysisGateway.Log

/-- The least urgent level that is written; none if nothing is. -/
abbrev Threshold := Option Level

/-- The thresholds by their words. -/
def thresholdsByWord : List (List Char × Threshold) :=
  [("error".toList, some .error), ("warn".toList, some .warn), ("info".toList, some .info),
   ("debug".toList, some .debug), ("trace".toList, some .trace), ("off".toList, none)]

/-- The thresholds by their numbers. -/
def thresholdsByNumber : List Threshold :=
  [none, some .error, some .warn, some .info, some .debug, some .trace]

/-- The threshold that a text names, by its word in any case or by its number. -/
def readThreshold (s : List Char) : Option Threshold :=
  let word := thresholdsByWord.find? (·.1 == s.map Char.toLower)
  match Numeral.readChars 64 s with
  | .ok n => thresholdsByNumber[n]?
  | .error _ => if s.isEmpty then some (some .error) else word.map (·.2)

/-- A directive: the part of the service, if it names one, the field that an event must have, if it
asks for one, its threshold, and whether it is for events in spans only. -/
structure Directive where
  part : Option (List Char)
  field : Option (List Char) := none
  inSpan : Bool := false
  threshold : Threshold
  deriving DecidableEq, Repr

namespace Directive

/-- Whether a directive may begin with a character. -/
def mayBegin (c : Char) : Bool := ['[', '-', ':', '_'].contains c || Text.isAlphanumeric c

/-- Reads the threshold after an equals sign; an empty one lets everything pass. -/
def readLimit (s : List Char) : Option Threshold :=
  if s.isEmpty then some (some .trace) else readThreshold s

/-- Reads what follows the brackets of a directive; without a threshold everything passes. -/
def readAfterSpan (d : Directive) : List Char → Option Directive
  | [] => some d
  | '=' :: rest => (readLimit rest).map fun t => { d with threshold := t }
  | _ => none

/-- Reads a span and what follows it, after the opening bracket. -/
def readSpan (part : Option (List Char)) (s : List Char) : Option Directive :=
  let name := s.takeWhile fun c => c != ']' && c != '\x7b'
  match s.drop name.length with
  | ']' :: rest => readAfterSpan { part, inSpan := true, threshold := some .trace } rest
  | '\x7b' :: rest =>
    match Text.cut '\x7d' rest with
    | (field, some (']' :: rest)) =>
      let (field, value) := Text.cut '=' field
      if field.isEmpty && value.isNone then none
      else readAfterSpan { part, field := some field, inSpan := !name.isEmpty || value.isSome,
                           threshold := some .trace } rest
    | _ => none
  | _ => none

/-- Reads a directive that is not empty. -/
def read (s : List Char) : Option Directive :=
  if !((Text.trim s).head?.map mayBegin).getD false then none
  else if s.head?.any Text.isBlank && s.contains '=' then none
  else
    let name := s.takeWhile fun c => c != '=' && c != '['
    match s.drop name.length with
    | [] => match readThreshold s with
      | some t => some { part := none, threshold := t }
      | none => some { part := some s, threshold := some .trace }
    | '=' :: rest => (readLimit rest).map fun t => { part := some name, threshold := t }
    | _ :: span =>
      let part := if name.isEmpty then none else some name
      readSpan part (span.reverse.dropWhile Text.isBlank).reverse

/-- Whether a directive is for an event. -/
def isFor (d : Directive) (e : Event) : Bool :=
  !d.inSpan
    && d.part.all (·.isPrefixOf e.target.toList)
    && d.field.all fun name => name == "message".toList || e.fields.any (·.1.toList == name)

/-- The length of the part's name; 0 if there is none. -/
def rank (d : Directive) : Nat :=
  match d.part with
  | none => 0
  | some part => part.length + 1

/-- Whether a directive is less specific than another one. -/
def yields (d b : Directive) : Bool :=
  d.rank < b.rank
    || (d.rank == b.rank && String.ofList (d.field.getD []) < String.ofList (b.field.getD []))

end Directive

/-- A filter. -/
structure Filter where
  directives : List Directive
  deriving DecidableEq, Repr

namespace Filter

/-- The filter unless one is set: what the service itself reports, without its details. -/
def default : Filter := ⟨[{ part := some "codecomplexity".toList, threshold := some .info }]⟩

/-- Reads a filter. -/
def read (s : String) : Option Filter := do
  let parts := (Text.split ',' s.toList).filter (!·.isEmpty)
  let directives ← parts.mapM Directive.read
  return ⟨if directives.isEmpty then [{ part := none, threshold := some .error }] else directives⟩

/-- The directive that decides on an event: the most specific one, and of equally specific ones the
last. -/
def deciding? (f : Filter) (e : Event) : Option Directive :=
  (f.directives.filter (·.isFor e)).foldl (fun best d =>
    match best with
    | some b => if d.yields b then some b else some d
    | none => some d) none

/-- Whether an event is written. -/
def passes (f : Filter) (e : Event) : Bool :=
  match f.deciding? e with
  | some { threshold := some level, .. } => e.level.rank ≤ level.rank
  | _ => false

end Filter

end AnalysisGateway.Log
