import AnalysisGateway.Settings
import AnalysisGateway.Text.Alphanumeric
import AnalysisGateway.Text.Blank

/-!
# Environment files

A file of assignments that add to an environment. One assignment stands on a line, `NAME=value`,
perhaps after `export`; blanks may stand around the equals sign.

* A value between quotation marks may go over several lines. Between apostrophes all characters are
  themselves; elsewhere a backslash comes before a quotation mark, apostrophe, backslash, dollar or
  space that is itself, and before an `n` for a line feed.
* Outside apostrophes, `$NAME` and `${NAME}` are the values of variables: from the environment, or
  else from earlier lines.
* A comment begins with `#` at the start of a line or after a blank.
* A variable that the environment has already stays as it is.
* Reading stops at the first line that is not UTF-8 or no assignment; the lines before it count.
-/

namespace AnalysisGateway.EnvironmentFile

/-! ## Lines -/

/-- The lines of a file with their ends, after the bytes `line`, latest first. -/
def splitLines (line : Bytes) : Bytes → List Bytes
  | [] => if line.isEmpty then [] else [line.reverse]
  | b :: rest =>
    if b = 0x0A then (b :: line).reverse :: splitLines [] rest else splitLines (b :: line) rest

/-- The file without a byte order mark in front. -/
def withoutMark : Bytes → Bytes
  | 0xEF :: 0xBB :: 0xBF :: rest => rest
  | bytes => bytes

/-- What the characters of a line stand in. -/
inductive Mode where
  | plain
  | blank
  | escape
  | double
  | doubleEscape
  | single
  | singleEscape
  deriving DecidableEq, Repr

/-- The mode after a character. -/
def Mode.next (mode : Mode) (c : Char) : Mode :=
  match mode with
  | .plain | .blank =>
    if c = '\\' then .escape
    else if c = '"' then .double
    else if c = '\x27' then .single
    else if mode = .plain ∧ Text.isBlank c ∧ c ≠ '\n' ∧ c ≠ '\r' then .blank
    else .plain
  | .escape => .plain
  | .double => if c = '\\' then .doubleEscape else if c = '"' then .plain else .double
  | .doubleEscape => .double
  | .single => if c = '\\' then .singleEscape else if c = '\x27' then .plain else .single
  | .singleEscape => .single

/-- The mode after a text, and the text before the comment that it ends with. -/
def scan (mode : Mode) (before : List Char) : List Char → Mode × Option (List Char)
  | [] => (mode, none)
  | c :: rest =>
    if mode = .blank ∧ c = '#' then (mode, some before.reverse)
    else scan (mode.next c) (c :: before) rest

/-- A line without its end. -/
def withoutEnd (line : List Char) : List Char :=
  match line.reverse with
  | '\n' :: '\r' :: rest => rest.reverse
  | '\n' :: rest => rest.reverse
  | _ => line

/-- The next line in the sense of the format, with the lines after it; none if it is broken off or
not UTF-8. The file has ended when there are no lines left. -/
def joinLine (begun : List Char) (mode : Mode) : List Bytes →
    Option (List Char × List Bytes)
  | [] => none
  | bytes :: rest => do
    let line ← Text.decode? bytes
    let whole := begun ++ line
    if (Text.trimStart whole).head? = some '#' then return ([], rest)
    match scan mode [] line with
    | (_, some before) => return (begun ++ before, rest)
    | (.plain, none) => return (withoutEnd whole, rest)
    | (mode, none) => joinLine whole mode rest

/-! ## Values -/

/-- What a value is read in. -/
inductive Quote where
  | none
  | single
  | double
  deriving DecidableEq, Repr

/-- A value as far as it has been read, texts latest character first. -/
structure Reading where
  output : List Char := []
  quote : Quote := .none
  escaped : Bool := false
  /-- Only blanks and a comment may follow. -/
  ended : Bool := false
  /-- The name that is read after a dollar, and whether it is in braces. -/
  name : Option (Bool × List Char) := none

/-- The reading with the value of a variable. -/
def Reading.substitute (value : List Char → List Char) (r : Reading) (name : List Char) : Reading :=
  { r with output := (value name.reverse).reverse ++ r.output, name := none }

/-- The reading after a character of a name. -/
def Reading.inName (value : List Char → List Char) (r : Reading) (braced : Bool) (name : List Char)
    (c : Char) : Reading :=
  if Text.isAlphanumeric c then { r with name := some (braced, c :: name) }
  else if braced then
    if c = '\x7d' then r.substitute value name else { r with name := some (true, c :: name) }
  else if c = '\x7b' ∧ name.isEmpty then { r with name := some (true, []) }
  else
    let r := r.substitute value name
    if c = '$' then { r with name := some (false, []) } else { r with output := c :: r.output }

/-- The character that an escape stands for. -/
def escaped? (c : Char) : Option Char :=
  if c = 'n' then some '\n'
  else if ['\\', '\x27', '"', '$', ' '].contains c then some c
  else none

/-- The reading after a character; none if it must not stand here. -/
def Reading.next (value : List Char → List Char) (r : Reading) (c : Char) : Option Reading :=
  if r.escaped then
    (escaped? c).map fun e => { r with output := e :: r.output, escaped := false }
  else if r.quote = .single then
    if c = '\x27' then some { r with quote := .none } else some { r with output := c :: r.output }
  else match r.name with
    | some (braced, name) => some (r.inName value braced name c)
    | none =>
      if c = '$' then some { r with name := some (false, []) }
      else if c = '\\' then some { r with escaped := true }
      else if c = '"' then
        some { r with quote := if r.quote = .double then .none else .double }
      else if r.quote = .double then some { r with output := c :: r.output }
      else if c = '\x27' then some { r with quote := .single }
      else if c = ' ' ∨ c = '\t' then some { r with ended := true }
      else some { r with output := c :: r.output }

/-- The value at the end of a text; none inside quotes or braces. -/
def Reading.finish (value : List Char → List Char) (r : Reading) : Option (List Char) :=
  if r.quote ≠ .none then none
  else match r.name with
    | some (true, _) => none
    | some (false, name) => some (r.substitute value name).output.reverse
    | none => some r.output.reverse

/-- Reads a value. -/
def readValue (value : List Char → List Char) (r : Reading) : List Char → Option (List Char)
  | [] => r.finish value
  | c :: rest =>
    if r.ended then
      if c = ' ' ∨ c = '\t' then readValue value r rest
      else if c = '#' then r.finish value
      else none
    else match r.next value c with
      | some r => readValue value r rest
      | none => none

/-! ## Assignments -/

/-- Reads a name: letters, digits, underscores and points, a letter or an underscore first. -/
def readName (s : List Char) : Option (List Char × List Char) :=
  match s with
  | [] => none
  | c :: _ =>
    if c.isAlpha ∨ c = '_' then
      let isPart (c : Char) := c.isAlphanum || c == '_' || c == '.'
      some (s.takeWhile isPart, Text.trimStart (s.dropWhile isPart))
    else none

/-- Reads an equals sign. -/
def readEquals : List Char → Option (List Char)
  | '=' :: rest => some (Text.trimStart rest)
  | _ => none

/-- Reads a name and an equals sign, perhaps after `export`, which may be the name itself. -/
def readTarget (s : List Char) : Option (List Char × List Char) := do
  let (name, rest) ← readName s
  match readEquals rest with
  | some rest => return (name, rest)
  | none =>
    if name = "export".toList then
      let (name, rest) ← readName rest
      return (name, ← readEquals rest)
    else none

/-- A blank line, an assignment, or none of both. -/
inductive Line where
  | blank
  | assignment (name value : List Char)
  | broken
  deriving DecidableEq, Repr

/-- Reads a line. -/
def readLine (value : List Char → List Char) (line : List Char) : Line :=
  let line := Text.trim line
  if line.isEmpty ∨ line.head? = some '#' then .blank
  else match readTarget line with
    | none => .broken
    | some (name, rest) =>
      if rest.head? = some '#' then .assignment name []
      else match readValue value {} rest with
        | some v => .assignment name v
        | none => .broken

/-- The value of a variable, in the environment or else among the assignments, latest first. -/
def valueOf (env : Environment) (assigned : List (List Char × List Char)) (name : List Char) :
    List Char :=
  match env.text? (String.ofList name) with
  | some v => v.toList
  | none => ((assigned.find? (·.1 == name)).map (·.2)).getD []

/-- Adds the assignments of lines to an environment. A line in the sense of the format is at least
one line, so their number bounds the turns. -/
def loadLines (assigned : List (List Char × List Char)) (env : Environment) :
    (bound : List Bytes) → List Bytes → Environment
  | [], _ => env
  | _ :: bound, lines =>
    match joinLine [] .plain lines with
    | none => env
    | some (line, lines) =>
      match readLine (valueOf env assigned) line with
      | .broken => env
      | .blank => loadLines assigned env bound lines
      | .assignment name v =>
        let key := String.ofList name
        match env.text? key with
        | some _ => loadLines ((name, v) :: assigned) env bound lines
        | none => loadLines ((name, v) :: assigned) (env.set key (Text.encode v)) bound lines

/-- The environment with the assignments of a file. -/
def load (file : Bytes) (env : Environment) : Environment :=
  let lines := splitLines [] (withoutMark file)
  loadLines [] env lines lines

end AnalysisGateway.EnvironmentFile
