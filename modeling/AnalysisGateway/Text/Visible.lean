import AnalysisGateway.Text.Utf8

/-!
# Control sequences

What is left of a text when the control sequences of terminals are taken out of it, and with them
all control characters that are not white space.

A sequence begins with the escape character, and the next character says of which kind it is. Most
kinds end with a certain character, and all of them end where another sequence begins or a cancel
character stands. White space that interrupts a short sequence is kept, and so is the text after it;
the sequence goes on at the next control character.
-/

namespace AnalysisGateway.Text

/-- A control sequence that has begun. -/
inductive Sequence where
  /-- Nothing but the escape character has been read. -/
  | escape
  /-- Characters from space to `/` have followed it; a later one ends the sequence. -/
  | intermediate
  /-- A bracket has followed it, and now parameters, up to a letter. -/
  | parameters
  /-- A string for the device, up to the byte 9C. -/
  | device
  /-- A command to the system, up to the bell. -/
  | command
  deriving DecidableEq, Repr

namespace Sequence

/-- What follows the escape character. -/
def ofSecond (c : Char) : Option Sequence :=
  if ' ' ≤ c ∧ c ≤ '/' then some .intermediate
  else if c = '[' then some .parameters
  else if c = ']' then some .command
  else if c = 'P' ∨ c = 'X' ∨ c = '^' ∨ c = '_' then some .device
  else if '0' ≤ c ∧ c ≤ '~' then none
  else some .escape

/-- The sequence after another character, unless it has ended. -/
def next (s : Sequence) (c : Char) : Option Sequence :=
  match s with
  | .escape => ofSecond c
  | .intermediate => if '0' ≤ c ∧ c ≤ '~' then none else some s
  | .parameters => if '@' ≤ c ∧ c ≤ '~' then none else some s
  | .device => if (String.utf8EncodeChar c).contains 0x9C then none else some s
  | .command => if c = '\x07' then none else some s

/-- Whether white space is kept that stands inside the sequence. -/
def keepsBlanks : Sequence → Bool
  | .escape | .intermediate | .parameters => true
  | .device | .command => false

end Sequence

/-- Where a text is read. -/
inductive Mode where
  /-- In text that is kept, perhaps after white space that interrupts a sequence. -/
  | kept (interrupted : Option Sequence)
  | inside (s : Sequence)
  deriving DecidableEq, Repr

/-- The mode after a sequence has gone on or ended. -/
def Mode.after : Option Sequence → Mode
  | some s => .inside s
  | none => .kept none

/-- The control characters that are white space. -/
def isBlankControl (c : Char) : Bool := c == '\t' || c == '\n' || c == '\x0c' || c == '\r'

/-- The mode after a character, and whether the character is kept. -/
def Mode.step (m : Mode) (c : Char) : Mode × Bool :=
  if c = '\x1b' then (.inside .escape, false)
  else if c = '\x18' ∨ c = '\x1a' then (.kept none, false)
  else match m with
    | .kept interrupted =>
      if '\x80' ≤ c then (.kept none, true)
      else if (' ' ≤ c ∧ c ≤ '~') ∨ isBlankControl c then (m, true)
      else (.after interrupted, false)
    | .inside s =>
      if s.keepsBlanks ∧ isBlankControl c then (.kept (some s), true)
      else (.after (s.next c), false)

/-- The kept characters of a text, and the mode at its end. -/
def keepVisible (m : Mode) : List Char → List Char × Mode
  | [] => ([], m)
  | c :: rest =>
    let (m, shown) := m.step c
    let (kept, m) := keepVisible m rest
    (if shown then c :: kept else kept, m)

/-- A part of a text that is shown in one style. -/
inductive Span where
  | plain (text : String)
  /-- A part between two control sequences that set its style. -/
  | styled (text : String)
  deriving DecidableEq, Repr

/-- The text of spans without their styles. What begins in a plain span may go on in the next one,
but not past a styled one. -/
def visibleFrom (m : Mode) : List Span → List Char
  | [] => []
  | .plain t :: more =>
    let (kept, m) := keepVisible m t.toList
    kept ++ visibleFrom m more
  | .styled t :: more => (keepVisible (.kept none) t.toList).1 ++ visibleFrom (.kept none) more

/-- `visibleFrom` the beginning. -/
def visible (spans : List Span) : List Char := visibleFrom (.kept none) spans

end AnalysisGateway.Text
