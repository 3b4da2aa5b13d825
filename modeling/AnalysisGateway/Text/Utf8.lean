/-!
# UTF-8

Texts as bytes and back. Reading is a machine that takes one byte at a time; it stands between
characters or inside one, and then knows how many bytes are owed and between which bounds the next
one lies. A byte that cannot continue the character refuses the bytes before it, as one piece, and
is then looked at afresh. So each refused piece is the longest beginning of a character that the
bytes allow.
-/

namespace AnalysisGateway

/-- A sequence of bytes. -/
abbrev Bytes := List UInt8

namespace Text

/-- The bytes of a text. -/
def encode (s : List Char) : Bytes := s.flatMap String.utf8EncodeChar

/-- `encode` on strings. -/
def toBytes (s : String) : Bytes := encode s.toList

/-! ## Reading -/

/-- A character whose first bytes have been read: the bytes owed, the bounds of the next one, and
the value so far. -/
structure Begun where
  owed : Nat
  low : Nat
  high : Nat
  value : Nat
  deriving DecidableEq, Repr

/-- What a byte says between characters. -/
inductive FirstByte where
  /-- The byte is a character by itself. -/
  | whole (c : Char)
  /-- The byte begins a longer character. -/
  | begins (b : Begun)
  /-- No character begins so. -/
  | refused
  deriving DecidableEq, Repr

/-- The reading of a byte between characters. -/
def firstByte (b : Nat) : FirstByte :=
  if b ≤ 0x7F then .whole (Char.ofNat b)
  else if 0xC2 ≤ b ∧ b ≤ 0xDF then .begins ⟨1, 0x80, 0xBF, b - 0xC0⟩
  else if b = 0xE0 then .begins ⟨2, 0xA0, 0xBF, 0⟩
  else if b = 0xED then .begins ⟨2, 0x80, 0x9F, 0xD⟩
  else if 0xE1 ≤ b ∧ b ≤ 0xEF then .begins ⟨2, 0x80, 0xBF, b - 0xE0⟩
  else if b = 0xF0 then .begins ⟨3, 0x90, 0xBF, 0⟩
  else if 0xF1 ≤ b ∧ b ≤ 0xF3 then .begins ⟨3, 0x80, 0xBF, b - 0xF0⟩
  else if b = 0xF4 then .begins ⟨3, 0x80, 0x8F, 4⟩
  else .refused

/-- The machine after a byte between characters: the pieces so far, latest first, and the
character begun. -/
def startPiece (b : Nat) (done : List (Option Char)) : List (Option Char) × Option Begun :=
  match firstByte b with
  | .whole c => (some c :: done, none)
  | .begins o => (done, some o)
  | .refused => (none :: done, none)

/-- One byte of the machine. -/
def stepPiece (done : List (Option Char)) (open? : Option Begun) (b : Nat) :
    List (Option Char) × Option Begun :=
  match open? with
  | none => startPiece b done
  | some o =>
    if o.low ≤ b ∧ b ≤ o.high then
      let value := o.value * 64 + (b - 0x80)
      if o.owed = 1 then (some (Char.ofNat value) :: done, none)
      else (done, some ⟨o.owed - 1, 0x80, 0xBF, value⟩)
    else startPiece b (none :: done)

/-- The pieces of a byte sequence after `done`: a character, or `none` for bytes that are none. -/
def piecesFrom (done : List (Option Char)) (open? : Option Begun) : Bytes → List (Option Char)
  | [] => (match open? with
    | none => done
    | some _ => none :: done).reverse
  | b :: rest =>
    let next := stepPiece done open? b.toNat
    piecesFrom next.1 next.2 rest

/-- The pieces of a byte sequence. -/
def pieces (bytes : Bytes) : List (Option Char) := piecesFrom [] none bytes

/-- The text of a byte sequence, if it is UTF-8. -/
def decode? (bytes : Bytes) : Option (List Char) :=
  let ps := pieces bytes
  if ps.all Option.isSome then some (ps.filterMap id) else none

/-- The text of a byte sequence, with U+FFFD for each piece that is no character. -/
def decodeLossy (bytes : Bytes) : List Char :=
  (pieces bytes).map (·.getD (Char.ofNat 0xFFFD))

/-- The number of bytes before the first piece that is no character. -/
def validLength (bytes : Bytes) : Nat :=
  (((pieces bytes).takeWhile Option.isSome).filterMap id).foldl (fun n c => n + c.utf8Size) 0

/-- `decode?` to a string. -/
def ofBytes? (bytes : Bytes) : Option String := (decode? bytes).map String.ofList

end Text

end AnalysisGateway
