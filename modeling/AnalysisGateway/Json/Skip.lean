import AnalysisGateway.Json.Number
import AnalysisGateway.Json.Text

/-!
# Values passed over

Members that nobody asked for are passed over without being built. They must be JSON in form, but
their numbers may be out of any range, their texts need not be Unicode, and they may nest to any
depth: the open brackets are kept in a list, latest first.
-/

namespace AnalysisGateway.Json

/-- An open bracket. -/
inductive Frame where
  | list
  | object
  deriving DecidableEq, Repr

namespace Frame

/-- The byte that closes the bracket. -/
def closing : Frame → UInt8
  | .list => 0x5D
  | .object => 0x7D

/-- The fault of a text that ends inside the bracket. -/
def endCause : Frame → Cause
  | .list => .endInList
  | .object => .endInObject

/-- The fault of a member that no comma follows. -/
def commaCause : Frame → Cause
  | .list => .expectedListCommaOrEnd
  | .object => .expectedObjectCommaOrEnd

end Frame

/-- Reads the colon after a key. -/
def readColon (s : Bytes) : Except Fault Bytes :=
  match skipBlank s with
  | 0x3A :: rest => .ok rest
  | [] => .error (.peek .endInObject [])
  | rest => .error (.peek .expectedColon rest)

/-- Passes over a key and its colon, if the bracket is an object's. -/
def skipKey (frame : Frame) (s : Bytes) : Except Fault Bytes :=
  match frame with
  | .list => .ok s
  | .object =>
    match skipBlank s with
    | 0x22 :: rest =>
      match skipText rest rest with
      | .error f => .error f
      | .ok rest => readColon rest
    | [] => .error (.peek .endInObject [])
    | rest => .error (.peek .keyNotText rest)

/-- Closes brackets as far as possible after a value (`mayEnd`) or an opening bracket; gives the
brackets around the next value, or none if there is no open bracket left. -/
def closeFrames (afterValue : Bool) : List Frame → Bytes →
    Except Fault (Option (List Frame) × Bytes)
  | [], s => .ok (none, s)
  | frame :: outer, s =>
    match skipBlank s with
    | [] => .error (.peek frame.endCause [])
    | b :: rest =>
      if b = 0x2C ∧ afterValue then
        (skipKey frame rest).map fun rest => (some (frame :: outer), rest)
      else if b = frame.closing then closeFrames true outer rest
      else if afterValue then .error (.peek frame.commaCause (b :: rest))
      else (skipKey frame (b :: rest)).map fun rest => (some (frame :: outer), rest)

/-- Passes over the first token of a value: a scalar, or a bracket that is now open. -/
def skipToken (frames : List Frame) (s : Bytes) :
    Except Fault (Option (List Frame) × Bytes) :=
  match skipBlank s with
  | [] => .error (.peek .endInValue [])
  | b :: rest =>
    let scalar (after : Except Fault Bytes) : Except Fault (Option (List Frame) × Bytes) :=
      match after with
      | .error f => .error f
      | .ok rest => closeFrames true frames rest
    if b = 0x6E then scalar ((readWord [0x75, 0x6C, 0x6C] rest).map (·.2))
    else if b = 0x74 then scalar ((readWord [0x72, 0x75, 0x65] rest).map (·.2))
    else if b = 0x66 then scalar ((readWord [0x61, 0x6C, 0x73, 0x65] rest).map (·.2))
    else if b = 0x2D then scalar (Number.skip rest)
    else if isDigit b then scalar (Number.skip (b :: rest))
    else if b = 0x22 then scalar (skipText rest rest)
    else if b = 0x5B then closeFrames false (.list :: frames) rest
    else if b = 0x7B then closeFrames false (.object :: frames) rest
    else .error (.peek .expectedValue (b :: rest))

/-- Passes over values until no bracket is open. Each turn takes at least one byte. -/
def skipValues (frames : List Frame) : (bound : Bytes) → Bytes → Except Fault Bytes
  | [], s => .error (.peek .endInValue s)
  | _ :: bound, s =>
    match skipToken frames s with
    | .error f => .error f
    | .ok (none, rest) => .ok rest
    | .ok (some frames, rest) => skipValues frames bound rest

/-- Passes over a value. -/
def skipValue (s : Bytes) : Except Fault (Unit × Bytes) :=
  (skipValues [] (0 :: s) s).map fun rest => ((), rest)

end AnalysisGateway.Json
