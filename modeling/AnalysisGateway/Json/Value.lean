import AnalysisGateway.Json.Skip

/-!
# JSON values

Values of any kind, and their reader. Arrays and objects may nest up to a given depth. The members
of an object are kept in the order of the text, all of them; a look-up finds the last one of a name.

The loops over elements and members are shared with the readers of fixed shapes: they take the
reader of one element, or of the member of a given name.
-/

namespace AnalysisGateway.Json

/-- A value of any kind. -/
inductive Value where
  | null
  | boolean (b : Bool)
  | number (n : Number)
  | text (s : String)
  | list (items : List Value)
  | object (members : List (String × Value))
  deriving Repr

/-- The kind of a value, as a found value. -/
def Value.found : Value → Found
  | .null => .null
  | .boolean b => .boolean b
  | .number n => n.found
  | .text s => .text s
  | .list _ => .sequence
  | .object _ => .map

/-- The last member of a name. -/
def lookup? (members : List (String × Value)) (name : String) : Option Value :=
  (members.reverse.find? (·.1 == name)).map (·.2)

/-! ## Elements and members -/

/-- Brings the text to the next element of a list, or past its closing bracket. -/
def nextItem (first : Bool) (s : Bytes) : Except Fault (Bool × Bytes) :=
  match skipBlank s with
  | [] => .error (.peek .endInList [])
  | 0x5D :: rest => .ok (false, rest)
  | b :: rest =>
    if first then .ok (true, b :: rest)
    else if b = 0x2C then
      match skipBlank rest with
      | [] => .error (.peek .endInValue [])
      | 0x5D :: after => .error (.peek .trailingComma (0x5D :: after))
      | after => .ok (true, after)
    else .error (.peek .expectedListCommaOrEnd (b :: rest))

/-- Reads the elements up to the closing bracket, after `done`, latest first. -/
def readItemsAfter (item : Reader α) (done : List α) : (bound : Bytes) → Reader (List α)
  | [], s => .error (.peek .endInList s)
  | _ :: bound, s =>
    match nextItem done.isEmpty s with
    | .error f => .error f
    | .ok (false, rest) => .ok (done.reverse, rest)
    | .ok (true, rest) =>
      match item rest with
      | .error f => .error (f.under (.index done.length))
      | .ok (a, rest) => readItemsAfter item (a :: done) bound rest

/-- Reads the elements of a list, after its opening bracket. -/
def readItems (item : Reader α) : Reader (List α) := fun s => readItemsAfter item [] (0 :: s) s

/-- Brings the text behind the opening quote of the next key, or past the closing bracket. -/
def nextKey (first : Bool) (s : Bytes) : Except Fault (Bool × Bytes) :=
  match skipBlank s with
  | [] => .error (.peek .endInObject [])
  | 0x7D :: rest => .ok (false, rest)
  | b :: rest =>
    if first then
      if b = 0x22 then .ok (true, rest) else .error (.peek .keyNotText (b :: rest))
    else if b = 0x2C then
      match skipBlank rest with
      | [] => .error (.peek .endInValue [])
      | 0x22 :: after => .ok (true, after)
      | 0x7D :: after => .error (.peek .trailingComma (0x7D :: after))
      | after => .error (.peek .keyNotText after)
    else .error (.peek .expectedObjectCommaOrEnd (b :: rest))

/-- Reads the members up to the closing bracket. The reader of a member starts behind its key. -/
def readMembersFrom (member : String → σ → Reader σ) (first : Bool) (state : σ) :
    (bound : Bytes) → Reader σ
  | [], s => .error (.peek .endInObject s)
  | _ :: bound, s =>
    match nextKey first s with
    | .error f => .error f
    | .ok (false, rest) => .ok (state, rest)
    | .ok (true, rest) =>
      match readTextTail rest with
      | .error f => .error f
      | .ok (key, rest) =>
        match member key state rest with
        | .error f => .error f
        | .ok (state, rest) => readMembersFrom member false state bound rest

/-- Reads the members of an object, after its opening bracket. -/
def readMembers (member : String → σ → Reader σ) (state : σ) : Reader σ :=
  fun s => readMembersFrom member true state (0 :: s) s

/-- Reads the value of a member, from the colon on. -/
def readMemberValue (key : String) (read : Reader α) : Reader α := fun s =>
  match readColon s with
  | .error f => .error (f.under (.key key))
  | .ok rest =>
    match read rest with
    | .error f => .error (f.under (.key key))
    | .ok r => .ok r

/-! ## Values -/

/-- Adds a member at the end, where the members are kept latest first. -/
def readMember (value : Reader Value) (key : String) (done : List (String × Value)) :
    Reader (List (String × Value)) := fun s =>
  match readMemberValue key value s with
  | .error f => .error f
  | .ok (v, rest) => .ok ((key, v) :: done, rest)

/-- Reads a value with at most `depth` levels of arrays and objects. -/
def readValue : (depth : Nat) → Reader Value
  | depth, s =>
    match skipBlank s with
    | [] => .error (.peek .endInValue [])
    | b :: rest =>
      if b = 0x6E then (readWord [0x75, 0x6C, 0x6C] rest).map fun r => (.null, r.2)
      else if b = 0x74 then (readWord [0x72, 0x75, 0x65] rest).map fun r => (.boolean true, r.2)
      else if b = 0x66 then
        (readWord [0x61, 0x6C, 0x73, 0x65] rest).map fun r => (.boolean false, r.2)
      else if b = 0x2D then (Number.read true rest).map fun r => (.number r.1, r.2)
      else if isDigit b then (Number.read false (b :: rest)).map fun r => (.number r.1, r.2)
      else if b = 0x22 then (readTextTail rest).map fun r => (.text r.1, r.2)
      else if b = 0x5B then
        match depth with
        | 0 => .error (.peek .tooDeep (b :: rest))
        | depth + 1 => (readItems (readValue depth) rest).map fun r => (.list r.1, r.2)
      else if b = 0x7B then
        match depth with
        | 0 => .error (.peek .tooDeep (b :: rest))
        | depth + 1 =>
          (readMembers (readMember (readValue depth)) [] rest).map fun r =>
            (.object r.1.reverse, r.2)
      else .error (.peek .expectedValue (b :: rest))

/-- The depth to which arrays and objects may nest. -/
def greatestDepth : Nat := 127

end AnalysisGateway.Json
