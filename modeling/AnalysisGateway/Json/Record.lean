import AnalysisGateway.Json.Value

/-!
# Values of fixed shapes

Readers of texts, numbers, optional values, lists, choices and records.

* A record is an object with named fields, in any order, or a list of all its fields in the order
  in which they are declared. In an object, members of other names are passed over, a field must
  not occur twice, and only optional fields may be absent.
* A choice is one of several names, as a text, or as the only key of an object whose value is null.
* The first fault in the order of the text is reported. What is wrong with a record as a whole is
  found where the record ends.
-/

namespace AnalysisGateway.Json

/-! ## Scalars -/

/-- The fault of a value of another kind, at the front of the text. -/
def wrongKind (expected : String) (s : Bytes) : Fault :=
  match s with
  | [] => .peek .expectedValue []
  | b :: rest =>
    let word (w : Bytes) (found : Found) : Fault :=
      match readWord w rest with
      | .error f => f
      | .ok (_, rest) => .here (.wrongKind found expected) rest
    let number (n : Except Fault (Number × Bytes)) : Fault :=
      match n with
      | .error f => f
      | .ok (n, rest) => .here (.wrongKind n.found expected) rest
    if b = 0x6E then word [0x75, 0x6C, 0x6C] .null
    else if b = 0x74 then word [0x72, 0x75, 0x65] (.boolean true)
    else if b = 0x66 then word [0x61, 0x6C, 0x73, 0x65] (.boolean false)
    else if b = 0x2D then number (Number.read true rest)
    else if isDigit b then number (Number.read false (b :: rest))
    else if b = 0x22 then
      match readTextTail rest with
      | .error f => f
      | .ok (t, rest) => .here (.wrongKind (.text t) expected) rest
    else if b = 0x5B then .here (.wrongKind .sequence expected) (b :: rest)
    else if b = 0x7B then .here (.wrongKind .map expected) (b :: rest)
    else .peek .expectedValue (b :: rest)

/-- Reads a text. -/
def readText : Reader String := fun s =>
  match skipBlank s with
  | [] => .error (.peek .endInValue [])
  | 0x22 :: rest => readTextTail rest
  | rest => .error (wrongKind "a string" rest)

/-- Reads a number and turns it into a value of the kind expected. -/
def readNumber (expected : String) (accept : Number → Except Cause α) : Reader α := fun s =>
  let finish (n : Except Fault (Number × Bytes)) : Except Fault (α × Bytes) :=
    match n with
    | .error f => .error f
    | .ok (n, rest) =>
      match accept n with
      | .ok a => .ok (a, rest)
      | .error cause => .error (.here cause rest)
  match skipBlank s with
  | [] => .error (.peek .endInValue [])
  | b :: rest =>
    if b = 0x2D then finish (Number.read true rest)
    else if isDigit b then finish (Number.read false (b :: rest))
    else .error (wrongKind expected (b :: rest))

/-- Reads a natural number below `2 ^ width`; `kind` names the kind in a fault. -/
def readNatural (width : Nat) (kind : String) : Reader Nat :=
  readNumber kind fun
    | .natural n => if n < Nat.pow 2 width then .ok n else .error (.wrongValue (.natural n) kind)
    | .negative n => .error (.wrongValue (.negative n) kind)
    | .real bits => .error (.wrongKind (.real bits) kind)

/-- Reads a number as the nearest single, as its pattern. -/
def readSingle : Reader Nat :=
  readNumber "f32" fun
    | .natural n => .ok (Binary.single.ofNat n)
    | .negative n => .ok (Binary.single.withSign true (Binary.single.ofNat n))
    | .real bits => .ok (Binary.single.convert Binary.double bits)

/-- Reads null, as nothing. -/
def readNull : Reader Unit := fun s =>
  match skipBlank s with
  | [] => .error (.peek .endInValue [])
  | 0x6E :: rest => readWord [0x75, 0x6C, 0x6C] rest
  | rest => .error (wrongKind "unit" rest)

/-- Reads null, as none, or a value. -/
def readOptional (read : Reader α) : Reader (Option α) := fun s =>
  match skipBlank s with
  | 0x6E :: rest => (readWord [0x75, 0x6C, 0x6C] rest).map fun r => (none, r.2)
  | rest => (read rest).map fun r => (some r.1, r.2)

/-- Reads a list. -/
def readList (item : Reader α) : Reader (List α) := fun s =>
  match skipBlank s with
  | [] => .error (.peek .endInValue [])
  | 0x5B :: rest => readItems item rest
  | rest => .error (wrongKind "a sequence" rest)

/-! ## Choices -/

/-- Reads the name of a choice after its opening quote. -/
def readVariant (choices : List (String × α)) : Reader α := fun s =>
  match readTextTail s with
  | .error f => .error f
  | .ok (name, rest) =>
    match choices.find? (·.1 == name) with
    | some (_, a) => .ok (a, rest)
    | none => .error (.here (.unknownVariant name (choices.map (·.1))) rest)

/-- Reads the name of a choice as the first key of an object. -/
def readVariantKey (choices : List (String × α)) : Reader α := fun s =>
  match skipBlank s with
  | [] => .error (.peek .endInObject [])
  | 0x22 :: rest => readVariant choices rest
  | rest => .error (.peek .keyNotText rest)

/-- Reads a choice. -/
def readChoice (choices : List (String × α)) : Reader α := fun s =>
  match skipBlank s with
  | [] => .error (.peek .endInValue [])
  | 0x22 :: rest => readVariant choices rest
  | 0x7B :: rest => do
    let (a, rest) ← readVariantKey choices rest
    let rest ← readColon rest
    let (_, rest) ← readNull rest
    match skipBlank rest with
    | 0x7D :: rest => .ok (a, rest)
    | [] => .error (.here .endInObject [])
    | rest => .error (.here .expectedValue rest)
  | rest => .error (.peek .expectedValue rest)

/-! ## Records -/

/-- A field of a record under construction, a value of `σ`. -/
structure Field (σ : Type) where
  name : String
  /-- Whether the field has been read. -/
  filled : σ → Bool
  /-- Reads the field into the record. -/
  read : Reader (σ → σ)

/-- The field `name` whose reader gives what `set` stores and `get` finds. -/
def field (name : String) (read : Reader β) (get : σ → Option β) (set : β → σ → σ) : Field σ where
  name := name
  filled s := (get s).isSome
  read s := (read s).map fun r => (set r.1, r.2)

/-- A shape of records. -/
structure Record (σ α : Type) where
  /-- What a fault calls it. -/
  name : String
  fields : List (Field σ)
  /-- A record of which nothing has been read. -/
  blank : σ
  /-- The complete record, or the name of the first field that is missing. -/
  finish : σ → Except String α

/-- The value of a field that must be there. -/
def required (name : String) : Option β → Except String β
  | some b => .ok b
  | none => .error name

namespace Record

variable {σ α : Type} (r : Record σ α)

/-- The member `key` of a record. -/
def member (key : String) (state : σ) : Reader σ := fun s =>
  match r.fields.find? (·.name == key) with
  | none => (readMemberValue key skipValue s).map fun r => (state, r.2)
  | some f =>
    if f.filled state then
      -- the record is closed if it can be, and then the fault is placed
      let after := match skipBlank s with
        | 0x7D :: rest => rest
        | rest => rest
      .error (.here (.duplicateField key) after)
    else (readMemberValue key f.read s).map fun r => (r.1 state, r.2)

/-- The fields in their order, as elements of a list; `index` is the place of the next one. -/
def elements (expected : String) : List (Field σ) → (index : Nat) → σ → Reader σ
  | [], _, state, s => .ok (state, s)
  | f :: more, index, state, s =>
    match nextItem (index == 0) s with
    | .error e => .error e
    | .ok (false, rest) => .error (.here (.wrongLength index expected) rest)
    | .ok (true, rest) =>
      match f.read rest with
      | .error e => .error (e.under (.index index))
      | .ok (set, rest) => elements expected more (index + 1) (set state) rest

/-- What a fault says of a list that is too short. -/
def describeLength : String :=
  let n := r.fields.length
  r.name ++ " with " ++ toString n ++ (if n = 1 then " element" else " elements")

/-- The end of a record that was written as a list. -/
def closeList (s : Bytes) : Except Fault Bytes :=
  match skipBlank s with
  | 0x5D :: rest => .ok rest
  | 0x2C :: rest =>
    match skipBlank rest with
    | 0x5D :: after => .error (.peek .trailingComma (0x5D :: after))
    | after => .error (.peek .trailingCharacters after)
  | [] => .error (.peek .endInList [])
  | rest => .error (.peek .trailingCharacters rest)

/-- The complete record, or the fault of a missing field just before `rest`. -/
def complete (state : σ) (rest : Bytes) : Except Fault (α × Bytes) :=
  match r.finish state with
  | .ok a => .ok (a, rest)
  | .error name => .error (.here (.missingField name) rest)

/-- Reads a record. -/
def read : Reader α := fun s =>
  match skipBlank s with
  | [] => .error (.peek .endInValue [])
  | 0x7B :: rest =>
    match readMembers r.member r.blank rest with
    | .error f => .error f
    | .ok (state, rest) => r.complete state rest
  | 0x5B :: rest =>
    match elements r.describeLength r.fields 0 r.blank rest with
    | .error f => .error f
    | .ok (state, rest) =>
      match closeList rest with
      | .error f => .error f
      | .ok rest => r.complete state rest
  | rest => .error (wrongKind r.name rest)

end Record

end AnalysisGateway.Json
