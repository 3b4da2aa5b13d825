import AnalysisGateway.Json.Record
import AnalysisGateway.Json.Writer

/-!
# Completions

What a provider answers: a completion, of which only the texts of the choices are kept, or an error
with a message. Every field of the two shapes is checked, whether it is kept or not; names, order
and kinds of the fields decide how a body that does not fit is described.
-/

namespace AnalysisGateway

/-- A completion: the text of each choice, if it has one. -/
structure Completed where
  choices : List (Option String)
  deriving DecidableEq, Repr

/-- An error that a provider reports. -/
structure ProviderError where
  message : String
  kind : Option String
  code : Option String
  deriving DecidableEq, Repr

namespace Completed

/-! ## Shapes of which little is kept -/

/-- A record of which the fields named in `seen` have been read. -/
structure Partial (α : Type) where
  seen : List String
  kept : α

/-- A field that is checked and not kept. -/
def checked {α β : Type} (name : String) (read : Json.Reader β) : Json.Field (Partial α) where
  name := name
  filled p := p.seen.contains name
  read s := (read s).map fun r => (fun p => { p with seen := name :: p.seen }, r.2)

/-- A field that is kept. -/
def stored {α β : Type} (name : String) (read : Json.Reader β) (keep : β → α → α) :
    Json.Field (Partial α) where
  name := name
  filled p := p.seen.contains name
  read s := (read s).map fun r => (fun p => ⟨name :: p.seen, keep r.1 p.kept⟩, r.2)

/-- A shape in which `needed` fields must occur. -/
def shapeOf {α : Type} (name : String) (start : α) (needed : List String)
    (fields : List (Json.Field (Partial α))) : Json.Record (Partial α) α where
  name := name
  fields := fields
  blank := ⟨[], start⟩
  finish p := match needed.find? (!p.seen.contains ·) with
    | some field => .error field
    | none => .ok p.kept

/-- A natural number of 32 bits. -/
def readCount : Json.Reader Nat := Json.readNatural 32 "u32"

/-- A text or nothing. -/
def readTextOrNull : Json.Reader (Option String) := Json.readOptional Json.readText

/-- A count or nothing. -/
def readCountOrNull : Json.Reader (Option Nat) := Json.readOptional readCount

/-- One of several words, which does not matter. -/
def readWordOf (words : List String) : Json.Reader Unit :=
  Json.readChoice (words.map fun w => (w, ()))

/-! ## The parts of a completion -/

/-- A function and its arguments. -/
def functionShape : Json.Record (Partial Unit) Unit :=
  shapeOf "struct FunctionCall" () ["name", "arguments"]
    [checked "name" Json.readText, checked "arguments" Json.readText]

/-- A call of a tool. -/
def toolShape : Json.Record (Partial Unit) Unit :=
  shapeOf "struct ChatCompletionMessageToolCall" () ["id", "type", "function"]
    [checked "id" Json.readText, checked "type" (readWordOf ["function"]),
     checked "function" functionShape.read]

/-- A spoken answer. -/
def audioShape : Json.Record (Partial Unit) Unit :=
  shapeOf "struct ChatCompletionResponseMessageAudio" () ["id", "expires_at", "data", "transcript"]
    [checked "id" Json.readText, checked "expires_at" readCount, checked "data" Json.readText,
     checked "transcript" Json.readText]

/-- A message; its text is kept. -/
def messageShape : Json.Record (Partial (Option String)) (Option String) :=
  shapeOf "struct ChatCompletionResponseMessage" none ["role"]
    [stored "content" readTextOrNull fun text _ => text,
     checked "refusal" readTextOrNull,
     checked "tool_calls" (Json.readOptional (Json.readList toolShape.read)),
     checked "role" (readWordOf ["system", "user", "assistant", "tool", "function"]),
     checked "function_call" (Json.readOptional functionShape.read),
     checked "audio" (Json.readOptional audioShape.read)]

/-- The bytes of a token. -/
def readTokenBytes : Json.Reader (Option (List Nat)) :=
  Json.readOptional (Json.readList (Json.readNatural 8 "u8"))

/-- A token among the likeliest ones. -/
def likelyShape : Json.Record (Partial Unit) Unit :=
  shapeOf "struct TopLogprobs" () ["token", "logprob"]
    [checked "token" Json.readText, checked "logprob" Json.readSingle,
     checked "bytes" readTokenBytes]

/-- A token with its likelihood. -/
def tokenShape : Json.Record (Partial Unit) Unit :=
  shapeOf "struct ChatCompletionTokenLogprob" () ["token", "logprob", "top_logprobs"]
    [checked "token" Json.readText, checked "logprob" Json.readSingle,
     checked "bytes" readTokenBytes, checked "top_logprobs" (Json.readList likelyShape.read)]

/-- The likelihoods of an answer's tokens. -/
def likelihoodShape : Json.Record (Partial Unit) Unit :=
  shapeOf "struct ChatChoiceLogprobs" () []
    [checked "content" (Json.readOptional (Json.readList tokenShape.read)),
     checked "refusal" (Json.readOptional (Json.readList tokenShape.read))]

/-- A choice; the text of its message is kept. -/
def choiceShape : Json.Record (Partial (Option String)) (Option String) :=
  shapeOf "struct ChatChoice" none ["index", "message"]
    [checked "index" readCount,
     stored "message" messageShape.read fun text _ => text,
     checked "finish_reason" (Json.readOptional
       (readWordOf ["stop", "length", "tool_calls", "content_filter", "function_call"])),
     checked "logprobs" (Json.readOptional likelihoodShape.read)]

/-- How the tokens of the question are made up. -/
def askedShape : Json.Record (Partial Unit) Unit :=
  shapeOf "struct PromptTokensDetails" () []
    [checked "audio_tokens" readCountOrNull, checked "cached_tokens" readCountOrNull]

/-- How the tokens of the answer are made up. -/
def answeredShape : Json.Record (Partial Unit) Unit :=
  shapeOf "struct CompletionTokensDetails" () []
    [checked "accepted_prediction_tokens" readCountOrNull, checked "audio_tokens" readCountOrNull,
     checked "reasoning_tokens" readCountOrNull,
     checked "rejected_prediction_tokens" readCountOrNull]

/-- How many tokens were used. -/
def usageShape : Json.Record (Partial Unit) Unit :=
  shapeOf "struct CompletionUsage" () ["prompt_tokens", "completion_tokens", "total_tokens"]
    [checked "prompt_tokens" readCount, checked "completion_tokens" readCount,
     checked "total_tokens" readCount,
     checked "prompt_tokens_details" (Json.readOptional askedShape.read),
     checked "completion_tokens_details" (Json.readOptional answeredShape.read)]

/-- How a completion is read. -/
def shape : Json.Record (Partial (List (Option String))) (List (Option String)) :=
  shapeOf "struct CreateChatCompletionResponse" [] ["id", "choices", "created", "model", "object"]
    [checked "id" Json.readText,
     stored "choices" (Json.readList choiceShape.read) fun choices _ => choices,
     checked "created" readCount,
     checked "model" Json.readText,
     checked "service_tier" (Json.readOptional (readWordOf ["scale", "default", "flex"])),
     checked "system_fingerprint" readTextOrNull,
     checked "object" Json.readText,
     checked "usage" (Json.readOptional usageShape.read)]

/-- Reads a completion. -/
def read (body : Bytes) : Except Json.Fault Completed :=
  (Json.readWhole shape.read body).map Completed.mk

/-! ## Writing -/

/-- A completion with one choice, as JSON. -/
def written (model : String) (text : Option String) : List Char :=
  let text := match text with
    | some t => Json.writtenString t
    | none => "null".toList
  Json.writtenObject [
    ("id", Json.writtenString "completion"),
    ("object", Json.writtenString "chat.completion"),
    ("created", Json.writtenNatural 1),
    ("model", Json.writtenString model),
    ("choices", Json.writtenList [Json.writtenObject [
      ("index", Json.writtenNatural 0),
      ("message", Json.writtenObject [
        ("role", Json.writtenString "assistant"), ("content", text)]),
      ("finish_reason", Json.writtenString "stop")]])]

end Completed

namespace ProviderError

/-- An error's fields, of which some have been read. -/
structure Draft where
  message : Option String := none
  kind : Option (Option String) := none
  parameter : Option (Option String) := none
  code : Option (Option String) := none

/-- How an error is read. -/
def shape : Json.Record Draft ProviderError where
  name := "struct ApiError"
  fields := [
    Json.field "message" Json.readText (·.message) fun v d => { d with message := some v },
    Json.field "type" Completed.readTextOrNull (·.kind) fun v d => { d with kind := some v },
    Json.field "param" Completed.readTextOrNull (·.parameter)
      fun v d => { d with parameter := some v },
    Json.field "code" Completed.readTextOrNull (·.code) fun v d => { d with code := some v }]
  blank := {}
  finish d := do
    let message ← Json.required "message" d.message
    return { message, kind := d.kind.join, code := d.code.join }

/-- How the object around an error is read. -/
def wrapper : Json.Record (Option ProviderError) ProviderError where
  name := "struct WrappedError"
  fields := [Json.field "error" shape.read id fun v _ => some v]
  blank := none
  finish d := Json.required "error" d

/-- Reads an error. -/
def read (body : Bytes) : Except Json.Fault ProviderError := Json.readWhole wrapper.read body

/-- An error without kind and code. -/
def ofMessage (message : String) : ProviderError := ⟨message, none, none⟩

end ProviderError

end AnalysisGateway
