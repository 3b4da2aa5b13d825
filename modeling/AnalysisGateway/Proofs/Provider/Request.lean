import AnalysisGateway.Proofs.Json.Single
import AnalysisGateway.Proofs.Json.Writer
import AnalysisGateway.Provider.Request

/-!
# What a request says

The body of a request is one JSON object. Read again, it has the two messages, the instruction and
the user's text, character for character: as JSON texts they cannot reach into any other part of it.
-/

namespace AnalysisGateway

open Json

/-- A message as a value. -/
def messageValue (role content : String) : Value :=
  .object [("role", .text role), ("content", .text content)]

/-- A request whose body is an object with the two messages of a call, the instruction and the
user's text. -/
def Sent.Asks (sent : Sent) (system user : String) : Prop :=
  ∃ members,
    readWhole (readValue greatestDepth) (Text.toBytes sent.body) = .ok (.object members) ∧
    lookup? members "messages" =
      some (.list [messageValue "system" system, messageValue "user" user])

/-- What is written of a message is a spelling of it. -/
theorem spells_message (depth : Nat) (role content : String) :
    Spells (depth + 1) (messageValue role content)
      (writtenObject [("role", writtenString role), ("content", writtenString content)]) := by
  have hrole := spells_writtenString depth role
  have hcontent := spells_writtenString depth content
  exact .object (elements_writtenMembers (.cons ⟨rfl, hrole⟩ (.cons ⟨rfl, hcontent⟩ .nil)))

namespace ProviderSettings

variable {p : ProviderSettings}

/-- The members of a body, apart from the temperature's value. -/
def requestMembers (p : ProviderSettings) (system user : String) (temperature : Value) :
    List (String × Value) :=
  [("messages", .list [messageValue "system" system, messageValue "user" user]),
    ("model", .text p.model)]
  ++ (match p.maxTokens with
    | some n => [("max_tokens", .number (.natural n))]
    | none => [])
  ++ [("temperature", temperature)]

/-- The body of a request is read as an object with its members. The temperature's value does not
depend on the texts. -/
theorem exists_reads_requestBody (hmax : ∀ n, p.maxTokens = some n → n < 2 ^ 64) :
    ∃ temperature : Value, temperature.IsNumberOrNull ∧ ∀ system user,
      Reads (readValue greatestDepth) (.object (p.requestMembers system user temperature))
        (Text.encode (p.requestBody system user)) := by
  obtain ⟨temperature, hkind, htemperature⟩ := exists_reads_writtenSingle p.temperature
  refine ⟨temperature, hkind, fun system user => reads_object id (elements_writtenMembers ?_)⟩
  have hmessages : Reads (readValue 126) (.list [messageValue "system" system,
      messageValue "user" user]) _ :=
    reads_of_spells (.list (elements_separated
      (.cons (spells_message 124 "system" system) (.cons (spells_message 124 "user" user) .nil))))
  have hmodel : Reads (readValue 126) (.text p.model) (Text.encode (writtenString p.model)) :=
    reads_of_spells (spells_writtenString 126 p.model)
  rw [requestMembers]
  cases hcount : p.maxTokens with
  | none => exact .cons ⟨rfl, hmessages⟩ (.cons ⟨rfl, hmodel⟩ (.cons ⟨rfl, htemperature 126⟩ .nil))
  | some n =>
      have hnumber : Reads (readValue 126) (.number (.natural n)) _ :=
        reads_of_spells (spells_writtenNatural 126 (hmax n hcount))
      exact .cons ⟨rfl, hmessages⟩ (.cons ⟨rfl, hmodel⟩ (.cons ⟨rfl, hnumber⟩
        (.cons ⟨rfl, htemperature 126⟩ .nil)))

/-- So the body that is sent is an object with these members. -/
theorem exists_readWhole_request (hmax : ∀ n, p.maxTokens = some n → n < 2 ^ 64) :
    ∃ temperature : Value, temperature.IsNumberOrNull ∧ ∀ key url system user,
      readWhole (readValue greatestDepth) (Text.toBytes (p.request key url system user).body) =
        .ok (.object (p.requestMembers system user temperature)) := by
  obtain ⟨temperature, hkind, hreads⟩ := exists_reads_requestBody hmax
  refine ⟨temperature, hkind, fun key url system user => ?_⟩
  have hbytes : Text.toBytes (p.request key url system user).body =
      Text.encode (p.requestBody system user) := by
    rw [Text.toBytes, request, String.toList_ofList]
  rw [hbytes]
  simpa using (hreads system user).readWhole_eq blankBytes_nil blankBytes_nil

theorem lookup?_requestMembers (system user : String) (temperature : Value) :
    lookup? (p.requestMembers system user temperature) "messages" =
      some (.list [messageValue "system" system, messageValue "user" user]) := by
  rw [requestMembers]
  cases p.maxTokens <;> simp [lookup?]

/-- **A request asks what it is meant to ask**, whatever the model and the temperature. -/
theorem asks_request (hmax : ∀ n, p.maxTokens = some n → n < 2 ^ 64) (key : String) (url : Url)
    (system user : String) : (p.request key url system user).Asks system user := by
  obtain ⟨temperature, -, hreads⟩ := exists_readWhole_request hmax
  exact ⟨p.requestMembers system user temperature, hreads key url system user,
    lookup?_requestMembers system user temperature⟩

end ProviderSettings

end AnalysisGateway
