import AnalysisGateway.Event
import AnalysisGateway.Instruction

/-!
# Dialogues with a provider

A computation that may ask a provider for completions and report events, before it has a result. A
dialogue says nothing of who the provider is: it can be run against a list of outcomes as well as
against a provider on the network. A run gives the result, the calls and the events in their order,
and what is left of the provider's state.
-/

namespace AnalysisGateway

/-- A request for a completion: the instruction and the user's message. -/
structure Call where
  instruction : Instruction
  user : String
  deriving DecidableEq, Repr

/-- A computation with calls and events. -/
inductive Dialogue (α : Type) where
  | done (result : α)
  | report (event : Event) (next : Dialogue α)
  | ask (call : Call) (next : Except Failure String → Dialogue α)

/-- What became of a call. -/
inductive Completion where
  | text (t : String)
  | failed (f : Failure)
  /-- The provider's client broke off. -/
  | crashed (detail : String)
  deriving DecidableEq, Repr

/-- A provider's answer to a call: the completion, the events on the way, and the state after. -/
structure Answered (σ : Type) where
  completion : Completion
  events : List Event
  state : σ

/-- Someone who answers calls, with a state. -/
abbrev Client (σ : Type) := Call → σ → Answered σ

/-- How a run ended. -/
inductive Ending (α : Type) where
  | finished (result : α)
  | crashed (detail : String)
  deriving DecidableEq, Repr

/-- A run: how it ended, its calls and events, and the client's state after it. -/
structure Transcript (α σ : Type) where
  ending : Ending α
  calls : List Call
  events : List Event
  state : σ

/-- Runs a dialogue against a client. -/
def Dialogue.run (client : Client σ) : Dialogue α → σ → Transcript α σ
  | .done result, state => ⟨.finished result, [], [], state⟩
  | .report event next, state =>
    let t := next.run client state
    ⟨t.ending, t.calls, event :: t.events, t.state⟩
  | .ask call next, state =>
    let a := client call state
    let resume (outcome : Except Failure String) : Transcript α σ :=
      let t := (next outcome).run client a.state
      ⟨t.ending, call :: t.calls, a.events ++ t.events, t.state⟩
    match a.completion with
    | .text t => resume (.ok t)
    | .failed f => resume (.error f)
    | .crashed detail => ⟨.crashed detail, [call], a.events, a.state⟩

/-- A list of outcomes as a client: each call takes the next one, and fails when there is none. -/
def scripted : Client (List (Except Failure String)) := fun _ script =>
  match script with
  | [] => ⟨.failed (.provider "script exhausted"), [], []⟩
  | .ok t :: rest => ⟨.text t, [], rest⟩
  | .error f :: rest => ⟨.failed f, [], rest⟩

/-- Runs dialogues one after another, each from the state that the one before left. -/
def Dialogue.runAll (client : Client σ) : List (Dialogue α) → σ → List (Transcript α σ)
  | [], _ => []
  | d :: more, state =>
    let t := d.run client state
    t :: runAll client more t.state

end AnalysisGateway
