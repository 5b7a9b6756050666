/-
# VectorClient.Client.Session — what is done with a client

A session is a sequence of steps on one client: its operations, and closing it,
by itself or at the end of a block.  `ScriptedServer` is a server whose answers
are written beforehand, by the name of the call; a call that asks for the
segments of a collection may have answers of its own.
-/
import VectorClient.Client.Perform

namespace VectorClient

set_option autoImplicit false

/-- One step of a session. -/
inductive SessionStep where
  | close
  | enterBlock
  | leaveBlock
  | askState
  | perform (o : Operation) (p : o.Param)

namespace Client

variable {σ τ : Type} [Timeline τ]

/-- Whether the client takes calls. -/
def state (w : World σ τ) : ConnectionState := if w.closed then .closed else .opened

/-- What a step of a session gives. -/
inductive StepResult where
  | done
  | entered
  | state (s : ConnectionState)
  | ending (e : Ending CallFault Payload)

def step (c : Client σ τ) (fuel : Nat) : SessionStep → World σ τ → StepResult × World σ τ
  | .close, w => (.done, c.close w)
  | .enterBlock, w => (.entered, w)
  | .leaveBlock, w => (.done, c.close w)
  | .askState, w => (.state (state w), w)
  | .perform o p, w =>
      let (ending, w) := c.perform fuel o p w
      (.ending ending, w)

/-- The steps of a session one after the other. -/
def session (c : Client σ τ) (fuel : Nat) : List SessionStep → World σ τ →
    List StepResult × World σ τ
  | [], w => ([], w)
  | s :: rest, w =>
      let (r, w) := c.step fuel s w
      let (rs, w) := session c fuel rest w
      (r :: rs, w)

end Client

/-- Answers written beforehand, by the name of the call. -/
structure ScriptedServer (τ : Type) where
  rules : List (String × Script (Turn τ))

namespace ScriptedServer

variable {τ : Type}

/-- The text of a field of a message, the last one written. -/
def textField? (m : Wire.Message) (field : Nat) : Option String :=
  (m.reverse.find? fun r => r.field == field).bind fun r => match r.payload with
    | .run bytes => Text.ofUtf8? bytes
    | .number _ => none

/-- The names under which answers to a call are looked up, the first one first. -/
def names (call : Call) : List String :=
  let plain := call.operation.callName
  match call.operation, textField? call.request 3 with
  | .getPersistentSegmentInfo, some collection => [plain ++ "/" ++ collection, plain]
  | _, _ => [plain]

/-- An answer without content. -/
def silent (call : Call) : Turn τ := ⟨none, false, .response ⟨call.operation.responseTitle, []⟩⟩

def answer (s : ScriptedServer τ) (call : Call) : Turn τ × ScriptedServer τ :=
  match (names call).find? fun name => s.rules.any (·.1 == name) with
  | none => (silent call, s)
  | some name => match s.rules.find? (·.1 == name) with
    | none => (silent call, s)
    | some (_, script) =>
        let (turn, later) := script.take
        (turn, ⟨s.rules.map fun rule => if rule.1 == name then (name, later) else rule⟩)

/-- A scripted server leaves a sleeping client alone. -/
def server : Server (ScriptedServer τ) τ where
  answer := answer
  pause s := (false, s)

end ScriptedServer

end VectorClient
