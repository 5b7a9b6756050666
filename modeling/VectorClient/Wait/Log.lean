/-
# VectorClient.Wait.Log — what is written to the log

Every record is a cause; its level and its wording are functions of it.
-/
import VectorClient.Operation
import VectorClient.Wait.Timeline

namespace VectorClient

set_option autoImplicit false

inductive LogLevel where
  | debug | info | warning
  deriving DecidableEq, Repr

def LogLevel.word : LogLevel → String
  | .debug => "DEBUG"
  | .info => "INFO"
  | .warning => "WARNING"

inductive LogRecord (τ : Type) where
  | connected (target : String)
  | unreachable (target : String) (timeout : Number.Double)
  | closed (target : String)
  /-- A call was not made because the client is closed. -/
  | skipping (label : String)
  | calling (operation : Operation) (label : String)
  /-- A call failed on the way. -/
  | failed (label message : String)
  /-- The server answered with an error code. -/
  | rejected (label reason : String) (code : Int)
  /-- A wait ended with its probe. -/
  | stopped (description : String) (status : ResultStatus) (message : String)
  /-- A wait ended for a reason that its probe reported. -/
  | gaveUp (description reason : String)
  | completed (description : String) (rounds : Nat)
  | timedOut (description : String) (elapsed : τ)
  | waiting (description : String) (round : Nat)
  deriving DecidableEq, Repr

namespace LogRecord

variable {τ : Type}

def level : LogRecord τ → LogLevel
  | .connected _ | .closed _ => .info
  | .unreachable _ _ | .failed _ _ | .stopped _ _ _ | .gaveUp _ _ | .timedOut _ _ => .warning
  | .skipping _ | .calling _ _ | .rejected _ _ _ | .completed _ _ | .waiting _ _ => .debug

def message [Timeline τ] : LogRecord τ → String
  | .connected target => "Connected to Milvus at " ++ target
  | .unreachable target timeout =>
      "Milvus at " ++ target ++ " not reachable within " ++ timeout.oneDecimal ++ " seconds"
  | .closed target => "Closed connection to Milvus at " ++ target
  | .skipping label => "Skipping " ++ label ++ ": client is closed"
  | .calling operation label => "Calling " ++ operation.callName ++ " for " ++ label
  | .failed label message => "Failed to " ++ label ++ ": " ++ message
  | .rejected label reason code =>
      "Server rejected " ++ label ++ ": " ++ reason ++ " (error code " ++ toString code ++ ")"
  | .stopped description status message =>
      "Stopped waiting for " ++ description ++ ": probe returned " ++ Vocabulary.word status ++
        " (" ++ message ++ ")"
  | .gaveUp description reason => "Stopped waiting for " ++ description ++ ": " ++ reason
  | .completed description rounds =>
      description ++ " completed after " ++ toString rounds ++ " round(s)"
  | .timedOut description elapsed =>
      "Timed out waiting for " ++ description ++ " after " ++ Timeline.tenths elapsed ++ " seconds"
  | .waiting description round => "Waiting for " ++ description ++ ", round " ++ toString round

end LogRecord

end VectorClient
