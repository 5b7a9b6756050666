/-
# VectorClient.Wait.World — the world that a client sees

The state in which operations run: a clock, whether the client is closed and
how often its channel was, the server's own state, and everything that happened
so far, the newest first.  Nothing that happened is ever taken back: every
operation on the world extends `trace` in front.
-/
import VectorClient.Wait.Log
import VectorClient.Wire.Record

namespace VectorClient

set_option autoImplicit false

/-- One remote call. -/
structure Call where
  operation : Operation
  request : Wire.Message
  deriving DecidableEq, Repr

/-- Something that happened. -/
inductive Happening (τ : Type) where
  | called (call : Call) (deadline : Option Number.Double)
  | probed
  | slept (duration : τ)
  | logged (record : LogRecord τ)
  deriving DecidableEq, Repr

/-- The world of a client, with a server in a state of type `σ`. -/
structure World (σ τ : Type) where
  server : σ
  clock : τ
  closed : Bool
  /-- How often the channel was closed. -/
  closings : Nat
  /-- What happened, the newest first. -/
  trace : List (Happening τ)
  deriving Repr

namespace World

variable {σ τ : Type}

/-- A new client, before anything happened. -/
def initial [Timeline τ] (server : σ) : World σ τ := ⟨server, Timeline.zero, false, 0, []⟩

def record (h : Happening τ) (w : World σ τ) : World σ τ := { w with trace := h :: w.trace }

def log (r : LogRecord τ) (w : World σ τ) : World σ τ := w.record (.logged r)

/-- Moves the clock. -/
def advance [Timeline τ] (duration : τ) (w : World σ τ) : World σ τ :=
  { w with clock := Timeline.add w.clock duration }

/-- Sleeps: the clock moves by the duration. -/
def sleep [Timeline τ] (duration : τ) (w : World σ τ) : World σ τ :=
  (w.record (.slept duration)).advance duration

/-! ## What the operations on a world leave as it was -/

@[simp]
theorem trace_record (h : Happening τ) (w : World σ τ) : (w.record h).trace = h :: w.trace := rfl

@[simp]
theorem trace_log (r : LogRecord τ) (w : World σ τ) : (w.log r).trace = .logged r :: w.trace := rfl

@[simp]
theorem closed_log (r : LogRecord τ) (w : World σ τ) : (w.log r).closed = w.closed := rfl

@[simp]
theorem server_log (r : LogRecord τ) (w : World σ τ) : (w.log r).server = w.server := rfl

@[simp]
theorem trace_advance [Timeline τ] (d : τ) (w : World σ τ) : (w.advance d).trace = w.trace := rfl

@[simp]
theorem closed_advance [Timeline τ] (d : τ) (w : World σ τ) : (w.advance d).closed = w.closed := rfl

@[simp]
theorem trace_sleep [Timeline τ] (d : τ) (w : World σ τ) :
    (w.sleep d).trace = .slept d :: w.trace := rfl

@[simp]
theorem closed_sleep [Timeline τ] (d : τ) (w : World σ τ) : (w.sleep d).closed = w.closed := rfl

/-- The log in order. -/
def logs (w : World σ τ) : List (LogRecord τ) :=
  w.trace.reverse.filterMap fun
    | .logged r => some r
    | _ => none

/-- What happened, without the log, in order, after the oldest `mark` happenings. -/
def eventsSince (mark : Nat) (w : World σ τ) : List (Happening τ) :=
  (w.trace.take (w.trace.length - mark)).reverse.filter fun
    | .logged _ => false
    | _ => true

end World

end VectorClient
