/-
# VectorClient.Wait.Poll — waiting for a number to reach a hundred

A wait by itself, without a client: its probes are written beforehand, each
taking some time, the last one repeated.  The payload is complete from one
hundred on; below a given limit it has failed, for the given reason.
-/
import VectorClient.Failure
import VectorClient.Result.RpcError
import VectorClient.Wait.Basic
import VectorClient.Wait.Script

namespace VectorClient

set_option autoImplicit false

namespace Poll

/-- Why a poll ends with an error. -/
inductive Fault where
  | failure (f : Failure)
  | raised (r : Raised)
  | rpc (e : RpcError)
  deriving Repr

/-- One probe: the time it takes and how it ends. -/
structure Probe where
  elapsed : Option Number
  outcome : Except Fault (Envelope Value)

/-- The payload from which on the poll is complete. -/
def full : Number := .int 100

/-- The payload below which the poll has failed, and why. -/
structure Floor where
  limit : Value
  reason : Option String

/-- Compares two numbers; values that are none cannot be compared. -/
def compare (symbol : String) (test : Number → Number → Bool) (a b : Value) :
    Except Fault Bool :=
  match a.asNumber?, b.asNumber? with
  | some m, some n => .ok (test m n)
  | _, _ => .error (.failure (.notOrdered symbol a b))

/-- The reason to fail that a floor gives. -/
def Floor.reason? (floor : Floor) (a : Value) : Except Fault (Option String) :=
  (compare "<" Number.lt a floor.limit).map fun below => if below then floor.reason else none

def judge (floor? : Option Floor) (a : Value) : Judgement Fault :=
  match floor?.elim (.ok none) (·.reason? a) with
  | .error fault => .broken fault
  | .ok (some reason) => .failed reason
  | .ok none => match compare ">=" (fun m n => n.le m) a (.number full) with
    | .error fault => .broken fault
    | .ok true => .complete
    | .ok false => .pending

/-- The world of a poll: the server is the script of the probes. -/
abbrev PollWorld := World (Script Probe) Number

/-- Takes the next probe. -/
def probe (world : PollWorld) : Except Fault (Envelope Value) × PollWorld :=
  let (p, later) := world.server.take
  let world := { world.record .probed with server := later }
  (p.outcome, p.elapsed.elim world fun time => world.advance time)

/-- The error code of a reported failure, unless another is given: an unexpected error. -/
def defaultFailureCode : Int := 1

def defaultDescription : String := "test operation"

def run (fuel : Nat) (w : Wait Number Fault Value) (probes : Script Probe) :
    Ending Fault Value × PollWorld :=
  let world : PollWorld := .initial probes
  w.run World.sleep probe world.clock fuel 1 world

end Poll

end VectorClient
