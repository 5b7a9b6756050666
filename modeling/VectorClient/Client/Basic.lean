/-
# VectorClient.Client.Basic — a client and its calls

A client has a connection and a server.  Every call goes through
`Client.invoke`, which classifies its outcome: a closed client makes no call; a
failed call is a transport error, unless the client was closed meanwhile; a
response is a server error or a success, by the code of its status alone.

The server is given by its states and its reactions (`Server`): to a call it
answers after some time, and it may close the client before it does; while the
client sleeps it may close it as well.
-/
import VectorClient.Client.Label
import VectorClient.Client.Response
import VectorClient.Result.RpcError
import VectorClient.Wait.Basic
import VectorClient.Wait.Script

namespace VectorClient

set_option autoImplicit false

/-- How a call comes back. -/
inductive Outcome where
  | response (r : Response)
  | failed (e : RpcError)
  | raised (r : Raised)
  deriving Repr

/-- The server's reaction to one call. -/
structure Turn (τ : Type) where
  /-- The time that passes during the call. -/
  elapsed : Option τ
  /-- The client is closed while the call is under way. -/
  closes : Bool
  outcome : Outcome
  deriving Repr

/-- A server, by its states and its reactions. -/
structure Server (σ τ : Type) where
  answer : σ → Call → Turn τ × σ
  /-- What happens while the client sleeps: whether it is closed. -/
  pause : σ → Bool × σ

/-- A client: its connection, and the server at the other end. -/
structure Client (σ τ : Type) where
  connection : Connection
  server : Server σ τ

namespace Client

variable {σ τ α : Type}

/-- Closes the channel, the first time. -/
def close (c : Client σ τ) (w : World σ τ) : World σ τ :=
  if w.closed then w
  else { w with closed := true, closings := w.closings + 1 }.log (.closed c.connection.target)

@[simp]
theorem closed_close (c : Client σ τ) (w : World σ τ) : (c.close w).closed = true := by
  unfold close
  split
  · assumption
  · rfl

/-- Closing once more changes nothing. -/
theorem close_of_closed (c : Client σ τ) {w : World σ τ} (h : w.closed = true) : c.close w = w := by
  simp [close, h]

def closeIf (c : Client σ τ) (closes : Bool) (w : World σ τ) : World σ τ :=
  if closes then c.close w else w

variable [Timeline τ]

/-- Hands a call to the server and lets its time pass. -/
def exchange (c : Client σ τ) (call : Call) (w : World σ τ) : Outcome × World σ τ :=
  let w := w.record (.called call c.connection.timeout)
  let (turn, server) := c.server.answer w.server call
  let w := { w with server }
  let w := turn.elapsed.elim w fun time => w.advance time
  (turn.outcome, c.closeIf turn.closes w)

/-- The envelope of a response, by the code of its status. -/
def classify (label : String) (payload : Response → α) (r : Response) (w : World σ τ) :
    Envelope α × World σ τ :=
  if r.status.code = 0 then (.success (payload r), w)
  else (.serverError r.status.code r.status.reason,
    w.log (.rejected label r.status.reason r.status.code))

/-- Makes one call and classifies its outcome.  What is raised leaves the client,
except that a closed client explains a refusal. -/
def invoke (c : Client σ τ) (label : String) (call : Call) (payload : Response → α)
    (w : World σ τ) : Except Raised (Envelope α) × World σ τ :=
  if w.closed then (.ok .clientNotConnected, w.log (.skipping label))
  else
    match c.exchange call (w.log (.calling call.operation label)) with
    | (.response r, w) =>
        let (e, w) := classify label payload r w
        (.ok e, w)
    | (.failed error, w) =>
        if w.closed then (.ok .clientNotConnected, w)
        else
          let message := error.describe.display
          (.ok (.transportError ("Failed to " ++ label ++ ": " ++ message)),
            w.log (.failed label message))
    | (.raised (.refusal message), w) =>
        if w.closed then (.ok .clientNotConnected, w) else (.error (.refusal message), w)
    | (.raised r, w) => (.error r, w)

/-- Sleeps, and is perhaps closed meanwhile. -/
def pause (c : Client σ τ) (duration : τ) (w : World σ τ) : World σ τ :=
  let w := w.sleep duration
  let (closes, server) := c.server.pause w.server
  c.closeIf closes { w with server }

end Client

end VectorClient
