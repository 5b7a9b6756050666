/-
# VectorClient.Proofs.Client.Ledger — what the trace says of closing

The trace alone tells whether the client is closed, how often its channel was,
and what the server's state is: a server is a function of its state and what it
is asked, so the calls and sleeps on a trace replay it (`Server.after`), and
with it every reaction that closed the client (`Server.closesIn`).

`Ledger` ties a world to its trace in this way, together with the one fact about
order: nothing was called after the closing.  Every move keeps the ledger
(`Ledger.of_move`), and so does every session (`Ledger.of_session`).
-/
import VectorClient.Client.Connect
import VectorClient.Proofs.Client.Moves

namespace VectorClient

set_option autoImplicit false

/-! ## Reading a trace -/

namespace World

variable {τ : Type}

/-- Does a trace hold the closing of the channel? -/
def closedIn : List (Happening τ) → Bool
  | [] => false
  | .logged (.closed _) :: _ => true
  | _ :: older => closedIn older

/-- The calls on a trace, the newest first. -/
def callsIn (trace : List (Happening τ)) : List Call :=
  trace.filterMap fun
    | .called call _ => some call
    | _ => none

/-- Nothing on the trace was called after the closing. -/
def QuietOnceClosed (trace : List (Happening τ)) : Prop :=
  ∀ newer older, trace = newer ++ older → closedIn older = true → callsIn newer = []

@[simp]
theorem closedIn_logged {r : LogRecord τ} (plain : ∀ target, r ≠ .closed target)
    (older : List (Happening τ)) : closedIn (.logged r :: older) = closedIn older := by
  cases r <;> first | rfl | exact absurd rfl (plain _)

theorem closedIn_append (newer older : List (Happening τ)) :
    closedIn (newer ++ older) = (closedIn newer || closedIn older) := by
  induction newer with
  | nil => rfl
  | cons h newer ih =>
      cases h with
      | logged r => cases r <;> simp [closedIn, ih]
      | called | probed | slept => simpa [closedIn] using ih

theorem callsIn_append (newer older : List (Happening τ)) :
    callsIn (newer ++ older) = callsIn newer ++ callsIn older :=
  List.filterMap_append

theorem quietOnceClosed_nil : QuietOnceClosed ([] : List (Happening τ)) := by
  intro newer older split _
  obtain ⟨rfl, rfl⟩ := List.append_eq_nil_iff.mp split.symm
  rfl

/-- A happening that is no call keeps a trace quiet; a call does so before the closing. -/
theorem QuietOnceClosed.cons {trace : List (Happening τ)} (quiet : QuietOnceClosed trace)
    {h : Happening τ} (allowed : closedIn trace = true → callsIn [h] = []) :
    QuietOnceClosed (h :: trace) := by
  intro newer older split closed
  cases newer with
  | nil => rfl
  | cons h' newer =>
      obtain ⟨rfl, rfl⟩ := List.cons.inj split
      have here : closedIn (newer ++ older) = true := by
        rw [closedIn_append, closed, Bool.or_true]
      have before := quiet newer older rfl closed
      rw [show h :: newer = [h] ++ newer from rfl, callsIn_append, allowed here, before]
      rfl

end World

/-! ## Replaying a server -/

namespace Server

variable {σ τ : Type}

/-- The state of a server after a trace, from the state before it. -/
def after (s : Server σ τ) (start : σ) : List (Happening τ) → σ
  | [] => start
  | .called call _ :: older => (s.answer (s.after start older) call).2
  | .slept _ :: older => (s.pause (s.after start older)).2
  | _ :: older => s.after start older

/-- Did the server close its client at a call or a sleep on the trace? -/
def closesIn (s : Server σ τ) (start : σ) : List (Happening τ) → Bool
  | [] => false
  | .called call _ :: older =>
      (s.answer (s.after start older) call).1.closes || s.closesIn start older
  | .slept _ :: older => (s.pause (s.after start older)).1 || s.closesIn start older
  | _ :: older => s.closesIn start older

end Server

/-- Does a step close the client by itself? -/
def SessionStep.closes : SessionStep → Bool
  | .close | .leaveBlock => true
  | _ => false

/-! ## The ledger -/

namespace Client

variable {σ τ : Type}

open World

/-- What the trace of a world says of it.  `asked` is whether the client was closed
by its user. -/
structure Ledger (c : Client σ τ) (start : σ) (asked : Bool) (w : World σ τ) : Prop where
  closed_eq : w.closed = closedIn w.trace
  closings_eq : w.closings = w.closed.toNat
  server_eq : w.server = c.server.after start w.trace
  cause : w.closed = (asked || c.server.closesIn start w.trace)
  quiet : QuietOnceClosed w.trace

variable {c : Client σ τ} {start : σ} {asked : Bool} {w : World σ τ}

namespace Ledger

theorem log (ledger : Ledger c start asked w) {r : LogRecord τ}
    (plain : ∀ target, r ≠ .closed target) : Ledger c start asked (w.log r) where
  closed_eq := by rw [trace_log, closedIn_logged plain]; exact ledger.closed_eq
  closings_eq := ledger.closings_eq
  server_eq := ledger.server_eq
  cause := ledger.cause
  quiet := ledger.quiet.cons fun _ => rfl

/-- A world that agrees with its trace but for a closing that is due: closing the
client then makes it agree. -/
theorem closeIf {closes : Bool} (closed_eq : w.closed = closedIn w.trace)
    (closings_eq : w.closings = w.closed.toNat)
    (server_eq : w.server = c.server.after start w.trace)
    (cause : (w.closed || closes) = (asked || c.server.closesIn start w.trace))
    (quiet : QuietOnceClosed w.trace) : Ledger c start asked (c.closeIf closes w) where
  closed_eq := by
    rw [closed_closeIf, trace_closeIf]
    cases closes <;> cases open? : w.closed <;> simp [closedIn, ← closed_eq, open?]
  closings_eq := by
    rw [closings_closeIf, closed_closeIf, closings_eq]
    cases closes <;> cases w.closed <;> rfl
  server_eq := by
    rw [server_closeIf, trace_closeIf, server_eq]
    split <;> rfl
  cause := by
    rw [closed_closeIf, trace_closeIf, cause]
    split <;> rfl
  quiet := by
    rw [trace_closeIf]
    split
    · exact quiet.cons fun _ => rfl
    · exact quiet

/-- Every move keeps the ledger. -/
theorem of_move [Timeline τ] {u v : World σ τ} (move : c.Move u v) (ledger : Ledger c start asked u) :
    Ledger c start asked v := by
  cases move with
  | log r plain => exact ledger.log plain
  | exchange call opened =>
      have notYet : closedIn u.trace = false := ledger.closed_eq ▸ opened
      have cause := ledger.cause
      rw [exchange_eq]
      refine closeIf ?_ ?_ ?_ ?_ ?_
      · simpa [closedIn] using ledger.closed_eq
      · simpa using ledger.closings_eq
      · simp [Server.after, ← ledger.server_eq]
      · simp only [closed_underWay, trace_underWay, Server.closesIn, ← ledger.server_eq, cause]
        simp only [Bool.or_assoc, Bool.or_comm]
      · rw [trace_underWay]
        exact ledger.quiet.cons fun closed => by simp [notYet] at closed
  | pause duration =>
      have cause := ledger.cause
      rw [pause_eq]
      refine closeIf ?_ ?_ ?_ ?_ ?_
      · simpa [closedIn] using ledger.closed_eq
      · simpa using ledger.closings_eq
      · simp [Server.after, ← ledger.server_eq]
      · simp only [closed_asleep, trace_asleep, Server.closesIn, ← ledger.server_eq, cause]
        simp only [Bool.or_assoc, Bool.or_comm]
      · rw [trace_asleep]
        exact ledger.quiet.cons fun _ => rfl

/-- Closing the client by hand is written into the ledger. -/
theorem close (ledger : Ledger c start asked w) : Ledger c start true (c.close w) := by
  have closed : c.close w = c.closeIf true w := rfl
  rw [closed]
  exact closeIf ledger.closed_eq ledger.closings_eq ledger.server_eq (by simp) ledger.quiet

/-- Every step of a session keeps the ledger. -/
theorem of_step [Timeline τ] (ledger : Ledger c start asked w) (fuel : Nat) (s : SessionStep) :
    Ledger c start (asked || s.closes) (c.step fuel s w).2 := by
  cases s with
  | close | leaveBlock => simpa [SessionStep.closes, step] using ledger.close
  | enterBlock | askState => simpa [SessionStep.closes, step] using ledger
  | perform o p =>
      have performed := (c.perform_moves fuel o p w).preserves of_move ledger
      simpa [SessionStep.closes, step] using performed

/-- Every session keeps the ledger. -/
theorem of_session [Timeline τ] (fuel : Nat) :
    ∀ (steps : List SessionStep) {asked : Bool} {w : World σ τ}, Ledger c start asked w →
      Ledger c start (asked || steps.any SessionStep.closes) (c.session fuel steps w).2
  | [], asked, w, ledger => by simpa [session] using ledger
  | s :: rest, asked, w, ledger => by
      have later := of_session fuel rest (ledger.of_step fuel s)
      rwa [Bool.or_assoc, ← List.any_cons] at later

/-- The ledger of a client that was just made. -/
theorem of_connect [Timeline τ] {t : Transport} {w : World σ τ}
    (connected : (c.connection.connect t start).2 = .ok w) : Ledger c start false w := by
  have fresh : Ledger c start false (World.initial start : World σ τ) :=
    ⟨rfl, rfl, rfl, rfl, quietOnceClosed_nil⟩
  unfold Connection.connect at connected
  split at connected
  · cases connected
  · dsimp only at connected
    split at connected <;> cases connected <;> exact fresh.log (by simp)

end Ledger

end Client

end VectorClient
