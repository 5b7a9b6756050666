/-
# VectorClient.Proofs.Client.Closing — a closed client stays closed

What holds of a client whichever way it is used: its operations in any order,
with closings by hand, by a block, and by the server's reactions between them.

* `Client.Reaches` is one world after another by any changes of a session, the
  middle of an operation included; `session_reaches` puts every session there.
* `CutAtClosing` compares an operation with the same operation on a client that
  is never closed meanwhile.
* `session_closing`: closed for good, no call once closed, one closing of the
  channel at most, and every operation after or across the closing not connected
  where it would have called.
-/
import VectorClient.Proofs.Client.Cut

namespace VectorClient

set_option autoImplicit false

namespace Client

variable {σ τ : Type} [Timeline τ]

open World

/-! ## Worlds that a session can reach -/

/-- One change of a session to the world: a move of an operation, or a closing by hand. -/
inductive Change (c : Client σ τ) (w : World σ τ) : World σ τ → Prop
  | move {v : World σ τ} (move : c.Move w v) : Change c w v
  | close : Change c w (c.close w)

/-- Any number of changes, one after the other. -/
abbrev Reaches (c : Client σ τ) : World σ τ → World σ τ → Prop :=
  Relation.ReflTransGen c.Change

theorem Moves.reaches {c : Client σ τ} {u v : World σ τ} (moves : c.Moves u v) : c.Reaches u v :=
  Relation.ReflTransGen.mono (fun _ _ => .move) _ _ moves

variable (c : Client σ τ)

theorem step_reaches (fuel : Nat) (s : SessionStep) (w : World σ τ) :
    c.Reaches w (c.step fuel s w).2 := by
  cases s with
  | close | leaveBlock => exact .single .close
  | enterBlock | askState => exact .refl
  | perform o p => exact (c.perform_moves fuel o p w).reaches

/-- Every session is a number of changes. -/
theorem session_reaches (fuel : Nat) :
    ∀ (steps : List SessionStep) (w : World σ τ), c.Reaches w (c.session fuel steps w).2
  | [], _ => .refl
  | s :: rest, w => (c.step_reaches fuel s w).trans (session_reaches fuel rest _)

variable {c} {start : σ} {asked : Bool} {u v : World σ τ}

/-- Every change keeps some ledger. -/
theorem Ledger.of_reaches (ledger : Ledger c start asked u) (reaches : c.Reaches u v) :
    ∃ asked', Ledger c start asked' v := by
  induction reaches with
  | refl => exact ⟨asked, ledger⟩
  | tail _ change ih =>
      obtain ⟨asked', ledger⟩ := ih
      cases change with
      | move move => exact ⟨asked', ledger.of_move move⟩
      | close => exact ⟨true, ledger.close⟩

omit [Timeline τ] in
theorem calls_closeIf (c : Client σ τ) (closes : Bool) (w : World σ τ) :
    callsIn (c.closeIf closes w).trace = callsIn w.trace := by
  rw [trace_closeIf]
  split <;> rfl

/-- A closed client stays closed and calls nothing any more. -/
theorem closed_of_reaches (reaches : c.Reaches u v) (closed : u.closed = true) :
    v.closed = true ∧ callsIn v.trace = callsIn u.trace := by
  induction reaches with
  | refl => exact ⟨closed, rfl⟩
  | tail _ change ih =>
      obtain ⟨closed, calls⟩ := ih
      cases change with
      | close => exact ⟨closed_close c _, (calls_closeIf c true _).trans calls⟩
      | move move =>
          cases move with
          | log r plain => exact ⟨closed, calls⟩
          | exchange call opened => simp [opened] at closed
          | pause duration =>
              rw [pause_eq, calls_closeIf]
              exact ⟨by simp [closed], calls⟩

/-! ## Operations of a closed client, and operations that a closing cuts short -/

variable (c)

theorem collectionStatistics_of_closed (fuel : Nat) (p : StatisticsQuery)
    (closed : u.closed = true) :
    (c.collectionStatistics fuel p u).1 = .returned .clientNotConnected := by
  have flushed := c.callOnce_of_closed (o := .flush) (p := Flush.waiting p.collection) rfl closed
  have once := c.callOnce_of_closed (o := .getCollectionStatistics) (p := p) rfl closed
  rw [collectionStatistics_eq, flush, flushed, once]
  split <;> rfl

/-- An operation of a closed client is not connected, whatever it would wait for. -/
theorem perform_of_closed (fuel : Nat) {o : Operation} {p : o.Param} {m : Wire.Message}
    (built : o.request p = .ok m) (closed : u.closed = true) :
    (c.perform fuel o p u).1 = .returned .clientNotConnected := by
  have once := c.callOnce_of_closed built closed
  have lost : ∀ (waits : Bool) (v : World σ τ) (next : Envelope Payload → World σ τ → Run σ τ),
      (thenWait waits (.returned .clientNotConnected, v) next).1 =
        .returned .clientNotConnected := fun _ _ _ => rfl
  cases o with
  | loadCollection => simp only [perform, loadCollection, once, lost]
  | loadPartitions => simp only [perform, loadPartitions, once, lost]
  | createIndex => simp only [perform, createIndex, once, lost]
  | flush => simp only [perform, flush, once, lost]
  | getCollectionStatistics => exact c.collectionStatistics_of_closed fuel p closed
  | _ => simp only [perform, once]

/-- An operation beside the same one without a closing. -/
structure CutAtClosing (run free : Run σ τ) : Prop where
  /-- An operation across which the client stays open is not touched. -/
  untouched : run.2.closed = false → run = free
  /-- There are no other calls, and none in another order. -/
  calls : callsIn run.2.trace <:+ callsIn free.2.trace
  /-- Where the operation would have called once more, it is not connected. -/
  stops : callsIn run.2.trace ≠ callsIn free.2.trace → run.1 = .returned .clientNotConnected
  outcome : run.1 = free.1 ∨ run.1 = .returned .clientNotConnected

omit [Timeline τ] in
theorem Follows.cutAtClosing {run free : Run σ τ}
    (follows : Follows (.returned .clientNotConnected) run free) : CutAtClosing run free := by
  cases follows with
  | along r near =>
      refine ⟨?_, near.calls_eq ▸ List.suffix_rfl, fun differ => absurd near.calls_eq differ,
        .inl rfl⟩
      intro opened
      cases near with
      | same => rfl
      | closed closed => simp [closed] at opened
  | cut closed calls =>
      refine ⟨?_, calls, fun _ => rfl, .inr rfl⟩
      intro opened
      simp [closed] at opened

/-! ## Sessions -/

theorem session_append (fuel : Nat) (after : List SessionStep) :
    ∀ (before : List SessionStep) (w : World σ τ),
      c.session fuel (before ++ after) w =
        ((c.session fuel before w).1 ++ (c.session fuel after (c.session fuel before w).2).1,
          (c.session fuel after (c.session fuel before w).2).2)
  | [], _ => rfl
  | s :: rest, w => by
      simp only [List.cons_append, session, session_append fuel after rest]

theorem length_session (fuel : Nat) :
    ∀ (steps : List SessionStep) (w : World σ τ), (c.session fuel steps w).1.length = steps.length
  | [], _ => rfl
  | s :: rest, w => by simp [session, length_session fuel rest]

end Client

/-- The request of an operation among the steps can be built. -/
def SessionStep.Buildable : SessionStep → Prop
  | .perform o p => ∃ m, o.request p = .ok m
  | _ => True

namespace Client

variable {σ τ : Type} [Timeline τ]

open World

/-- **Closing is for good.**  From any world that a session reaches, the middle of an
operation included, a closed client stays closed and calls nothing, and the channel
is closed once or never, as the client is; a session ends closed if one of its own
steps closed the client or the server did.  An operation that finds the client closed is
not connected, and one across which it is closed stops before its next call. -/
theorem session_closing (c : Client σ τ) (t : Transport) (start : σ) (w₀ : World σ τ)
    (connected : (c.connection.connect t start).2 = .ok w₀) (fuel : Nat)
    (steps : List SessionStep) (buildable : ∀ s ∈ steps, s.Buildable) :
    c.Reaches w₀ (c.session fuel steps w₀).2 ∧
    (∀ u, c.Reaches w₀ u → QuietOnceClosed u.trace ∧ u.closed = closedIn u.trace ∧
      u.closings = (if u.closed then 1 else 0) ∧
      ∀ v, c.Reaches u v → u.closed = true →
        v.closed = true ∧ callsIn v.trace = callsIn u.trace) ∧
    (c.session fuel steps w₀).2.closings =
      (if steps.any SessionStep.closes ||
          c.server.closesIn start (c.session fuel steps w₀).2.trace then 1 else 0) ∧
    ∀ before s after, steps = before ++ s :: after →
      let u := (c.session fuel before w₀).2
      (c.session fuel steps w₀).1[before.length]? = some (c.step fuel s u).1 ∧
      ∀ o p, s = .perform o p →
        (u.closed = true → (c.perform fuel o p u).1 = .returned .clientNotConnected) ∧
        (u.closed = false → CutAtClosing (c.perform fuel o p u) (c.patient.perform fuel o p u)) := by
  have fresh : Ledger c start false w₀ := .of_connect connected
  refine ⟨c.session_reaches fuel steps w₀, ?_, ?_, ?_⟩
  · intro u reaches
    obtain ⟨asked, ledger⟩ := fresh.of_reaches reaches
    refine ⟨ledger.quiet, ledger.closed_eq, ?_, fun v further => closed_of_reaches further⟩
    rw [ledger.closings_eq]
    cases u.closed <;> rfl
  · have ledger := fresh.of_session fuel steps
    rw [ledger.closings_eq, ledger.cause, Bool.false_or]
    split <;> simp_all
  · rintro before s after rfl
    refine ⟨?_, ?_⟩
    · rw [session_append, List.getElem?_append_right (Nat.le_of_eq (c.length_session fuel before w₀))]
      simp [length_session, session]
    · rintro o p rfl
      obtain ⟨m, built⟩ := buildable (.perform o p) (by simp)
      exact ⟨c.perform_of_closed fuel built,
        fun opened => (c.perform_follows fuel o p (.same opened)).cutAtClosing⟩

/-- A client of a server that closes it at the first call, and answers. -/
def hasty : Client Unit Number where
  connection := ⟨"localhost", 1, .zero, none, .zero, false, .zero, none, false, none, none, none, []⟩
  server := ⟨fun _ call => (⟨none, true, .response ⟨call.operation.responseTitle, []⟩⟩, ()),
    fun _ => (false, ())⟩

/-- Two questions of a client that is closed during the first one. -/
def twoQuestions : List SessionStep :=
  [.perform .hasCollection (CollectionTarget.mk "c"),
   .perform .hasCollection (CollectionTarget.mk "c")]

theorem session_closing_hasty :
    let w₀ : World Unit Number := (World.initial ()).log (.connected hasty.connection.target)
    (hasty.session 1 twoQuestions w₀).2.closings = 1 ∧
      (hasty.session 1 twoQuestions w₀).1[1]? =
        some (.ending (.returned .clientNotConnected)) := by
  intro w₀
  have buildable : ∀ s ∈ twoQuestions, s.Buildable := by
    simp [twoQuestions, SessionStep.Buildable, Operation.request]
  have durations : hasty.connection.channelOptions?.isSome = true := by decide +kernel
  obtain ⟨options, set⟩ := Option.isSome_iff_exists.mp durations
  have connected : (hasty.connection.connect ⟨none, none, true⟩ ()).2 = .ok w₀ := by
    simp only [Connection.connect, Connection.openChannel, Connection.channelOptions, set]
    rfl
  obtain ⟨-, -, closings, splits⟩ :=
    session_closing hasty ⟨none, none, true⟩ () w₀ connected 1 twoQuestions buildable
  obtain ⟨second, performed⟩ := splits [_] _ [] rfl
  have lost := (performed _ _ rfl).1 rfl
  refine ⟨closings.trans rfl, second.trans ?_⟩
  exact congrArg (fun ending => some (StepResult.ending ending)) lost

end Client

end VectorClient
