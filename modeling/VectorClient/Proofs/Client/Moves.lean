/-
# VectorClient.Proofs.Client.Moves — what an operation does to the world

An operation changes the world in three ways only: it writes to the log, it
hands a call to the server while the client is open, and it sleeps.  It never
closes the client itself; only the server's reactions do, while a call is under
way or during a sleep.

* `Move` is one such change, `Moves` any number of them.
* `perform_moves`: every operation is a number of moves, however it ends.
* `trace_suffix`: moves only add to what happened.

Whatever each of the three moves preserves is so preserved by every operation.
-/
import VectorClient.Client.Session
import VectorClient.Proofs.Client.Segments
import VectorClient.Proofs.Wait.Rounds
import Mathlib.Logic.Relation

namespace VectorClient

set_option autoImplicit false

namespace Client

variable {σ τ α : Type} [Timeline τ]

/-! ## Closing on the way -/

section CloseIf

variable (c : Client σ τ) (closes : Bool) (w : World σ τ)

omit [Timeline τ]

@[simp]
theorem closed_closeIf : (c.closeIf closes w).closed = (w.closed || closes) := by
  cases closes <;> simp [closeIf]

@[simp]
theorem server_closeIf : (c.closeIf closes w).server = w.server := by
  unfold closeIf close
  split
  · split <;> rfl
  · rfl

@[simp]
theorem clock_closeIf : (c.closeIf closes w).clock = w.clock := by
  unfold closeIf close
  split
  · split <;> rfl
  · rfl

theorem closings_closeIf :
    (c.closeIf closes w).closings = w.closings + (closes && !w.closed).toNat := by
  cases closes <;> cases h : w.closed <;> simp [closeIf, close, h, World.log, World.record]

theorem trace_closeIf :
    (c.closeIf closes w).trace =
      if closes && !w.closed then .logged (.closed c.connection.target) :: w.trace
      else w.trace := by
  cases closes <;> cases h : w.closed <;> simp [closeIf, close, h]

theorem closeIf_of_closed (h : w.closed = true) : c.closeIf closes w = w := by
  cases closes <;> simp [closeIf, close_of_closed, h]

end CloseIf

/-! ## Exchanges and sleeps, field by field -/

section Fields

variable (c : Client σ τ) (call : Call) (duration : τ) (w : World σ τ)

/-- The world of an exchange before the server closes the client, if it does. -/
def underWay : World σ τ :=
  let turn := c.server.answer w.server call
  let w := { w.record (.called call c.connection.timeout) with server := turn.2 }
  turn.1.elapsed.elim w fun time => w.advance time

theorem exchange_eq :
    c.exchange call w = ((c.server.answer w.server call).1.outcome,
      c.closeIf (c.server.answer w.server call).1.closes (c.underWay call w)) := rfl

@[simp]
theorem trace_underWay :
    (c.underWay call w).trace = .called call c.connection.timeout :: w.trace := by
  cases h : (c.server.answer w.server call).1.elapsed <;>
    simp [underWay, h, World.advance, World.record]

@[simp]
theorem closed_underWay : (c.underWay call w).closed = w.closed := by
  cases h : (c.server.answer w.server call).1.elapsed <;>
    simp [underWay, h, World.advance, World.record]

@[simp]
theorem closings_underWay : (c.underWay call w).closings = w.closings := by
  cases h : (c.server.answer w.server call).1.elapsed <;>
    simp [underWay, h, World.advance, World.record]

@[simp]
theorem server_underWay :
    (c.underWay call w).server = (c.server.answer w.server call).2 := by
  cases h : (c.server.answer w.server call).1.elapsed <;>
    simp [underWay, h, World.advance, World.record]

/-- The world of a sleep before the client is closed, if it is. -/
def asleep : World σ τ := { w.sleep duration with server := (c.server.pause w.server).2 }

theorem pause_eq :
    c.pause duration w = c.closeIf (c.server.pause w.server).1 (c.asleep duration w) := rfl

@[simp]
theorem trace_asleep : (c.asleep duration w).trace = .slept duration :: w.trace := rfl

@[simp]
theorem closed_asleep : (c.asleep duration w).closed = w.closed := rfl

@[simp]
theorem closings_asleep : (c.asleep duration w).closings = w.closings := rfl

@[simp]
theorem server_asleep : (c.asleep duration w).server = (c.server.pause w.server).2 := rfl

@[simp]
theorem clock_asleep : (c.asleep duration w).clock = Timeline.add w.clock duration := rfl

end Fields

/-! ## Moves -/

/-- One change that an operation makes to the world. -/
inductive Move (c : Client σ τ) (w : World σ τ) : World σ τ → Prop
  | log (r : LogRecord τ) (plain : ∀ target, r ≠ .closed target) : Move c w (w.log r)
  | exchange (call : Call) (opened : w.closed = false) : Move c w (c.exchange call w).2
  | pause (duration : τ) : Move c w (c.pause duration w)

/-- Any number of changes, one after the other. -/
abbrev Moves (c : Client σ τ) : World σ τ → World σ τ → Prop := Relation.ReflTransGen c.Move

/-- What every move preserves, any number of them preserves. -/
theorem Moves.preserves {c : Client σ τ} {P : World σ τ → Prop}
    (step : ∀ {u v : World σ τ}, c.Move u v → P u → P v) {u v : World σ τ} (moves : c.Moves u v)
    (holds : P u) : P v := by
  induction moves with
  | refl => exact holds
  | tail _ move ih => exact step move ih

omit [Timeline τ] in
theorem trace_suffix_closeIf (c : Client σ τ) (closes : Bool) (w : World σ τ) :
    w.trace <:+ (c.closeIf closes w).trace := by
  rw [trace_closeIf]
  split
  · exact List.suffix_cons _ _
  · exact List.suffix_rfl

/-- Moves only add to what happened. -/
theorem trace_suffix {c : Client σ τ} {u v : World σ τ} (moves : c.Moves u v) :
    u.trace <:+ v.trace := by
  refine Moves.preserves (P := fun v => u.trace <:+ v.trace) ?_ moves List.suffix_rfl
  intro v v' move before
  cases move with
  | log r plain => exact before.trans (List.suffix_cons _ _)
  | exchange call opened =>
      rw [exchange_eq]
      refine before.trans (.trans ?_ (trace_suffix_closeIf c _ _))
      rw [trace_underWay]
      exact List.suffix_cons _ _
  | pause duration =>
      rw [pause_eq]
      refine before.trans (.trans ?_ (trace_suffix_closeIf c _ _))
      rw [trace_asleep]
      exact List.suffix_cons _ _

/-! ## Every operation is a number of moves -/

section Operations

variable (c : Client σ τ)

theorem classify_moves (label : String) (payload : Response → α) (r : Response) (w : World σ τ) :
    c.Moves w (classify label payload r w).2 := by
  unfold classify
  split
  · exact .refl
  · exact .single (.log _ (by simp))

theorem invoke_moves (label : String) (call : Call) (payload : Response → α) (w : World σ τ) :
    c.Moves w (c.invoke label call payload w).2 := by
  unfold invoke
  split
  · exact .single (.log _ (by simp))
  · rename_i opened
    have calling : c.Move w (w.log (.calling call.operation label)) := .log _ (by simp)
    have called : c.Moves w (c.exchange call (w.log (.calling call.operation label))).2 :=
      .tail (.single calling) (.exchange call (by simpa using opened))
    -- The five ways back from the server; each writes at most one more record.
    split <;> rename_i back <;> rw [back] at called
    · exact called.trans (c.classify_moves _ _ _ _)
    · split
      · exact called
      · exact called.tail (.log _ (by simp))
    · split <;> exact called
    · exact called

theorem note_moves {ε : Type} (wait : Wait τ ε α) (round : Nat) (elapsed : τ)
    (result : Envelope α) (w : World σ τ) :
    c.Moves w (Wait.note (wait.settle round elapsed result).2 w) := by
  unfold Wait.settle
  split
  · exact .single (.log _ (by simp))
  · split
    · exact .refl
    · exact .single (.log _ (by simp))
    · exact .single (.log _ (by simp))
    · split <;> exact .single (.log _ (by simp))

theorem conclude_moves {ε : Type} (wait : Wait τ ε α) (start : τ) (round : Nat)
    {next : World σ τ → Ending ε α × World σ τ} (goesOn : ∀ w, c.Moves w (next w).2)
    (probed : Except ε (Envelope α) × World σ τ) :
    c.Moves probed.2 (wait.conclude c.pause start round next probed).2 := by
  obtain ⟨back, w⟩ := probed
  cases back with
  | error error => exact .refl
  | ok result =>
      have noted := c.note_moves wait round (Timeline.sub w.clock start) result w
      unfold Wait.conclude
      dsimp only
      split <;> rename_i settled <;> rw [settled] at noted
      · exact noted
      · exact (noted.tail (.pause _)).trans (goesOn _)

/-- A wait is a number of moves if its probe is. -/
theorem run_moves {ε : Type} (wait : Wait τ ε α)
    {probe : World σ τ → Except ε (Envelope α) × World σ τ}
    (probes : ∀ w, c.Moves w (probe w).2) (start : τ) :
    ∀ (fuel round : Nat) (w : World σ τ),
      c.Moves w (wait.run c.pause probe start fuel round w).2
  | 0, _, _ => .refl
  | fuel + 1, round, w => by
      rw [Wait.run_succ]
      exact (probes w).trans
        (c.conclude_moves wait start round (run_moves wait probes start fuel (round + 1)) _)

theorem segmentStates_moves (targets : List (String × List Int)) (states : SegmentStates)
    (w : World σ τ) : c.Moves w (c.segmentStates targets states w).2 :=
  segmentStates_related (fun _ => .refl) .trans (fun _ w => c.invoke_moves _ _ _ w) targets states w

theorem callOnce_moves (o : Operation) (p : o.Param) (w : World σ τ) :
    c.Moves w (c.callOnce o p w).2 := by
  unfold callOnce
  split
  · exact .refl
  · exact c.invoke_moves _ _ _ w

theorem finish_moves (fuel : Nat) (result : Envelope Payload) (wait : Wait τ Raised α)
    {probe : World σ τ → Except Raised (Envelope α) × World σ τ}
    (probes : ∀ w, c.Moves w (probe w).2) (w : World σ τ) :
    c.Moves w (c.finish fuel result wait probe w).2 := by
  have waited := c.run_moves wait probes w.clock fuel 1 w
  unfold finish
  split <;> rename_i back <;> rw [back] at waited <;> exact waited

theorem thenWait_moves (waits : Bool) {first : Run σ τ} {w : World σ τ}
    {next : Envelope Payload → World σ τ → Run σ τ} (called : c.Moves w first.2)
    (goesOn : ∀ e u, c.Moves u (next e u).2) : c.Moves w (thenWait waits first next).2 := by
  unfold thenWait
  split
  · split
    · exact called.trans (goesOn _ _)
    · exact called
  · exact called

theorem flush_moves (fuel : Nat) (p : Flush) (w : World σ τ) :
    c.Moves w (c.flush fuel p w).2 :=
  c.thenWait_moves _ (c.callOnce_moves .flush p w) fun _ _ =>
    c.finish_moves _ _ _ (fun u => c.segmentStates_moves _ _ u) _

/-- Statistics that follow a flush are a second call, made if the flush went well. -/
theorem collectionStatistics_eq (fuel : Nat) (p : StatisticsQuery) (w : World σ τ) :
    c.collectionStatistics fuel p w =
      if p.flushes then
        thenWait true (c.flush fuel (Flush.waiting p.collection) w) fun _ u =>
          c.callOnce .getCollectionStatistics p u
      else c.callOnce .getCollectionStatistics p w := by
  unfold collectionStatistics
  generalize c.flush fuel (Flush.waiting p.collection) w = flushed
  obtain ⟨ending, u⟩ := flushed
  cases ending with
  | returned e => cases ok : e.ok <;> simp [thenWait, ok]
  | raised error => rfl
  | unfinished => rfl

theorem collectionStatistics_moves (fuel : Nat) (p : StatisticsQuery) (w : World σ τ) :
    c.Moves w (c.collectionStatistics fuel p w).2 := by
  rw [collectionStatistics_eq]
  split
  · exact c.thenWait_moves true (c.flush_moves fuel _ w) fun _ u =>
      c.callOnce_moves .getCollectionStatistics p u
  · exact c.callOnce_moves .getCollectionStatistics p w

/-- Every operation is a number of moves, however it ends. -/
theorem perform_moves (fuel : Nat) (o : Operation) (p : o.Param) (w : World σ τ) :
    c.Moves w (c.perform fuel o p w).2 := by
  have once := c.callOnce_moves o p w
  cases o with
  | loadCollection =>
      exact c.thenWait_moves _ once fun _ _ =>
        c.finish_moves _ _ _ (fun u => c.invoke_moves _ _ _ u) _
  | loadPartitions =>
      exact c.thenWait_moves _ once fun _ _ =>
        c.finish_moves _ _ _ (fun u => c.invoke_moves _ _ _ u) _
  | createIndex =>
      exact c.thenWait_moves _ once fun _ _ =>
        c.finish_moves _ _ _ (fun u => c.invoke_moves _ _ _ u) _
  | flush => exact c.flush_moves fuel p w
  | getCollectionStatistics => exact c.collectionStatistics_moves fuel p w
  | _ => exact once

end Operations

end Client

end VectorClient
