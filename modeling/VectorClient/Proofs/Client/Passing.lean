/-
# VectorClient.Proofs.Client.Passing — time that passes

A client reads its clock, and all that moves the clock are calls, by what the
server takes for them, and sleeps.  Whether a wait is ever over is a matter of
the clock alone: `TimePasses` says that calls and sleeps in turn come to use up
a given time.  No clock does so for every interval if its readings are rounded,
since a sleep may be too short to be seen; a clock that is not rounded does.

* `invoke_ticks`, `segmentStates_ticks`: the clock is moved by calls alone.
* `run_ends`: a wait ends where time passes, however its probes come back.
* `invoke_answered`, `segmentStates_answered`: calls that are answered return.
* `ExactTime` is a clock that is not rounded, and `timePasses_of_forward` its law: where
  no call takes a negative time, every positive interval is enough.
-/
import VectorClient.Proofs.Client.Classifying
import VectorClient.Proofs.Wait.Openings
import VectorClient.Proofs.Param.Bounds

namespace VectorClient

set_option autoImplicit false

/-- Every call is answered with a response. -/
def Server.Answers {σ τ : Type} (s : Server σ τ) : Prop :=
  ∀ state call, ∃ r, (s.answer state call).1.outcome = .response r

namespace Client

variable {σ τ α : Type} [Timeline τ] (c : Client σ τ)

/-! ## The clock -/

/-- What one call can do to the clock. -/
inductive Tick (c : Client σ τ) (reading : τ) : τ → Prop
  | call (state : σ) (call : Call) (time : τ)
      (taken : (c.server.answer state call).1.elapsed = some time) :
      Tick c reading (Timeline.add reading time)

/-- What any number of calls can do to the clock. -/
abbrev Ticks (c : Client σ τ) : τ → τ → Prop := Relation.ReflTransGen c.Tick

theorem exchange_ticks (call : Call) (w : World σ τ) :
    c.Ticks w.clock (c.exchange call w).2.clock := by
  rw [exchange_eq, clock_closeIf, underWay]
  cases taken : (c.server.answer w.server call).1.elapsed with
  | none => exact .refl
  | some time => exact .single (.call w.server call time taken)

/-- However many calls are made between sleeps of the interval, the time from before the
first of them to the end of some of them reaches the limit. -/
def TimePasses (c : Client σ τ) (interval limit : τ) : Prop :=
  ∀ begins ends : Nat → τ, (∀ n, c.Ticks (begins n) (ends n)) →
    (∀ n, begins (n + 1) = Timeline.add (ends n) interval) →
    ∃ n, Timeline.le limit (Timeline.sub (ends n) (begins 0)) = true

theorem invoke_ticks (label : String) (call : Call) (payload : Response → α) (w : World σ τ) :
    c.Ticks w.clock (c.invoke label call payload w).2.clock := by
  cases opened : w.closed with
  | true =>
      rw [c.invoke_of_closed label call payload opened]
      exact .refl
  | false =>
      have ticks := c.exchange_ticks call (w.log (.calling call.operation label))
      obtain ⟨back, r?, invoked, -⟩ := c.invoke_classified label call payload opened
      rw [invoked, Wait.clock_note]
      exact ticks

theorem segmentStates_ticks (targets : List (String × List Int)) (states : SegmentStates)
    (w : World σ τ) : c.Ticks w.clock (c.segmentStates targets states w).2.clock :=
  segmentStates_related (R := fun u v => c.Ticks u.clock v.clock) (fun _ => .refl) .trans
    (fun _ w => c.invoke_ticks _ _ _ w) targets states w

/-! ## Waits that end -/

section Waits

variable {c} {wait : Wait τ Raised α}
  {probe : World σ τ → Except Raised (Envelope α) × World σ τ} {first : World σ τ}
  (ticks : ∀ w, c.Ticks w.clock (probe w).2.clock)
  (passing : c.TimePasses wait.interval wait.timeout)

include ticks passing

/-- In some round of a wait the time is over, as the clock sees it. -/
theorem exists_late :
    ∃ n, Timeline.le wait.timeout (wait.sight c.pause probe first n).elapsed = true := by
  refine passing (fun n => (wait.opening c.pause probe first n).clock)
    (fun n => (probe (wait.opening c.pause probe first n)).2.clock)
    (fun n => ticks _) fun n => ?_
  rw [Wait.opening, pause_eq, clock_closeIf]
  rfl

/-- A wait ends in the same way for every supply of rounds from some size on. -/
theorem run_ends :
    ∃ ending v enough, ending ≠ .unfinished ∧
      ∀ fuel, enough ≤ fuel → wait.run c.pause probe first.clock fuel 1 first = (ending, v) := by
  obtain ⟨n, late⟩ := exists_late ticks passing
  obtain ⟨ending, v, finished, ran⟩ := Wait.exists_run_eq late
  exact ⟨ending, v, n + 1, finished, ran⟩

end Waits

/-! ## Calls that are answered -/

variable {c} (answers : c.server.Answers)

include answers

/-- A call that is answered returns an envelope. -/
theorem invoke_answered (label : String) (call : Call) (payload : Response → α) (w : World σ τ) :
    ∃ e, (c.invoke label call payload w).1 = .ok e := by
  cases opened : w.closed with
  | true => exact ⟨_, congrArg Prod.fst (c.invoke_of_closed label call payload opened)⟩
  | false =>
      obtain ⟨back, r?, invoked, classified⟩ := c.invoke_classified label call payload opened
      obtain ⟨r, answered⟩ := answers w.server call
      rw [answered] at classified
      cases back with
      | ok e => exact ⟨e, congrArg Prod.fst invoked⟩
      | error r => cases classified

theorem segmentStates_answered :
    ∀ (targets : List (String × List Int)) (states : SegmentStates) (w : World σ τ),
      ∃ e, (c.segmentStates targets states w).1 = .ok e
  | [], _, _ => ⟨_, rfl⟩
  | (name, ids) :: rest, states, w => by
      rw [segmentStates_cons]
      split
      · exact segmentStates_answered rest states w
      · obtain ⟨e, back⟩ : ∃ e, (c.askSegments name w).1 = .ok e := invoke_answered answers _ _ _ w
        generalize c.askSegments name w = asked at back
        obtain ⟨outcome, v⟩ := asked
        cases back
        unfold merge
        dsimp only
        split
        · exact ⟨_, rfl⟩
        · exact segmentStates_answered rest (states.update ids _) v

end Client

/-! ## A clock that is not rounded -/

/-- A reading in units of the double format. -/
structure ExactTime where
  units : Int
  deriving DecidableEq, Repr

namespace ExactTime

open Number

def toDouble (t : ExactTime) : Double := Double.ofSignedUnits false t.units

instance : Timeline ExactTime where
  zero := ⟨0⟩
  add a b := ⟨a.units + b.units⟩
  sub a b := ⟨a.units - b.units⟩
  le a b := a.units ≤ b.units
  ofSeconds d := ⟨d.signedUnits?.getD 0⟩
  tenths t := t.toDouble.oneDecimal
  text t := t.toDouble.text

variable {σ : Type}

/-- No call takes a negative time. -/
def Forward (s : Server σ ExactTime) : Prop :=
  ∀ state call time, (s.answer state call).1.elapsed = some time → 0 ≤ time.units

variable {c : Client σ ExactTime} (forward : Forward c.server)

include forward

theorem units_le_of_ticks {s t : ExactTime} (ticks : c.Ticks s t) : s.units ≤ t.units := by
  induction ticks with
  | refl => exact Int.le_refl _
  | tail _ tick ih =>
      obtain ⟨state, call, time, taken⟩ := tick
      have later := forward state call time taken
      exact ih.trans (Int.le_add_of_nonneg_right later)

/-- Where no call takes a negative time, a positive interval is enough for time to pass. -/
theorem timePasses_of_forward {interval limit : ExactTime} (positive : 0 < interval.units) :
    c.TimePasses interval limit := by
  intro begins ends calls sleeps
  -- Every sleep adds a unit at least, and no call takes one away.
  have passed : ∀ n : Nat, (begins 0).units + n ≤ (ends n).units := by
    intro n
    induction n with
    | zero => simpa using units_le_of_ticks forward (calls 0)
    | succ n ih =>
        have called := units_le_of_ticks forward (calls (n + 1))
        have slept : (begins (n + 1)).units = (ends n).units + interval.units :=
          congrArg units (sleeps n)
        push_cast
        omega
  refine ⟨limit.units.toNat, decide_eq_true ?_⟩
  have enough := passed limit.units.toNat
  change limit.units ≤ (ends limit.units.toNat).units - (begins 0).units
  omega

/-- An operation with an accepted parameter waits no longer than time passes. -/
theorem timePasses_of_build {o : Operation} {p : o.Param} {kw : Keywords}
    (built : o.blueprint.build kw = .accepted p) {pacing : Pacing}
    (waits : o.pacing? p = some pacing) :
    c.TimePasses (Timeline.ofSeconds pacing.interval) (Timeline.ofSeconds pacing.timeout) := by
  obtain ⟨units, finite, positive⟩ :=
    Double.isPositive_iff.mp (Operation.isPositive_of_pacing? built waits).interval
  refine timePasses_of_forward forward ?_
  change 0 < pacing.interval.signedUnits?.getD 0
  rw [finite]
  exact positive

end ExactTime

end VectorClient
