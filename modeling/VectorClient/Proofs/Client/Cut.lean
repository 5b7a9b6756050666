/-
# VectorClient.Proofs.Client.Cut — an operation cut short by closing

What closing does to an operation that is under way is said by comparison: the
same operation runs beside it on a client whose server answers alike but never
closes it (`Client.patient`).  Up to the closing the two runs are one.  From then
on the closed run makes no further call: where the other run makes its next
one, the closed run ends with "not connected" (`Follows.cut`); until there, and
if there is no next call, the two have the same outcome (`Follows.along`).

`perform_follows` says so of every operation.
-/
import VectorClient.Proofs.Client.Classifying
import VectorClient.Proofs.Client.Ledger

namespace VectorClient

set_option autoImplicit false

/-- The same reactions, except that the server never closes its client. -/
def Server.patient {σ τ : Type} (s : Server σ τ) : Server σ τ where
  answer state call :=
    ({ (s.answer state call).1 with closes := false }, (s.answer state call).2)
  pause state := (false, (s.pause state).2)

namespace Client

variable {σ τ α ρ π : Type}

open World

/-- The client at the same server if that never closed it. -/
def patient (c : Client σ τ) : Client σ τ := { c with server := c.server.patient }

/-- Two worlds that a closing has not yet told apart by any outcome: one open world, or
a closed world beside an open one with the same time and the same calls. -/
inductive Near : World σ τ → World σ τ → Prop
  | same {u : World σ τ} (opened : u.closed = false) : Near u u
  | closed {u u' : World σ τ} (closed : u.closed = true) (opened : u'.closed = false)
      (clock : u.clock = u'.clock) (calls : callsIn u.trace = callsIn u'.trace) : Near u u'

/-- An outcome beside the one without a closing: the same one, or `lost` instead of
an outcome that takes at least as many calls. -/
inductive Follows (lost : ρ) : ρ × World σ τ → ρ × World σ τ → Prop
  | along (r : ρ) {u u' : World σ τ} (near : Near u u') : Follows lost (r, u) (r, u')
  | cut {r' : ρ} {u u' : World σ τ} (closed : u.closed = true)
      (calls : callsIn u.trace <:+ callsIn u'.trace) : Follows lost (lost, u) (r', u')

theorem callsIn_suffix {older newer : List (Happening τ)} (suffix : older <:+ newer) :
    callsIn older <:+ callsIn newer := by
  obtain ⟨between, rfl⟩ := suffix
  rw [callsIn_append]
  exact List.suffix_append _ _

namespace Near

variable {u u' : World σ τ}

theorem clock_eq (near : Near u u') : u.clock = u'.clock := by
  cases near with
  | same => rfl
  | closed _ _ clock _ => exact clock

theorem calls_eq (near : Near u u') : callsIn u.trace = callsIn u'.trace := by
  cases near with
  | same => rfl
  | closed _ _ _ calls => exact calls

theorem log (near : Near u u') (r : LogRecord τ) : Near (u.log r) (u'.log r) := by
  cases near with
  | same opened => exact .same opened
  | closed closed opened clock calls => exact .closed closed opened clock calls

theorem note (near : Near u u') (r? : Option (LogRecord τ)) :
    Near (Wait.note r? u) (Wait.note r? u') := by
  cases r? with
  | none => exact near
  | some r => exact near.log r

/-- A closing that is due tells an open world from itself at most as far as `Near`. -/
theorem closeIf (c : Client σ τ) (closes : Bool) {u : World σ τ} (opened : u.closed = false) :
    Near (c.closeIf closes u) u := by
  cases closes with
  | false => exact .same opened
  | true =>
      refine .closed (by simp) opened (by simp) ?_
      rw [trace_closeIf]
      simp [opened, callsIn]

variable [Timeline τ]

theorem pause (near : Near u u') (c : Client σ τ) (duration : τ) :
    Near (c.pause duration u) (c.patient.pause duration u') := by
  rw [pause_eq, pause_eq]
  cases near with
  | same opened => exact closeIf c _ (by simpa using opened)
  | closed closed opened clock calls =>
      rw [closeIf_of_closed c _ _ (by simpa using closed)]
      refine .closed (by simpa using closed) ?_ ?_ ?_
      · simpa [Client.patient, Server.patient] using opened
      · simpa using congrArg (Timeline.add · duration) clock
      · rw [trace_closeIf]
        simpa [Client.patient, Server.patient, callsIn] using calls

end Near

section

variable [Timeline τ]

/-- Two runs go on: the same outcome is taken further in both, and `lost` ends the
first one, whatever the second does then. -/
theorem Follows.bind {c : Client σ τ} {lost : ρ} {lost' : π} {x y : ρ × World σ τ}
    {F G : ρ × World σ τ → π × World σ τ} (follows : Follows lost x y)
    (dead : ∀ u : World σ τ, u.closed = true →
      ∃ v, F (lost, u) = (lost', v) ∧ v.closed = true ∧ callsIn v.trace = callsIn u.trace)
    (moves : ∀ r u', c.patient.Moves u' (G (r, u')).2)
    (further : ∀ r {u u'}, Near u u' → Follows lost' (F (r, u)) (G (r, u'))) :
    Follows lost' (F x) (G y) := by
  cases follows with
  | along r near => exact further r near
  | @cut r' u u' closed calls =>
      obtain ⟨v, ended, closed', calls'⟩ := dead u closed
      have later : callsIn v.trace <:+ callsIn (G (r', u')).2.trace :=
        calls' ▸ calls.trans (callsIn_suffix (trace_suffix (moves r' u')))
      rw [ended, ← Prod.eta (G (r', u'))]
      exact .cut closed' later

variable (c : Client σ τ) {u u' : World σ τ}

/-! ## One call -/

theorem exchange_near (call : Call) (opened : u.closed = false) :
    (c.exchange call u).1 = (c.patient.exchange call u).1 ∧
      Near (c.exchange call u).2 (c.patient.exchange call u).2 := by
  have patient_eq : (c.patient.exchange call u).2 = c.underWay call u := rfl
  refine ⟨rfl, ?_⟩
  rw [patient_eq, exchange_eq]
  exact Near.closeIf c _ (by simpa using opened)

theorem invoke_follows (label : String) (call : Call) (payload : Response → α)
    (near : Near u u') :
    Follows (.ok .clientNotConnected) (c.invoke label call payload u)
      (c.patient.invoke label call payload u') := by
  cases near with
  | closed closed opened clock calls =>
      rw [c.invoke_of_closed label call payload closed,
        ← Prod.eta (c.patient.invoke label call payload u')]
      refine .cut closed ?_
      exact calls ▸ callsIn_suffix (trace_suffix (c.patient.invoke_moves label call payload u'))
  | same opened =>
      obtain ⟨outcome_eq, near⟩ :=
        c.exchange_near (u := u.log (.calling call.operation label)) call opened
      unfold invoke
      simp only [opened, Bool.false_eq_true, if_false]
      -- Both exchanges have one outcome; their worlds are all that may differ.
      generalize c.exchange call (u.log (.calling call.operation label)) = x at *
      generalize c.patient.exchange call (u.log (.calling call.operation label)) = y at *
      obtain ⟨outcome, v⟩ := x
      obtain ⟨outcome', v'⟩ := y
      dsimp only at outcome_eq near
      subst outcome_eq
      cases outcome with
      | response r =>
          simp only [classify]
          split
          · exact .along _ near
          · exact .along _ (near.log _)
      | failed error =>
          cases near with
          | same opened =>
              simp only [opened, Bool.false_eq_true, if_false]
              exact .along _ ((Near.same opened).log _)
          | closed closed opened _ calls =>
              simp only [closed, opened, if_true, Bool.false_eq_true, if_false]
              exact .cut closed (calls ▸ List.suffix_rfl)
      | raised r =>
          cases r with
          | refusal message =>
              cases near with
              | same opened =>
                  simp only [opened, Bool.false_eq_true, if_false]
                  exact .along _ (.same opened)
              | closed closed opened _ calls =>
                  simp only [closed, opened, if_true, Bool.false_eq_true, if_false]
                  exact .cut closed (calls ▸ List.suffix_rfl)
          | wrongType message => exact .along _ near
          | other kind message => exact .along _ near

/-! ## Waits -/

/-- A wait follows if its probe does. -/
theorem run_follows (wait : Wait τ Raised α)
    {probe probe' : World σ τ → Except Raised (Envelope α) × World σ τ}
    (moves : ∀ w, c.patient.Moves w (probe' w).2)
    (probes : ∀ {u u' : World σ τ}, Near u u' →
      Follows (.ok .clientNotConnected) (probe u) (probe' u')) (start : τ) :
    ∀ (fuel round : Nat) {u u' : World σ τ}, Near u u' →
      Follows (.returned .clientNotConnected) (wait.run c.pause probe start fuel round u)
        (wait.run c.patient.pause probe' start fuel round u')
  | 0, _, _, _, near => .along _ near
  | fuel + 1, round, u, u', near => by
      rw [Wait.run_succ, Wait.run_succ]
      refine (probes near).bind (c := c) ?_ (fun r u' => ?_) (fun r u u' near => ?_)
      · intro u closed
        exact ⟨_, rfl, closed, rfl⟩
      · exact c.patient.conclude_moves wait start round
          (c.patient.run_moves wait moves start fuel (round + 1)) (r, u')
      · cases r with
        | error error => exact .along _ near
        | ok result =>
            simp only [Wait.conclude]
            rw [near.clock_eq]
            split
            · exact .along _ (near.note _)
            · exact run_follows wait moves probes start fuel (round + 1)
                ((near.note _).pause c _)

/-- The outcome of a wait, taken as that of its operation. -/
theorem finish_follows (fuel : Nat) (result : Envelope Payload) (wait : Wait τ Raised α)
    {probe probe' : World σ τ → Except Raised (Envelope α) × World σ τ}
    (moves : ∀ w, c.patient.Moves w (probe' w).2)
    (probes : ∀ {u u' : World σ τ}, Near u u' →
      Follows (.ok .clientNotConnected) (probe u) (probe' u')) (near : Near u u') :
    Follows (.returned .clientNotConnected) (c.finish fuel result wait probe u)
      (c.patient.finish fuel result wait probe' u') := by
  have follows := c.run_follows wait moves probes u'.clock fuel 1 near
  unfold finish
  rw [near.clock_eq]
  generalize wait.run c.pause probe u'.clock fuel 1 u = x at follows ⊢
  generalize wait.run c.patient.pause probe' u'.clock fuel 1 u' = y at follows ⊢
  cases follows with
  | along r near => cases r <;> exact .along _ near
  | @cut r' _ _ closed calls => cases r' <;> exact .cut closed calls

/-! ## Operations -/

/-- The segments of several collections: the first call that is lost loses them all. -/
theorem segmentStates_follows :
    ∀ (targets : List (String × List Int)) (states : SegmentStates) {u u' : World σ τ},
      Near u u' → Follows (.ok .clientNotConnected) (c.segmentStates targets states u)
        (c.patient.segmentStates targets states u')
  | [], _, _, _, near => .along _ near
  | (name, ids) :: rest, states, u, u', near => by
      rw [segmentStates_cons, segmentStates_cons]
      split
      · exact segmentStates_follows rest states near
      · have asked : Follows (.ok .clientNotConnected) (c.askSegments name u)
            (c.patient.askSegments name u') := c.invoke_follows _ _ _ near
        refine asked.bind (c := c) ?_ (fun r u' => ?_) (fun r u u' near => ?_)
        · intro u closed
          exact ⟨_, rfl, closed, rfl⟩
        · exact merge_related (fun _ => .refl) ids states (c.patient.segmentStates_moves rest) (r, u')
        · cases r with
          | error error => exact .along _ near
          | ok e =>
              simp only [merge]
              split
              · exact .along _ near
              · exact segmentStates_follows rest _ near

theorem callOnce_follows (o : Operation) (p : o.Param) (near : Near u u') :
    Follows (.returned .clientNotConnected) (c.callOnce o p u) (c.patient.callOnce o p u') := by
  unfold callOnce
  split
  · exact .along _ near
  · rename_i request _
    have follows := c.invoke_follows (o.label p) ⟨o, request⟩ o.payload near
    generalize c.invoke (o.label p) ⟨o, request⟩ o.payload u = x at follows ⊢
    generalize c.patient.invoke (o.label p) ⟨o, request⟩ o.payload u' = y at follows ⊢
    cases follows with
    | along r near => exact .along _ near
    | cut closed calls => exact .cut closed calls

/-- What follows a first call follows, if the first call does. -/
theorem thenWait_follows (waits : Bool) {first first' : Run σ τ}
    {next next' : Envelope Payload → World σ τ → Run σ τ}
    (called : Follows (.returned .clientNotConnected) first first')
    (moves : ∀ e w, c.patient.Moves w (next' e w).2)
    (goesOn : ∀ e {u u' : World σ τ}, Near u u' →
      Follows (.returned .clientNotConnected) (next e u) (next' e u')) :
    Follows (.returned .clientNotConnected) (thenWait waits first next)
      (thenWait waits first' next') := by
  refine called.bind (c := c) (F := fun x => thenWait waits x next)
    (G := fun y => thenWait waits y next') ?_ (fun r u' => ?_) (fun r u u' near => ?_)
  · intro u closed
    exact ⟨_, rfl, closed, rfl⟩
  · have called : c.patient.Moves u' (r, u').2 := .refl
    exact c.patient.thenWait_moves waits called moves
  · cases r with
    | returned e =>
        simp only [thenWait]
        split
        · exact goesOn e near
        · exact .along _ near
    | raised error => exact .along _ near
    | unfinished => exact .along _ near

theorem flush_follows (fuel : Nat) (p : Flush) (near : Near u u') :
    Follows (.returned .clientNotConnected) (c.flush fuel p u) (c.patient.flush fuel p u') :=
  c.thenWait_follows _ (c.callOnce_follows .flush p near)
    (fun _ _ => c.patient.finish_moves _ _ _ (fun w => c.patient.segmentStates_moves _ _ w) _)
    fun _ => c.finish_follows _ _ _ (fun w => c.patient.segmentStates_moves _ _ w)
      (c.segmentStates_follows _ _)

theorem collectionStatistics_follows (fuel : Nat) (p : StatisticsQuery) (near : Near u u') :
    Follows (.returned .clientNotConnected) (c.collectionStatistics fuel p u)
      (c.patient.collectionStatistics fuel p u') := by
  rw [collectionStatistics_eq, collectionStatistics_eq]
  split
  · exact c.thenWait_follows true (c.flush_follows fuel (Flush.waiting p.collection) near)
      (fun _ w => c.patient.callOnce_moves .getCollectionStatistics p w)
      (fun _ => c.callOnce_follows .getCollectionStatistics p)
  · exact c.callOnce_follows .getCollectionStatistics p near

/-- **An operation beside itself without a closing.**  Until the closing they are one;
then the closed one has the same outcome, or was about to call and is not connected. -/
theorem perform_follows (fuel : Nat) (o : Operation) (p : o.Param) (near : Near u u') :
    Follows (.returned .clientNotConnected) (c.perform fuel o p u)
      (c.patient.perform fuel o p u') := by
  have once := c.callOnce_follows o p near
  have probing : ∀ (label : String) (call : Call) {u u' : World σ τ}, Near u u' →
      Follows (.ok .clientNotConnected) (c.probeBy label call u)
        (c.patient.probeBy label call u') := fun label call => c.invoke_follows label call id
  have moving : ∀ (label : String) (call : Call) (w : World σ τ),
      c.patient.Moves w (c.patient.probeBy label call w).2 :=
    fun label call => c.patient.invoke_moves label call id
  cases o with
  | loadCollection | loadPartitions | createIndex =>
      exact c.thenWait_follows _ once (fun _ _ => c.patient.finish_moves _ _ _ (moving _ _) _)
        fun _ => c.finish_follows _ _ _ (moving _ _) (probing _ _)
  | flush => exact c.flush_follows fuel p near
  | getCollectionStatistics => exact c.collectionStatistics_follows fuel p near
  | _ => exact once

end

end Client

end VectorClient
