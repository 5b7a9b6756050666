/-
# VectorClient.Proofs.Client.Indexing — builds of an index that are waited for

The build of an index looks at one state.  A state that is failed ends the wait
with an error whose text is never empty; it wins over the end of the time, as a
finished one does, and a probe that is no success wins over all three.

* `IndexBuild.tells`: a look ends the wait exactly if it is decisive, and as
  `IndexBuild.ending` says.
* `createIndex_endsAtFirst`: a waiting build ends at its first decisive look, and one
  that is reported as failed there is an error.
-/
import VectorClient.Proofs.Client.Watching

namespace VectorClient

set_option autoImplicit false

open World

namespace IndexBuild

/-- The build of an index as the watch that it is: it repeats the question for its state. -/
def watch (p : IndexBuild) : Watch where
  operation := .createIndex
  param := p
  request := p.request
  built := rfl
  pacing := p.pacing
  description := "index on " ++ p.target.label ++ " to build"
  failureCode := indexFailureCode
  judge := judgeIndex
  lookLabel := "check index on " ++ p.target.label
  look := ⟨.getIndexState, p.target.request⟩

/-! ## What a look says -/

/-- The envelope is a success that reports a state of the index. -/
def Reports (state : Int) (e : Envelope Response) : Prop :=
  ∃ r, e.payload? = some r ∧ r.fields.int "state" = state

@[simp]
theorem reports_success (state : Int) (r : Response) :
    Reports state (.success r) ↔ r.fields.int "state" = state := by
  simp [Reports]

instance (state : Int) (e : Envelope Response) : Decidable (Reports state e) :=
  decidable_of_iff ((e.payload?.any fun r => r.fields.int "state" = state) = true)
    (by simp [Reports, Option.any_eq_true])

/-- The reason that an envelope reports for a failure. -/
def reportedReason (e : Envelope Response) : String :=
  (e.payload?.map fun r => r.fields.text "fail_reason").getD ""

/-- The text of a failed build: the reason that is reported, if there is any. -/
def failureText (e : Envelope Response) : String :=
  if reportedReason e = "" then "index build failed" else reportedReason e

theorem failureText_ne_empty (e : Envelope Response) : failureText e ≠ "" := by
  unfold failureText
  split
  · decide
  · assumption

variable {σ τ : Type} [Timeline τ]

/-- The time that a build is waited for at most. -/
def timeout (p : IndexBuild) : τ := Timeline.ofSeconds p.pacing.timeout

/-- A look is decisive: it is not a success, or reports that the build has failed or has
finished, or the time to wait has passed at its end. -/
def Decisive (p : IndexBuild) (seen : Sight τ Raised Response) : Prop :=
  match seen.back with
  | .error _ => True
  | .ok e => e.ok = false ∨ Reports indexFailed e ∨ Reports indexFinished e ∨
      Timeline.le p.timeout seen.elapsed = true

instance (p : IndexBuild) : (seen : Sight τ Raised Response) → Decidable (p.Decisive seen)
  | ⟨.error _, _⟩ => .isTrue trivial
  | ⟨.ok e, elapsed⟩ => inferInstanceAs (Decidable (e.ok = false ∨ Reports indexFailed e ∨
      Reports indexFinished e ∨ Timeline.le p.timeout elapsed = true))

/-- What a build makes of its decisive look: the envelope of the look itself if that is no
success; otherwise an error if the build has failed; otherwise the envelope of the build,
`result`, if it has finished; otherwise that the wait has taken too long. -/
def ending (p : IndexBuild) (result : Envelope Payload) (seen : Sight τ Raised Response) :
    Ending CallFault Payload :=
  match seen.back with
  | .error r => .raised (.raised r)
  | .ok e =>
      if e.ok = false then .returned e.withoutData
      else if Reports indexFailed e then
        .returned (.serverError indexFailureCode (failureText e))
      else if Reports indexFinished e then .returned result
      else .returned (.waitTimeout ("Waiting for " ++ p.watch.description ++
        " timed out after " ++ Timeline.text (p.timeout : τ) ++ " seconds"))

section Judged

variable {r : Response}

theorem judge_of_failed (failed : r.fields.int "state" = indexFailed) :
    (judgeIndex r : Judgement Raised) = .failed (failureText (.success r)) := by
  have reason : indexFailure? r = some (failureText (.success r)) := by
    by_cases given : r.fields.text "fail_reason" = "" <;>
      simp [indexFailure?, failed, failureText, reportedReason, given]
  simp [judgeIndex, Judgement.ofPredicates, reason]

theorem judge_of_not_failed (notFailed : r.fields.int "state" ≠ indexFailed) :
    (judgeIndex r : Judgement Raised) =
      if r.fields.int "state" = indexFinished then .complete else .pending := by
  have reason : indexFailure? r = none := by simp [indexFailure?, notFailed]
  simp [judgeIndex, Judgement.ofPredicates, reason]

end Judged

theorem ending_of_failed {p : IndexBuild} {seen : Sight τ Raised Response} {r : Response}
    (back : seen.back = .ok (.success r)) (failed : r.fields.int "state" = indexFailed)
    (result : Envelope Payload) :
    p.ending result seen =
      .returned (.serverError indexFailureCode (failureText (.success r))) := by
  simp [ending, back, failed]

theorem passesOn (p : IndexBuild) :
    Client.PassesOn (p.Decisive : Sight τ Raised Response → Prop) p.ending where
  error seen r result back := by simp [Decisive, ending, back]
  refused seen e result back failed := by simp [Decisive, ending, back, failed]

/-- A look ends the wait of a build exactly if it is decisive. -/
theorem tells (p : IndexBuild) :
    Client.Tells p.watch (p.Decisive : Sight τ Raised Response → Prop) p.ending := by
  refine .of_success p.passesOn ?pending ?ends
  case pending =>
    intro seen r back undecided
    simp only [Decisive, back, reports_success, not_or, Bool.not_eq_true] at undecided
    obtain ⟨-, notFailed, notFinished, inTime⟩ := undecided
    have judged := (judge_of_not_failed notFailed).trans (if_neg notFinished)
    exact Wait.ending?_of_pending back rfl judged inTime
  case ends =>
    intro seen r result back decisive
    by_cases failed : r.fields.int "state" = indexFailed
    · refine ⟨_, Wait.ending?_of_failed back rfl (judge_of_failed failed), ?_⟩
      exact (ending_of_failed back failed result).symm
    have judged := judge_of_not_failed failed
    by_cases finished : r.fields.int "state" = indexFinished
    · refine ⟨_, Wait.ending?_of_complete back rfl (judged.trans (if_pos finished)), ?_⟩
      have other : indexFinished ≠ indexFailed := by decide
      simp [ending, back, finished, other, Ending.concluding]
    · have late : Timeline.le p.timeout seen.elapsed = true := by
        simpa [Decisive, back, failed, finished] using decisive
      refine ⟨_, Wait.ending?_of_late back rfl (judged.trans (if_neg finished)) late, ?_⟩
      simp [ending, back, failed, finished, Ending.concluding]
      rfl

end IndexBuild

namespace Client

variable {σ τ : Type} [Timeline τ]

/-- **A waiting build of an index ends at its first decisive look.**  If that look reports
that the build has failed, the ending is an error with a text, and no look comes after. -/
theorem createIndex_endsAtFirst (c : Client σ τ) (fuel : Nat) (p : IndexBuild) (w : World σ τ)
    (waits : p.pacing.waits = true) (opened : w.closed = false) :
    c.EndsAtFirst fuel p.watch p.Decisive p.ending w ∧
    ∀ result v n r, c.callOnce .createIndex p w = (.returned result, v) → result.ok = true →
      n < fuel → (∀ m < n, ¬ p.Decisive (c.sight p.watch v m)) →
      (c.sight p.watch v n).back = .ok (.success r) → r.fields.int "state" = indexFailed →
      ∃ reason, (c.perform fuel .createIndex p w).1 =
          .returned (.serverError indexFailureCode reason) ∧ reason ≠ "" ∧
        (r.fields.text "fail_reason" ≠ "" → reason = r.fields.text "fail_reason") ∧
        callsIn (c.perform fuel .createIndex p w).2.trace =
          List.replicate (n + 1) p.watch.look ++ p.watch.call :: callsIn w.trace := by
  have ends : c.EndsAtFirst fuel p.watch p.Decisive p.ending w :=
    c.endsAtFirst rfl waits opened p.tells
  refine ⟨ends, ?_⟩
  intro result v n r called ok bound undecided back failed
  have decisive : p.Decisive (c.sight p.watch v n) := by
    simp [IndexBuild.Decisive, back, failed]
  obtain ⟨ending, calls⟩ := ends.decided result v n called ok bound undecided decisive
  rw [c.open_of_success back] at calls
  refine ⟨IndexBuild.failureText (.success r), ?_, IndexBuild.failureText_ne_empty _, ?_, calls⟩
  · exact ending.trans (IndexBuild.ending_of_failed back failed result)
  · intro given
    exact if_neg given

/-- A client of a server that reports an index first as being built, then as failed, and
as finished from then on. -/
def failingToBuild : Client Nat Number where
  connection := ⟨"localhost", 1, .zero, none, .zero, false, .zero, none, false, none, none, none, []⟩
  server := ⟨fun looks call => match call.operation, looks with
    | .getIndexState, 0 => (⟨none, false, .response (state 2 "")⟩, 1)
    | .getIndexState, 1 => (⟨none, false, .response (state 4 "out of memory")⟩, 2)
    | .getIndexState, n => (⟨none, false, .response (state 3 "")⟩, n + 1)
    | _, n => (⟨none, false, .response ⟨"Status", []⟩⟩, n), fun n => (false, n)⟩
where
  state (number : Int) (reason : String) : Response :=
    ⟨"GetIndexStateResponse", [("state", .int number), ("fail_reason", .text reason)]⟩

/-- A build that is waited for up to nine seconds. -/
def patientBuild : IndexBuild :=
  ⟨"c", "v", .flat, .l2, "\x7b\x7d", ⟨true, .ofInt 1, .ofInt 9⟩⟩

theorem createIndex_endsAtFirst_failingToBuild :
    (failingToBuild.perform 5 .createIndex patientBuild (World.initial 0)).1 =
        .returned (.serverError 21 "out of memory") ∧
      callsIn (failingToBuild.perform 5 .createIndex patientBuild (World.initial 0)).2.trace =
        [⟨.getIndexState, patientBuild.target.request⟩,
          ⟨.getIndexState, patientBuild.target.request⟩,
          ⟨.createIndex, patientBuild.request⟩] := by
  obtain ⟨reason, ending, -, given, calls⟩ :=
    (failingToBuild.createIndex_endsAtFirst 5 patientBuild (World.initial 0) rfl rfl).2
      (.success (.acknowledged .silent))
      (failingToBuild.callOnce .createIndex patientBuild (World.initial 0)).2 1
      (failingToBuild.state 4 "out of memory") rfl rfl (by decide) (by decide +kernel) rfl rfl
  obtain rfl := given (by decide)
  exact ⟨ending, calls⟩

end Client

end VectorClient
