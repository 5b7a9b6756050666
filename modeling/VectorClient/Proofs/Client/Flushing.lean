/-
# VectorClient.Proofs.Client.Flushing — when a waiting flush succeeds

The wait of a flush merges the reports on all segments into one map, by segment
alone, and looks at the merged states.  So it is the last report on a segment
that counts, whichever collection the answer was for and however often the segment
is reported.

* `flush_ok_iff`: a waiting flush succeeds exactly in a round whose last report
  on every segment is that it is flushed, and in such a round every report says so
  exactly if none that says otherwise is followed by another on the same segment.
* `flush_ok_over_unflushed`: a flush that succeeds over a report that is not flushed.
-/
import VectorClient.Client.Perform
import VectorClient.Proofs.Client.Classifying

namespace VectorClient

set_option autoImplicit false

open Text

/-! ## Reports -/

namespace SegmentStates

/-- The last report on every segment is that it is flushed. -/
def LastFlushed (reports : List (Int × Int)) : Prop :=
  ∀ e newer, e :: newer <:+ reports → (∀ later ∈ newer, later.1 ≠ e.1) → e.2 = segmentFlushed

theorem judgeFlush_eq_complete_iff {ε : Type} (reports : List (Int × Int)) :
    (judgeFlush (merged [] reports) : Judgement ε) = .complete ↔ LastFlushed reports := by
  have allFlushed : (judgeFlush (merged [] reports) : Judgement ε) = .complete ↔
      ∀ e ∈ merged [] reports, e.2 = segmentFlushed := by
    simp [judgeFlush, Judgement.ofPredicates, beq_iff_eq]
  rw [allFlushed]
  constructor
  · intro flushed e newer suffix latest
    exact flushed e ((mem_merged_iff reports e).mpr ⟨newer, suffix, latest⟩)
  · intro flushed e member
    obtain ⟨newer, suffix, latest⟩ := (mem_merged_iff reports e).mp member
    exact flushed e newer suffix latest

/-- Where the last reports are of flushed segments, all are exactly if those are that
another one follows on the same segment. -/
theorem LastFlushed.all_iff {reports : List (Int × Int)} (flushed : LastFlushed reports) :
    (∀ e ∈ reports, e.2 = segmentFlushed) ↔
      ∀ e newer, e :: newer <:+ reports → (∃ later ∈ newer, later.1 = e.1) →
        e.2 = segmentFlushed := by
  constructor
  · intro all e newer suffix _
    exact all e (suffix.subset (List.mem_cons_self ..))
  · intro followed e member
    obtain ⟨older, newer, rfl⟩ := List.append_of_mem member
    by_cases again : ∃ later ∈ newer, later.1 = e.1
    · exact followed e newer (List.suffix_append _ _) again
    · refine flushed e newer (List.suffix_append _ _) fun later member same => ?_
      exact again ⟨later, member, same⟩

end SegmentStates

/-! ## Successes -/

namespace Client

variable {σ τ α : Type} [Timeline τ] (c : Client σ τ)

/-- A call that succeeds has the payload of a response. -/
theorem invoke_eq_success {label : String} {call : Call} {payload : Response → α}
    {w v : World σ τ} {e : Envelope α} (back : c.invoke label call payload w = (.ok e, v))
    (ok : e.ok = true) : ∃ r, e = .success (payload r) := by
  cases opened : w.closed with
  | true =>
      rw [c.invoke_of_closed label call payload opened] at back
      cases back
      cases ok
  | false =>
      obtain ⟨back', r?, invoked, classified⟩ := c.invoke_classified label call payload opened
      cases invoked.symm.trans back
      obtain ⟨r, -, -, success⟩ := classified.response_of_ok ok
      exact ⟨r, success⟩

/-- Segments that are asked for with success have states. -/
theorem segmentStates_eq_success :
    ∀ (targets : List (String × List Int)) (states : SegmentStates) {w v : World σ τ}
      {e : Envelope SegmentStates}, c.segmentStates targets states w = (.ok e, v) →
        e.ok = true → ∃ result, e = .success result
  | [], states, _, _, _, back, _ => ⟨states, (Except.ok.inj (Prod.mk.inj back).1).symm⟩
  | (name, ids) :: rest, states, w, v, e, back, ok => by
      have later := segmentStates_eq_success rest
      rw [segmentStates_cons] at back
      split at back
      · exact later states back ok
      · generalize asked : c.askSegments name w = x at back
        obtain ⟨outcome, u⟩ := x
        cases outcome with
        | error r => cases back
        | ok answer =>
            simp only [merge] at back
            split at back
            · rename_i lacking
              cases back
              obtain ⟨r, rfl⟩ := c.invoke_eq_success asked ok
              cases lacking
            · exact later _ back ok

/-- A wait is finished well exactly if it ends well. -/
theorem finish_ok_iff (fuel : Nat) {result : Envelope Payload} (whole : result.ok = true)
    (wait : Wait τ Raised α) (probe : World σ τ → Except Raised (Envelope α) × World σ τ)
    (w : World σ τ) :
    (∃ e, (c.finish fuel result wait probe w).1 = .returned e ∧ e.ok = true) ↔
      ∃ e v, wait.run c.pause probe w.clock fuel 1 w = (.returned e, v) ∧ e.ok = true := by
  unfold finish
  generalize wait.run c.pause probe w.clock fuel 1 w = ran
  obtain ⟨ending, v⟩ := ran
  cases ending with
  | returned e => cases ok : e.ok <;> simp [ok, whole]
  | raised r => simp
  | unfinished => simp

/-! ## The wait of a flush -/

/-- What a flush waits for. -/
def flushWait (p : Flush) : Wait τ Raised SegmentStates :=
  paced p.pacing ("collections " ++ quotedNames p.collections ++ " to flush") unexpectedCode
    judgeFlush

/-- A round of the wait of a flush: its own call has succeeded, all earlier rounds were
pending, and in this one every collection with segments has been answered for. -/
inductive FlushRound (c : Client σ τ) (p : Flush) (w : World σ τ) (round : Nat)
    (answers : List (List Int × Response)) : Prop
  | intro (r : Response) (v u u' : World σ τ)
      (called : c.callOnce .flush p w = (.returned (.success (.message r)), v))
      (pends : (flushWait p).Pends c.pause (c.segmentStates (flushTargets r) []) v.clock 1 v
        round u)
      (answered : c.answers (flushTargets r) u = some (answers, u'))

open SegmentStates

/-- A round of the wait is complete exactly if all its collections are answered for and
the last report on every segment is that it is flushed. -/
theorem flush_verdict_ok_iff (p : Flush) (targets : List (String × List Int)) (start : τ)
    (round : Nat) (u : World σ τ) :
    (∃ e v, (flushWait p).verdict start round (c.segmentStates targets [] u) =
        some (.returned e, v) ∧ e.ok = true) ↔
      ∃ answers u', c.answers targets u = some (answers, u') ∧ LastFlushed (reports answers) := by
  rw [Wait.verdict_ok_iff _ _ _ fun e u' back ok => c.segmentStates_eq_success _ _ back ok]
  constructor
  · rintro ⟨states, u', probed, complete⟩
    obtain ⟨answers, answered, rfl⟩ := (c.segmentStates_eq_iff targets [] states u u').mp probed
    exact ⟨answers, u', answered, (judgeFlush_eq_complete_iff _).mp complete⟩
  · rintro ⟨answers, u', answered, flushed⟩
    exact ⟨_, u', (c.segmentStates_eq_iff targets [] _ u u').mpr ⟨answers, answered, rfl⟩,
      (judgeFlush_eq_complete_iff _).mpr flushed⟩

theorem FlushRound.iff_of_called {p : Flush} {w v : World σ τ} {r : Response}
    (called : c.callOnce .flush p w = (.returned (.success (.message r)), v)) (round : Nat)
    (answers : List (List Int × Response)) :
    c.FlushRound p w round answers ↔
      ∃ u u', (flushWait p).Pends c.pause (c.segmentStates (flushTargets r) []) v.clock 1 v round u ∧
        c.answers (flushTargets r) u = some (answers, u') := by
  constructor
  · rintro ⟨r', v', u, u', called', pends, answered⟩
    obtain ⟨rfl, rfl⟩ : r = r' ∧ v = v' := by simpa using called.symm.trans called'
    exact ⟨u, u', pends, answered⟩
  · rintro ⟨u, u', pends, answered⟩
    exact ⟨r, v, u, u', called, pends, answered⟩

/-- A waiting flush succeeds exactly if some round is complete. -/
theorem flush_ok_iff_round (fuel : Nat) (p : Flush) (w : World σ τ)
    (waits : p.pacing.waits = true) :
    (∃ e, (c.flush fuel p w).1 = .returned e ∧ e.ok = true) ↔
      ∃ round answers, round ≤ fuel ∧ c.FlushRound p w round answers ∧
        LastFlushed (reports answers) := by
  by_cases succeeded : ∃ r v, c.callOnce .flush p w = (.returned (.success (.message r)), v)
  · obtain ⟨r, v, called⟩ := succeeded
    have flushes : c.flush fuel p w = c.finish fuel (.success (.message r)) (flushWait p)
        (c.segmentStates (flushTargets r) []) v := by
      simp [flush, called, thenWait, waits, flushWait, Envelope.success, Envelope.ok]
    rw [flushes, finish_ok_iff c fuel rfl]
    simp only [FlushRound.iff_of_called c called]
    constructor
    · rintro ⟨e, v', ran, ok⟩
      obtain ⟨round, u, bound, pends, closes⟩ := (Wait.run_eq_iff (by simp) fuel 1 v).mp ran
      obtain ⟨answers, u', answered, flushed⟩ :=
        (c.flush_verdict_ok_iff p _ v.clock round u).mp ⟨e, v', closes, ok⟩
      exact ⟨round, answers, by omega, ⟨u, u', pends, answered⟩, flushed⟩
    · rintro ⟨round, answers, bound, ⟨u, u', pends, answered⟩, flushed⟩
      obtain ⟨e, v', closes, ok⟩ :=
        (c.flush_verdict_ok_iff p _ v.clock round u).mpr ⟨answers, u', answered, flushed⟩
      exact ⟨e, v', (Wait.run_eq_iff (by simp) fuel 1 v).mpr ⟨round, u, by omega, pends, closes⟩, ok⟩
  · -- Without a success there is no round, and nothing but the call's own ending.
    constructor
    · rintro ⟨e, ended, ok⟩
      by_cases went : (c.callOnce .flush p w).1.Succeeds
      · obtain ⟨e', back, whole⟩ := went
        have called : c.callOnce .flush p w = (.returned e', (c.callOnce .flush p w).2) :=
          Prod.ext back rfl
        obtain ⟨r, -, rfl⟩ := c.response_of_callOnce (m := p.request) rfl called whole
        exact absurd ⟨r, _, called⟩ succeeded
      · rw [flush, thenWait_of_not_succeeds _ went] at ended
        exact absurd ⟨e, ended, ok⟩ went
    · rintro ⟨round, answers, -, ⟨r, v, u, u', called, -, -⟩, -⟩
      exact absurd ⟨r, v, called⟩ succeeded

/-- No round comes after a complete one. -/
theorem FlushRound.le_of_lastFlushed {p : Flush} {w : World σ τ} {round later : Nat}
    {answers answers' : List (List Int × Response)} (reached : c.FlushRound p w round answers)
    (flushed : LastFlushed (reports answers)) (other : c.FlushRound p w later answers') :
    later ≤ round := by
  obtain ⟨r, v, u, u', called, pends, answered⟩ := reached
  obtain ⟨u₂, u₂', pends', -⟩ := (FlushRound.iff_of_called c called later answers').mp other
  obtain ⟨e, v', closes, -⟩ :=
    (c.flush_verdict_ok_iff p _ v.clock round u).mpr ⟨answers, u', answered, flushed⟩
  exact pends.le_of_verdict closes pends'

/-- **A waiting flush succeeds exactly if it comes to a round in which the last report on
every segment is that it is flushed.**  That round is the last one; all its reports are
of flushed segments exactly if those are that another one follows on the same segment. -/
theorem flush_ok_iff (fuel : Nat) (p : Flush) (w : World σ τ) (waits : p.pacing.waits = true) :
    ((∃ e, (c.perform fuel .flush p w).1 = .returned e ∧ e.ok = true) ↔
      ∃ round answers, round ≤ fuel ∧ c.FlushRound p w round answers ∧
        LastFlushed (reports answers)) ∧
    ∀ round answers, c.FlushRound p w round answers → LastFlushed (reports answers) →
      (∀ later answers', c.FlushRound p w later answers' → later ≤ round) ∧
      ((∀ e ∈ reports answers, e.2 = segmentFlushed) ↔
        ∀ e newer, e :: newer <:+ reports answers → (∃ later ∈ newer, later.1 = e.1) →
          e.2 = segmentFlushed) := by
  refine ⟨c.flush_ok_iff_round fuel p w waits, ?_⟩
  intro round answers reached flushed
  exact ⟨fun later answers' other => reached.le_of_lastFlushed c flushed other, flushed.all_iff⟩

/-! ## A flush that succeeds too early -/

/-- A client of a server that flushes one segment and reports it twice in every answer,
first in another state and then as flushed. -/
def twiceReporting : Client Unit Number where
  connection := ⟨"localhost", 1, .zero, none, .zero, false, .zero, none, false, none, none, none, []⟩
  server := ⟨fun _ call => match call.operation with
    | .flush => (⟨none, false, .response ⟨"FlushResponse",
        [("coll_segIDs", .entries [("c", .message [("data", .list [.int 1])])])]⟩⟩, ())
    | _ => (⟨none, false, .response ⟨"GetPersistentSegmentInfoResponse",
        [("infos", .list [.message [("segmentID", .int 1), ("state", .int 3)],
          .message [("segmentID", .int 1), ("state", .int 4)]])]⟩⟩, ()), fun _ => (false, ())⟩

/-- The answers of every round of a flush of that client. -/
def twiceReported : List (List Int × Response) :=
  [([1], ⟨"GetPersistentSegmentInfoResponse",
    [("infos", .list [.message [("segmentID", .int 1), ("state", .int 3)],
      .message [("segmentID", .int 1), ("state", .int 4)]])]⟩)]

theorem flushRound_twiceReporting :
    twiceReporting.FlushRound (Flush.waiting "c") (World.initial ()) 1 twiceReported :=
  ⟨_, _, _, _, rfl, .here _ _, rfl⟩

theorem flush_ok_twiceReporting :
    ∃ e, (twiceReporting.perform 1 .flush (Flush.waiting "c") (World.initial ())).1 =
      .returned e ∧ e.ok = true :=
  ⟨_, rfl, rfl⟩

theorem lastFlushed_twiceReported : LastFlushed (reports twiceReported) :=
  (judgeFlush_eq_complete_iff (ε := Raised) _).mp rfl

theorem flush_ok_iff_twiceReporting :
    ∃ round answers, round ≤ 1 ∧
      twiceReporting.FlushRound (Flush.waiting "c") (World.initial ()) round answers ∧
      LastFlushed (reports answers) :=
  (twiceReporting.flush_ok_iff 1 (Flush.waiting "c") (World.initial ()) rfl).1.mp
    flush_ok_twiceReporting

/-- A flush that succeeds can have a last round with a report that is not of a flushed segment. -/
theorem flush_ok_over_unflushed :
    ¬ ∀ (fuel : Nat) (p : Flush) (w : World Unit Number), p.pacing.waits = true →
      w.closed = false →
      (∃ e, (twiceReporting.perform fuel .flush p w).1 = .returned e ∧ e.ok = true) →
      ∀ round answers, twiceReporting.FlushRound p w round answers →
        (∀ later answers', twiceReporting.FlushRound p w later answers' → later ≤ round) →
        ∀ e ∈ reports answers, e.2 = segmentFlushed := by
  intro sound
  have last : ∀ later answers',
      twiceReporting.FlushRound (Flush.waiting "c") (World.initial ()) later answers' →
        later ≤ 1 := fun later answers' other =>
    flushRound_twiceReporting.le_of_lastFlushed _ lastFlushed_twiceReported other
  have flushed := sound 1 _ _ rfl rfl flush_ok_twiceReporting 1 twiceReported
    flushRound_twiceReporting last
  have early : (1, 3) ∈ reports twiceReported := .head _
  exact absurd (flushed _ early) (by decide)

end Client

end VectorClient
