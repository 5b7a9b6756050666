/-
# VectorClient.Proofs.Wait.Schedules — waits against any course of events

A `Schedule` fixes beforehand all that a wait can meet: how each of its probes comes back,
how long it takes, and how long each sleep really lasts.  Any run of a wait is the run
against some schedule, so what is said of all schedules is said of all runs, whatever the
clock is made of.

* `Schedule.opens`: the world in which each round begins, in closed form.
* `Criteria.Decisive`, `Criteria.ending`: which rounds end a wait for something that is
  judged by predicates, and how; both are said without running it.
* `Criteria.run_endsAtFirst`: such a wait ends at its first decisive round, as that round
  says, after so many probes with one sleep between each two, and whatever comes later.
-/
import VectorClient.Proofs.Wait.Openings

namespace VectorClient

set_option autoImplicit false

/-! ## Events -/

namespace World

variable {σ τ : Type} {w w' : World σ τ}

theorem events_of_probed (grown : w'.trace = .probed :: w.trace) :
    w'.eventsSince 0 = w.eventsSince 0 ++ [.probed] := by
  simp [World.eventsSince, grown]

theorem events_of_slept {duration : τ} (grown : w'.trace = .slept duration :: w.trace) :
    w'.eventsSince 0 = w.eventsSince 0 ++ [.slept duration] := by
  simp [World.eventsSince, grown]

/-- Records are no events. -/
theorem events_note (r? : Option (LogRecord τ)) :
    (Wait.note r? w).eventsSince 0 = w.eventsSince 0 := by
  cases r? <;> simp [World.eventsSince, Wait.note]

end World

/-! ## Schedules -/

/-- What a wait meets, fixed beforehand: how each probe comes back and the time it takes, and
the time that passes in the sleep before each probe but the first. -/
structure Schedule (τ ε α : Type) where
  back : Nat → Except ε (Envelope α)
  probing : Nat → τ
  asleep : Nat → τ
  /-- A success has a payload. -/
  whole : ∀ n e, back n = .ok e → e.ok = true → e.data.isSome = true

/-- So many sleeps of an interval, a probe before each and one after the last. -/
def happenings {τ : Type} (interval : τ) (sleeps : Nat) : List (Happening τ) :=
  (List.replicate sleeps [.probed, .slept interval]).flatten ++ [.probed]

namespace Schedule

variable {τ ε α : Type} [Timeline τ] (s : Schedule τ ε α)

/-- The world before a wait, with the given reading on its clock.  Its server counts probes. -/
def world (start : τ) : World Nat τ := ⟨0, start, false, 0, []⟩

/-- Takes the next probe. -/
def probe (w : World Nat τ) : Except ε (Envelope α) × World Nat τ :=
  (s.back w.server,
    { (w.record .probed).advance (s.probing w.server) with server := w.server + 1 })

theorem clock_probe (w : World Nat τ) :
    (s.probe w).2.clock = Timeline.add w.clock (s.probing w.server) := rfl

/-- Sleeps before the next probe. -/
def pause (interval : τ) (w : World Nat τ) : World Nat τ :=
  (w.record (.slept interval)).advance (s.asleep w.server)

/-- Runs a wait against the schedule, from a reading of the clock. -/
def run (wait : Wait τ ε α) (fuel : Nat) (start : τ) : Ending ε α × World Nat τ :=
  wait.run s.pause s.probe start fuel 1 (world start)

/-- The reading at the beginning of each round. -/
def beginning (start : τ) : Nat → τ
  | 0 => start
  | n + 1 => Timeline.add (Timeline.add (beginning start n) (s.probing n)) (s.asleep (n + 1))

/-- The reading at the end of each probe. -/
def reading (start : τ) (n : Nat) : τ := Timeline.add (s.beginning start n) (s.probing n)

/-- What is seen in each round. -/
def sight (start : τ) (n : Nat) : Sight τ ε α :=
  ⟨s.back n, Timeline.sub (s.reading start n) start⟩

/-- The schedule goes as another one, up to a round and with it. -/
structure AgreesUpTo (k : Nat) (other : Schedule τ ε α) : Prop where
  back : ∀ n ≤ k, s.back n = other.back n
  probing : ∀ n ≤ k, s.probing n = other.probing n
  asleep : ∀ n ≤ k, s.asleep n = other.asleep n

/-! ## The rounds of a schedule -/

/-- What happened by the beginning of a round. -/
structure Opens (wait : Wait τ ε α) (start : τ) (n : Nat) (w : World Nat τ) : Prop where
  server : w.server = n
  clock : w.clock = s.beginning start n
  events : w.eventsSince 0 = (List.replicate n [.probed, .slept wait.interval]).flatten

variable (wait : Wait τ ε α) (start : τ)

/-- Every round that comes to be begins so. -/
theorem opens (n : Nat) :
    s.Opens wait start n (wait.opening s.pause s.probe (world start) n) := by
  induction n with
  | zero => exact ⟨rfl, rfl, rfl⟩
  | succ n ih =>
      rw [Wait.opening]
      generalize wait.opening s.pause s.probe (world start) n = w at ih
      obtain ⟨rfl, clock, events⟩ := ih
      constructor
      case server => rfl
      case clock =>
        show Timeline.add (Timeline.add w.clock _) _ = _
        rw [clock]
        rfl
      case events =>
        have probed : (s.probe w).2.eventsSince 0 = w.eventsSince 0 ++ [.probed] :=
          World.events_of_probed rfl
        have noted : ((s.probe w).2.log (.waiting wait.description (w.server + 1))).eventsSince 0 =
            (s.probe w).2.eventsSince 0 := World.events_note (some _)
        rw [World.events_of_slept rfl, noted, probed, events, List.replicate_succ']
        simp

theorem sight_opening (n : Nat) :
    wait.sight s.pause s.probe (world start) n = s.sight start n := by
  obtain ⟨server, clock, -⟩ := s.opens wait start n
  simp only [Wait.sight, sight, clock_probe, server, clock, reading]
  simp only [probe, server]
  rfl

/-- A wait against a schedule ends at the first round that ends it, however long the supply. -/
theorem run_of_first {k : Nat} {ending : Ending ε α}
    (pending : ∀ m < k, wait.ending? (s.sight start m) = none)
    (ends : wait.ending? (s.sight start k) = some ending) :
    ∃ v : World Nat τ, v.eventsSince 0 = happenings wait.interval k ∧
      v.clock = s.reading start k ∧ ∀ fuel, k < fuel → s.run wait fuel start = (ending, v) := by
  simp only [← s.sight_opening wait] at pending ends
  obtain ⟨server, clock, events⟩ := s.opens wait start k
  refine ⟨_, ?_, ?_, fun fuel bound => Wait.run_eq_of_first bound pending ends⟩
  · rw [World.events_note, World.events_of_probed rfl, events, happenings]
  · rw [Wait.clock_note, clock_probe, server, clock, reading]

/-- Schedules that agree up to a round begin it in one world. -/
theorem opening_of_agrees {other : Schedule τ ε α} {k : Nat} (agrees : s.AgreesUpTo k other) :
    ∀ n ≤ k, wait.opening s.pause s.probe (world start) n =
      wait.opening other.pause other.probe (world start) n
  | 0, _ => rfl
  | n + 1, before => by
      have server : (wait.opening other.pause other.probe (world start) n).server = n :=
        (other.opens wait start n).server
      rw [Wait.opening, Wait.opening, opening_of_agrees agrees n (Nat.le_of_succ_le before)]
      generalize wait.opening other.pause other.probe (world start) n = w at server
      subst server
      simp only [pause, probe, World.log, World.record, World.advance,
        agrees.probing _ (Nat.le_of_succ_le before), agrees.asleep _ before]

/-- What comes after the round that ends a wait is not seen. -/
theorem run_of_agrees {other : Schedule τ ε α} {k fuel : Nat} {ending : Ending ε α}
    (agrees : s.AgreesUpTo k other) (bound : k < fuel)
    (pending : ∀ m < k, wait.ending? (s.sight start m) = none)
    (ends : wait.ending? (s.sight start k) = some ending) :
    other.run wait fuel start = s.run wait fuel start := by
  have probed : ∀ n ≤ k, s.probe (wait.opening s.pause s.probe (world start) n) =
      other.probe (wait.opening other.pause other.probe (world start) n) := by
    intro n within
    have server := (other.opens wait start n).server
    rw [s.opening_of_agrees wait start agrees n within]
    simp only [probe, server, agrees.back n within, agrees.probing n within]
  have seen : ∀ n ≤ k, wait.sight s.pause s.probe (world start) n =
      wait.sight other.pause other.probe (world start) n := by
    intro n within
    simp only [Wait.sight, probed n within]
  simp only [← s.sight_opening wait] at pending ends
  have mine : s.run wait fuel start = _ := Wait.run_eq_of_first bound pending ends
  rw [seen k (Nat.le_refl k)] at ends
  have theirs : other.run wait fuel start = _ := Wait.run_eq_of_first bound
    (fun m before => seen m (Nat.le_of_lt before) ▸ pending m before) ends
  rw [theirs, mine, seen k (Nat.le_refl k), probed k (Nat.le_refl k)]

end Schedule

/-! ## Waits that are judged by predicates -/

/-- What to wait for, said by predicates: when it is complete, and perhaps when it has failed
and why. -/
structure Criteria (τ α : Type) where
  description : String
  interval : τ
  timeout : τ
  failureCode : Int
  complete : α → Bool
  failed? : Option (α → Option String)

namespace Criteria

variable {τ ε α : Type} [Timeline τ] (c : Criteria τ α)

/-- The reason to fail that a payload gives, if failures are looked for at all. -/
def reason? (a : α) : Option String := c.failed?.bind fun failed => failed a

/-- The wait that looks for failures first, and then for completion. -/
def wait : Wait τ ε α where
  description := c.description
  interval := c.interval
  timeout := c.timeout
  failureCode := c.failureCode
  judge := .ofPredicates c.reason? c.complete

/-- A round is decisive: its probe raises or is no success, or its payload has failed or is
complete, or the time is over at its end. -/
def Decisive (seen : Sight τ ε α) : Prop :=
  match seen.back with
  | .error _ => True
  | .ok e => e.ok = false ∨ (e.data.bind c.reason?).isSome = true ∨
      e.data.any c.complete = true ∨ Timeline.le c.timeout seen.elapsed = true

instance : (seen : Sight τ ε α) → Decidable (c.Decisive seen)
  | ⟨.error _, _⟩ => .isTrue trivial
  | ⟨.ok e, elapsed⟩ => inferInstanceAs (Decidable (e.ok = false ∨
      (e.data.bind c.reason?).isSome = true ∨ e.data.any c.complete = true ∨
      Timeline.le c.timeout elapsed = true))

/-- How a decisive round ends the wait: what the probe raised; the probe's own envelope if it is
no success; an error if the payload has failed; the probe's envelope if it is complete; and
otherwise that the wait has taken too long. -/
def ending (seen : Sight τ ε α) : Ending ε α :=
  match seen.back with
  | .error error => .raised error
  | .ok e =>
      if e.ok = false then .returned e
      else match e.data.bind c.reason? with
        | some reason => .returned (.serverError c.failureCode reason)
        | none =>
            if e.data.any c.complete then .returned e
            else .returned (.waitTimeout ("Waiting for " ++ c.description ++ " timed out after " ++
              Timeline.text c.timeout ++ " seconds"))

omit [Timeline τ] in
theorem judge_of_reason {a : α} {r : String} (reason : c.reason? a = some r) :
    (c.wait : Wait τ ε α).judge a = .failed r := by
  simp [wait, Judgement.ofPredicates, reason]

omit [Timeline τ] in
theorem judge_of_no_reason {a : α} (reason : c.reason? a = none) :
    (c.wait : Wait τ ε α).judge a = if c.complete a then .complete else .pending := by
  simp [wait, Judgement.ofPredicates, reason]

section Seen

variable {seen : Sight τ ε α}
  (whole : ∀ e, seen.back = .ok e → e.ok = true → e.data.isSome = true)

include whole

/-- Decisive rounds end the wait, as it is said. -/
theorem ending?_eq_ending (decisive : c.Decisive seen) :
    c.wait.ending? seen = some (c.ending seen) := by
  cases back : seen.back with
  | error error =>
      rw [Wait.ending?_of_error back]
      simp [ending, back]
  | ok e =>
      cases ok : e.ok with
      | false =>
          rw [Wait.ending?_of_not_ok back ok]
          simp [ending, back, ok]
      | true =>
          obtain ⟨a, data⟩ := Option.isSome_iff_exists.mp (whole e back ok)
          have holds : e.payload? = some a := by simp [Envelope.payload?, ok, data]
          cases reason : c.reason? a with
          | some r =>
              rw [Wait.ending?_of_failed back holds (c.judge_of_reason reason)]
              simp [ending, back, ok, data, reason, wait]
          | none =>
              have judged := (c.judge_of_no_reason reason : (c.wait : Wait τ ε α).judge a = _)
              by_cases complete : c.complete a = true
              · rw [Wait.ending?_of_complete back holds (judged.trans (if_pos complete))]
                simp [ending, back, ok, data, reason, complete]
              · have late : Timeline.le c.timeout seen.elapsed = true := by
                  simpa [Decisive, back, ok, data, reason, complete] using decisive
                rw [Wait.ending?_of_late back holds (judged.trans (if_neg complete)) late]
                simp [ending, back, ok, data, reason, complete, Wait.timeoutMessage, wait]

/-- Other rounds do not end it. -/
theorem ending?_eq_none (undecided : ¬ c.Decisive seen) : c.wait.ending? seen = none := by
  cases back : seen.back with
  | error error => simp [Decisive, back] at undecided
  | ok e =>
      simp only [Decisive, back, not_or, Bool.not_eq_false, Bool.not_eq_true] at undecided
      obtain ⟨ok, notFailed, incomplete, inTime⟩ := undecided
      obtain ⟨a, data⟩ := Option.isSome_iff_exists.mp (whole e back ok)
      have holds : e.payload? = some a := by simp [Envelope.payload?, ok, data]
      have reason : c.reason? a = none := by simpa [data] using notFailed
      have notComplete : ¬ c.complete a = true := by simpa [data] using incomplete
      exact Wait.ending?_of_pending back holds
        ((c.judge_of_no_reason reason).trans (if_neg notComplete)) inTime

end Seen

/-- **A wait ends at its first decisive round**, as that round says, however long the supply of
rounds is.  By then it has probed in every round up to that one, with one sleep between each two
probes; and what a schedule holds for later rounds makes no difference. -/
theorem run_endsAtFirst (s : Schedule τ ε α) (start : τ) (k : Nat)
    (before : ∀ m < k, ¬ c.Decisive (s.sight start m)) (decisive : c.Decisive (s.sight start k)) :
    ∃ v : World Nat τ, v.eventsSince 0 = happenings c.interval k ∧
      v.clock = s.reading start k ∧
      ∀ (other : Schedule τ ε α) (fuel : Nat), s.AgreesUpTo k other → k < fuel →
        other.run c.wait fuel start = (c.ending (s.sight start k), v) := by
  have ends := c.ending?_eq_ending (s.whole k) decisive
  have pending := fun m early => c.ending?_eq_none (s.whole m) (before m early)
  obtain ⟨v, events, clock, ran⟩ := s.run_of_first c.wait start pending ends
  refine ⟨v, events, clock, ?_⟩
  intro other fuel agrees bound
  rw [s.run_of_agrees c.wait start agrees bound pending ends]
  exact ran fuel bound

/-- A number is waited for to reach a hundred, for two seconds; below zero it has failed, for
no reason that is said. -/
def hundred : Criteria Number Int where
  description := "test operation"
  interval := .int 1
  timeout := .int 2
  failureCode := 1
  complete n := decide (100 ≤ n)
  failed? := some fun n => if n < 0 then some "" else none

/-- A hundred is reached in the second round, whose probe ends just when the time is over. -/
def reachingInTime : Schedule Number String Int where
  back n := if n = 0 then .ok (.success 40) else .ok (.success 100)
  probing n := if n = 0 then .int 0 else .int 1
  asleep _ := .int 1
  whole n e back _ := by
    split at back <;> cases back <;> rfl

/-- The same, but that its third probe would raise. -/
def raisingLater : Schedule Number String Int where
  back n := if n = 2 then .error "unseen" else reachingInTime.back n
  probing := reachingInTime.probing
  asleep := reachingInTime.asleep
  whole n e back ok := by
    split at back
    · cases back
    · exact reachingInTime.whole n e back ok

theorem run_endsAtFirst_reachingInTime :
    ∃ v : World Nat Number, raisingLater.run hundred.wait 9 (.int 0) =
        (.returned (.success 100), v) ∧
      v.eventsSince 0 = [.probed, .slept (.int 1), .probed] ∧
      Timeline.le hundred.timeout (reachingInTime.sight (.int 0) 1).elapsed = true := by
  obtain ⟨v, events, -, ran⟩ := hundred.run_endsAtFirst reachingInTime (.int 0) 1
    (by decide +kernel) (by decide +kernel)
  have agrees : reachingInTime.AgreesUpTo 1 raisingLater := by
    refine ⟨fun n within => ?_, fun _ _ => rfl, fun _ _ => rfl⟩
    exact (if_neg (by omega)).symm
  exact ⟨v, ran raisingLater 9 agrees (by decide), events, by decide +kernel⟩

end Criteria

end VectorClient
