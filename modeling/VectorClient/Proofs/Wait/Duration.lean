/-
# VectorClient.Proofs.Wait.Duration — how long a wait lasts

Nothing in a wait counts its rounds: it ends because time passes.  On a clock that is not
rounded, that never goes back, and that every sleep moves by what was asked for at least,
each round but the first uses up an interval (`Schedule.mul_le_elapsed`).  So the rounds
are as few as the time-out has intervals.

* `Wait.Bounded`: what a wait spends by its end.
* `Wait.exists_bounded`: every wait against a clock of this kind ends, and is bounded.
* `Wait.run_of_punctual`: how often it sleeps if nothing but its sleeps takes any time.
* `Pacing.ReadFrom.within`: accepted parameters ask for durations above zero.
* `wait_bounded`: the three together.
-/
import VectorClient.Proofs.Param.Bounds
import VectorClient.Proofs.Param.Storing
import VectorClient.Proofs.Wait.Schedules
import Mathlib.Data.Rat.Floor
import Mathlib.Tactic.Linarith
import Mathlib.Tactic.NormNum

namespace VectorClient

set_option autoImplicit false

open Number

/-! ## Durations that are not rounded -/

/-- The exact value of a finite double. -/
def Number.Double.rational? (d : Double) : Option ℚ := d.signedUnits?.map fun units => units / one

/-- Readings that are exact fractions; they are shown as the nearest doubles. -/
instance : Timeline ℚ where
  zero := 0
  add a b := a + b
  sub a b := a - b
  le a b := decide (a ≤ b)
  ofSeconds d := d.rational?.getD 0
  tenths q := (Double.ofFraction (q < 0) q.num.natAbs q.den).oneDecimal
  text q := (Double.ofFraction (q < 0) q.num.natAbs q.den).text

/-- A double is a duration that is finite, above zero, and at most a bound. -/
structure Number.Double.Within (most : Int) (d : Double) : Prop where
  finite : d.rational?.isSome = true
  positive : 0 < (Timeline.ofSeconds d : ℚ)
  bounded : (Timeline.ofSeconds d : ℚ) ≤ most

theorem Number.Double.within_of_lt_le {d : Double} {most : Int}
    (above : (Number.int 0).lt (.double d) = true)
    (bounded : (Number.double d).le (.int most) = true) : d.Within most := by
  obtain ⟨units, finite, positive⟩ := isPositive_iff.mp (isPositive_of_lt_le above bounded)
  have one_pos : (0 : ℚ) < one := Nat.cast_pos.mpr Double.one_pos
  have le : units ≤ most * one := by
    cases d with
    | nan | infinite negative => cases finite
    | finite negative rank =>
        obtain rfl := Option.some.inj finite
        exact of_decide_eq_true bounded
  have value : d.rational? = some (units / one : ℚ) := by rw [rational?, finite]; rfl
  have seconds : (Timeline.ofSeconds d : ℚ) = units / one := congrArg (Option.getD · 0) value
  constructor
  case finite => rw [value]; rfl
  case positive =>
    rw [seconds]
    exact div_pos (Int.cast_pos.mpr positive) one_pos
  case bounded =>
    rw [seconds, div_le_iff₀ one_pos]
    exact_mod_cast le

/-! ## What a wait spends -/

/-- How often was probed. -/
def probeCount {τ : Type} (events : List (Happening τ)) : Nat :=
  events.countP fun
    | .probed => true
    | _ => false

/-- The time that was asked to sleep for, in all. -/
def askedFor (events : List (Happening ℚ)) : ℚ :=
  (events.map fun
    | .slept duration => duration
    | _ => 0).sum

theorem happenings_succ {τ : Type} (interval : τ) (sleeps : Nat) :
    happenings interval (sleeps + 1) =
      .probed :: .slept interval :: happenings interval sleeps := by
  simp [happenings, List.replicate_succ]

theorem probeCount_happenings {τ : Type} (interval : τ) (sleeps : Nat) :
    probeCount (happenings interval sleeps) = sleeps + 1 := by
  induction sleeps with
  | zero => rfl
  | succ n ih => simpa [happenings_succ, probeCount] using ih

theorem askedFor_happenings (interval : ℚ) (sleeps : Nat) :
    askedFor (happenings interval sleeps) = sleeps * interval := by
  induction sleeps with
  | zero => simp [askedFor, happenings]
  | succ n ih =>
      have step : askedFor (happenings interval (n + 1)) =
          interval + askedFor (happenings interval n) := by
        simp [happenings_succ, askedFor]
      rw [step, ih]
      push_cast
      ring

namespace Schedule

variable {ε α : Type} (s : Schedule ℚ ε α)

/-- The clock never goes back, and every sleep moves it by what was asked for at least. -/
structure Steady (interval : ℚ) : Prop where
  probing : ∀ n, 0 ≤ s.probing n
  asleep : ∀ n, interval ≤ s.asleep n

/-- No probe raises, is no success, or brings anything that is decided. -/
def Unsettled (w : Wait ℚ ε α) : Prop :=
  ∀ n, ∃ e a, s.back n = .ok e ∧ e.payload? = some a ∧ w.judge a = .pending

/-- Probes take no time, and every sleep takes what was asked for. -/
structure Punctual (interval : ℚ) : Prop where
  probing : ∀ n, s.probing n = 0
  asleep : ∀ n, s.asleep n = interval

variable {s} {interval : ℚ} (start : ℚ)

theorem Steady.mul_le_beginning (steady : s.Steady interval) (n : Nat) :
    start + n * interval ≤ s.beginning start n := by
  induction n with
  | zero => simp [beginning]
  | succ n ih =>
      have probing := steady.probing n
      have asleep := steady.asleep (n + 1)
      show _ ≤ s.beginning start n + s.probing n + s.asleep (n + 1)
      push_cast
      linarith

/-- Every round but the first uses up an interval. -/
theorem Steady.mul_le_elapsed (steady : s.Steady interval) (n : Nat) :
    n * interval ≤ (s.sight start n).elapsed := by
  have begun := steady.mul_le_beginning start n
  have probing := steady.probing n
  show _ ≤ s.beginning start n + s.probing n - start
  linarith

theorem Punctual.beginning_eq (punctual : s.Punctual interval) (n : Nat) :
    s.beginning start n = start + n * interval := by
  induction n with
  | zero => simp [beginning]
  | succ n ih =>
      show s.beginning start n + s.probing n + s.asleep (n + 1) = _
      rw [ih, punctual.probing, punctual.asleep]
      push_cast
      ring

theorem Punctual.elapsed_eq (punctual : s.Punctual interval) (n : Nat) :
    (s.sight start n).elapsed = n * interval := by
  show s.beginning start n + s.probing n - start = _
  rw [punctual.beginning_eq, punctual.probing]
  ring

end Schedule

namespace Wait

variable {ε α : Type} (w : Wait ℚ ε α) (s : Schedule ℚ ε α) (start : ℚ)

/-- How many intervals the time-out has, the last one perhaps in part. -/
def intervals : Nat := ⌈w.timeout / w.interval⌉₊

/-- What a wait spends by its end.  If it ends for want of time, then the time is over, unless
it hands on what its last probe came back with. -/
structure Bounded (ending : Ending ε α) (v : World Nat ℚ) : Prop where
  finished : ending ≠ .unfinished
  probes : probeCount (v.eventsSince 0) ≤ w.intervals + 1
  asked : askedFor (v.eventsSince 0) < w.timeout + w.interval
  elapsed : ∀ e, ending = .returned e → e.status = .waitTimeout →
    w.timeout ≤ v.clock - start ∨
      ∃ n, probeCount (v.eventsSince 0) = n + 1 ∧ s.back n = .ok e

variable {w s start}

/-- The intervals of a time-out are as many as it takes. -/
theorem intervals_le_iff (positive : 0 < w.interval) {n : Nat} :
    w.intervals ≤ n ↔ w.timeout ≤ n * w.interval := by
  rw [intervals, Nat.ceil_le, div_le_iff₀ positive]

theorem mul_lt_of_le_intervals (positive : 0 < w.interval) (lasting : 0 < w.timeout) {n : Nat}
    (few : n ≤ w.intervals) : n * w.interval < w.timeout + w.interval := by
  have below : (n : ℚ) < w.timeout / w.interval + 1 :=
    (Nat.cast_le.mpr few).trans_lt (Nat.ceil_lt_add_one (div_nonneg lasting.le positive.le))
  calc n * w.interval < (w.timeout / w.interval + 1) * w.interval :=
        mul_lt_mul_of_pos_right below positive
    _ = w.timeout + w.interval := by rw [add_mul, div_mul_cancel₀ _ positive.ne', one_mul]

/-- An envelope that says that the time is over was either made in a round in which it was, or
came back from the probe. -/
theorem late_or_back_of_waitTimeout {seen : Sight ℚ ε α} {e : Envelope α}
    (ends : w.ending? seen = some (.returned e)) (timedOut : e.status = .waitTimeout) :
    w.timeout ≤ seen.elapsed ∨ seen.back = .ok e := by
  cases back : seen.back with
  | error error => simp [ending?_of_error back] at ends
  | ok result =>
      simp only [ending?, back, settle] at ends
      split at ends
      · cases ends
        exact .inr rfl
      · split at ends
        · cases ends
        · cases ends
          cases timedOut
        · cases ends
          exact .inr rfl
        · split at ends
          · rename_i late
            exact .inl (of_decide_eq_true late)
          · cases ends

/-- **A wait is over before its time-out has run out of intervals**, whatever it meets. -/
theorem exists_bounded (positive : 0 < w.interval) (lasting : 0 < w.timeout)
    (steady : s.Steady w.interval) :
    ∃ ending v, w.Bounded s start ending v ∧
      ∀ fuel, w.intervals < fuel → s.run w fuel start = (ending, v) := by
  have late : w.timeout ≤ (s.sight start w.intervals).elapsed :=
    ((intervals_le_iff positive).mp (Nat.le_refl _)).trans (steady.mul_le_elapsed start _)
  obtain ⟨_, ends⟩ : ∃ ending, w.ending? (s.sight start w.intervals) = some ending :=
    exists_ending_of_late (decide_eq_true late)
  rw [← s.sight_opening w] at ends
  obtain ⟨k, ending, few, pending, ends⟩ := exists_first ends
  simp only [s.sight_opening w] at pending ends
  obtain ⟨v, events, clock, ran⟩ := s.run_of_first w start pending ends
  refine ⟨ending, v, ?_, fun fuel bound => ran fuel (few.trans_lt bound)⟩
  constructor
  case finished => exact ending?_ne_unfinished ends
  case probes =>
    rw [events, probeCount_happenings]
    exact Nat.succ_le_succ few
  case asked =>
    rw [events, askedFor_happenings]
    exact mul_lt_of_le_intervals positive lasting few
  case elapsed =>
    rintro e rfl timedOut
    rw [clock, events, probeCount_happenings]
    apply (late_or_back_of_waitTimeout ends timedOut).imp_right
    intro back
    exact ⟨k, rfl, back⟩

/-- **A wait that nothing settles sleeps through its time-out**, if nothing but its sleeps takes
any time. -/
theorem run_of_punctual (positive : 0 < w.interval) (punctual : s.Punctual w.interval)
    (unsettled : s.Unsettled w) :
    ∃ v : World Nat ℚ, v.eventsSince 0 = happenings w.interval w.intervals ∧
      ∀ fuel, w.intervals < fuel →
        s.run w fuel start = (.returned (.waitTimeout w.timeoutMessage), v) := by
  have pending : ∀ m < w.intervals, w.ending? (s.sight start m) = none := by
    intro m before
    obtain ⟨e, a, back, holds, judged⟩ := unsettled m
    apply ending?_of_pending back holds judged
    apply decide_eq_false
    rw [punctual.elapsed_eq start, ← intervals_le_iff positive]
    exact Nat.not_le.mpr before
  have ends : w.ending? (s.sight start w.intervals) =
      some (.returned (.waitTimeout w.timeoutMessage)) := by
    obtain ⟨e, a, back, holds, judged⟩ := unsettled w.intervals
    apply ending?_of_late back holds judged
    apply decide_eq_true
    rw [punctual.elapsed_eq start, ← intervals_le_iff positive]
  obtain ⟨v, events, -, ran⟩ := s.run_of_first w start pending ends
  exact ⟨v, events, ran⟩

end Wait

/-! ## Accepted durations -/

theorem Codec.within_of_seconds {most : Int} {v : Value} {d : Double}
    (read : (seconds (some most)).read v = .accepted d) : d.Within most := by
  obtain ⟨bounded, -, above⟩ := Bounds.fault?_eq_none_iff.mp (checked_eq_accepted_iff.mp read).2
  exact Double.within_of_lt_le (above 0 rfl) (bounded most rfl)

namespace Pacing

/-- The interval and the time to wait are finite, above zero, and within their limits. -/
structure Within (limits : Limits) (p : Pacing) : Prop where
  interval : p.interval.Within limits.maxInterval
  timeout : p.timeout.Within limits.maxTimeout

theorem ReadFrom.within {kw : Keywords} {limits : Limits} {p : Pacing}
    (readFrom : p.ReadFrom kw limits) (allow : limits.AllowDefaults) : p.Within limits := by
  obtain ⟨interval, timeout⟩ := readFrom.ensures
    (Double.Within limits.maxInterval) (Double.Within limits.maxTimeout)
    (fun _ _ => Codec.within_of_seconds) (Codec.within_of_seconds allow.interval)
    (fun _ _ => Codec.within_of_seconds) (Codec.within_of_seconds allow.timeout)
  exact ⟨interval, timeout⟩

end Pacing

/-! ## Together -/

/-- **Waits are short.**  With an interval and a time-out above zero, whatever the probes bring
and however late sleeps end: a wait ends, having probed at most once more than its time-out has
intervals, having asked for sleeps that are shorter in all than the time-out and an interval,
and having let the time-out pass if it says so by itself.  If nothing settles it and only sleeps
take time, it says so after as many sleeps as the time-out has intervals.  And accepted
parameters do ask for an interval and a time-out above zero. -/
theorem wait_bounded {ε α : Type} (w : Wait ℚ ε α) (s : Schedule ℚ ε α) (start : ℚ)
    (positive : 0 < w.interval) (lasting : 0 < w.timeout) :
    (s.Steady w.interval → ∃ ending v, w.Bounded s start ending v ∧
      ∀ fuel, w.intervals < fuel → s.run w fuel start = (ending, v)) ∧
    (s.Punctual w.interval → s.Unsettled w →
      ∃ v : World Nat ℚ, v.eventsSince 0 = happenings w.interval w.intervals ∧
        ∀ fuel, w.intervals < fuel →
          s.run w fuel start = (.returned (.waitTimeout w.timeoutMessage), v)) ∧
    ∀ title kw,
      (∀ p, (CollectionLoad.blueprint title).build kw = .accepted p → p.pacing.Within .load) ∧
      (∀ p, (PartitionLoad.blueprint title).build kw = .accepted p → p.pacing.Within .load) ∧
      (∀ p, (Flush.blueprint title).build kw = .accepted p → p.pacing.Within .flush) ∧
      ∀ p, (IndexBuild.blueprint title).build kw = .accepted p → p.pacing.Within .index := by
  refine ⟨Wait.exists_bounded positive lasting, Wait.run_of_punctual positive, ?_⟩
  intro title kw
  refine ⟨?_, ?_, ?_, ?_⟩
  · intro p built
    exact (CollectionLoad.pacing_of_build built).within Pacing.Limits.allowDefaults_load
  · intro p built
    exact (PartitionLoad.pacing_of_build built).within Pacing.Limits.allowDefaults_load
  · intro p built
    exact (Flush.pacing_of_build built).within Pacing.Limits.allowDefaults_flush
  · intro p built
    exact (IndexBuild.pacing_of_build built).within Pacing.Limits.allowDefaults_index

/-- Waits for a number to reach a hundred, for two seconds, and looks every half second. -/
def everyHalfSecond : Wait ℚ String Int where
  description := "test operation"
  interval := 1 / 2
  timeout := 2
  failureCode := 1
  judge := .ofPredicates (fun _ => none) fun n => decide (100 ≤ n)

/-- Ten is all that the probes ever bring. -/
def neverSettled : Schedule ℚ String Int where
  back _ := .ok (.success 10)
  probing _ := 0
  asleep _ := 1 / 2
  whole n e back _ := by cases back; rfl

/-- The longest waits that may be asked for. -/
def longestLoad : Keywords :=
  [("collection_name", .text "c"), ("sync_load_waiting_interval", Value.int 2),
    ("sync_load_waiting_timeout", Value.int 300)]

theorem wait_bounded_neverSettled :
    (∃ ending v, (probeCount (v.eventsSince 0) ≤ 5 ∧ askedFor (v.eventsSince 0) < 5 / 2) ∧
      neverSettled.run everyHalfSecond 5 0 = (ending, v)) ∧
    (∃ v : World Nat ℚ, v.eventsSince 0 = happenings (1 / 2) 4 ∧
      neverSettled.run everyHalfSecond 5 0 =
        (.returned (.waitTimeout everyHalfSecond.timeoutMessage), v)) ∧
    ∃ p, (CollectionLoad.blueprint "load").build longestLoad = .accepted p ∧
      p.pacing.Within .load := by
  have intervals : everyHalfSecond.intervals = 4 := by
    rw [Wait.intervals, Nat.ceil_eq_iff (by decide)]
    constructor <;> norm_num [everyHalfSecond]
  have punctual : neverSettled.Punctual everyHalfSecond.interval := ⟨fun _ => rfl, fun _ => rfl⟩
  obtain ⟨bounded, sleeping, accepted⟩ := wait_bounded everyHalfSecond neverSettled 0
    (by norm_num [everyHalfSecond]) (by norm_num [everyHalfSecond])
  rw [intervals] at bounded sleeping
  refine ⟨?_, ?_, ?_⟩
  · obtain ⟨ending, v, spent, ran⟩ := bounded ⟨fun _ => le_refl _, fun _ => le_refl _⟩
    have few := spent.probes
    have asked := spent.asked
    rw [intervals] at few
    norm_num [everyHalfSecond] at asked
    exact ⟨ending, v, ⟨few, asked⟩, ran 5 (by decide)⟩
  · obtain ⟨v, events, ran⟩ := sleeping punctual fun _ => ⟨_, 10, rfl, rfl, by decide⟩
    exact ⟨v, events, ran 5 (by decide)⟩
  · have built : (CollectionLoad.blueprint "load").build longestLoad =
        .accepted ⟨"c", false, Double.ofInt 2, Double.ofInt 300⟩ :=
      Verdict.accepted?_eq_some_iff.mp (by decide +kernel)
    exact ⟨_, built, (accepted "load" longestLoad).1 _ built⟩

/-- A probe that has timed out by itself. -/
def impatient : Schedule ℚ String Int where
  back _ := .ok (.waitTimeout "inner")
  probing _ := 0
  asleep _ := 1 / 2
  whole n e back ok := by cases back; cases ok

/-- A probe's own time-out is handed on as it is, however little time has passed. -/
theorem wait_handsOn_waitTimeout :
    impatient.Steady everyHalfSecond.interval ∧
      ∃ v : World Nat ℚ, impatient.run everyHalfSecond 5 0 = (.returned (.waitTimeout "inner"), v) ∧
        v.clock - 0 < everyHalfSecond.timeout := by
  refine ⟨⟨fun _ => le_refl _, fun _ => le_refl _⟩, _, rfl, ?_⟩
  show (0 : ℚ) + 0 - 0 < 2
  norm_num

end VectorClient
