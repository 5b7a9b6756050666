/-
# VectorClient.Proofs.Wait.Openings — a wait as a sequence of rounds

As long as no round ends a wait, its rounds begin in worlds that can be written
down beforehand (`Wait.opening`), and so can what is seen in each of them: how
the probe comes back, and how long the wait has lasted by then (`Wait.sight`).
What comes of the wait is said of this sequence, without running it.

* `Wait.ending?`: how a sight ends the wait, if it does.
* `run_eq_of_first`: the first sight that ends the wait is the last one, and the
  wait ends as it says.
* `run_eq_of_none`: rounds that do not end the wait use up their supply.
* `exists_run_eq`: a wait has ended once the time is over.
* `run_eq_raised`: what it raises, one of its probes has raised.
-/
import VectorClient.Proofs.Wait.Rounds
import Mathlib.Data.Nat.Find

namespace VectorClient

set_option autoImplicit false

/-- What is seen in one round of a wait. -/
structure Sight (τ ε α : Type) where
  back : Except ε (Envelope α)
  /-- The time from before the first probe to the end of this one. -/
  elapsed : τ

namespace Wait

variable {σ τ ε α : Type} [Timeline τ] (w : Wait τ ε α)

/-! ## What a sight says -/

/-- How a sight ends the wait, if it does. -/
def ending? (seen : Sight τ ε α) : Option (Ending ε α) :=
  match seen.back with
  | .error error => some (.raised error)
  | .ok result => (w.settle 1 seen.elapsed result).1

/-- What a round logs. -/
def record? (round : Nat) (seen : Sight τ ε α) : Option (LogRecord τ) :=
  match seen.back with
  | .error _ => none
  | .ok result => (w.settle round seen.elapsed result).2

/-- The number of a round only shows in the log. -/
theorem fst_settle (round : Nat) (elapsed : τ) (result : Envelope α) :
    (w.settle round elapsed result).1 = (w.settle 1 elapsed result).1 := by
  unfold settle
  split
  · rfl
  · split
    · rfl
    · rfl
    · rfl
    · split <;> rfl

/-- A round that does not end the wait logs that it goes on. -/
theorem snd_settle_of_none (round : Nat) {elapsed : τ} {result : Envelope α}
    (pending : (w.settle round elapsed result).1 = none) :
    (w.settle round elapsed result).2 = some (.waiting w.description round) := by
  unfold settle at pending ⊢
  split at pending
  · cases pending
  · split at pending
    · cases pending
    · cases pending
    · cases pending
    · split at pending
      · cases pending
      · rename_i inTime
        rw [if_neg inTime]

/-- Only a success does not end the wait. -/
theorem ok_of_pending {round : Nat} {elapsed : τ} {result : Envelope α}
    (pending : (w.settle round elapsed result).1 = none) : result.ok = true := by
  by_contra failed
  simp [settle, Envelope.payload?_of_not_ok (by simpa using failed)] at pending

section Sights

variable {w} {seen : Sight τ ε α} {a : α}

/-- Only a payload that is judged pending, in time, does not end the wait. -/
theorem ending?_eq_none_iff {e : Envelope α} (back : seen.back = .ok e) :
    w.ending? seen = none ↔
      ∃ a, e.payload? = some a ∧ w.judge a = .pending ∧
        Timeline.le w.timeout seen.elapsed = false := by
  simp only [ending?, back, settle]
  cases e.payload? with
  | none => simp
  | some a =>
      cases judged : w.judge a with
      | pending => cases late : Timeline.le w.timeout seen.elapsed <;> simp [judged]
      | complete => simp [judged]
      | failed reason => simp [judged]
      | broken error => simp [judged]

/-- A probe that is no success ends the wait with its own envelope. -/
theorem ending?_of_not_ok {e : Envelope α} (back : seen.back = .ok e) (failed : e.ok = false) :
    w.ending? seen = some (.returned e) := by
  simp [ending?, back, settle, Envelope.payload?_of_not_ok failed]

theorem ending?_of_error {error : ε} (back : seen.back = .error error) :
    w.ending? seen = some (.raised error) := by
  simp [ending?, back]

variable {e : Envelope α} (back : seen.back = .ok e) (holds : e.payload? = some a)

include back holds

theorem ending?_of_failed {reason : String} (judged : w.judge a = .failed reason) :
    w.ending? seen = some (.returned (.serverError w.failureCode reason)) := by
  simp [ending?, back, settle, holds, judged]

theorem ending?_of_complete (judged : w.judge a = .complete) :
    w.ending? seen = some (.returned e) := by
  simp [ending?, back, settle, holds, judged]

theorem ending?_of_late (judged : w.judge a = .pending)
    (late : Timeline.le w.timeout seen.elapsed = true) :
    w.ending? seen = some (.returned (.waitTimeout w.timeoutMessage)) := by
  simp [ending?, back, settle, holds, judged, late]

/-- A success that is judged pending, in time, does not end the wait. -/
theorem ending?_of_pending (judged : w.judge a = .pending)
    (inTime : Timeline.le w.timeout seen.elapsed = false) : w.ending? seen = none :=
  (ending?_eq_none_iff back).mpr ⟨a, holds, judged, inTime⟩

end Sights

/-! ## The rounds of a wait -/

variable (pause : τ → World σ τ → World σ τ)
  (probe : World σ τ → Except ε (Envelope α) × World σ τ) (first : World σ τ)

/-- The world in which each round begins if no earlier one ends the wait, the rounds
counted from zero. -/
def opening : Nat → World σ τ
  | 0 => first
  | n + 1 => pause w.interval ((probe (opening n)).2.log (.waiting w.description (n + 1)))

/-- What is seen in each round. -/
def sight (n : Nat) : Sight τ ε α :=
  let probed := probe (w.opening pause probe first n)
  ⟨probed.1, Timeline.sub probed.2.clock first.clock⟩

variable {w pause probe first}

/-- A round that does not end the wait is followed by a sleep and the next one. -/
theorem run_succ_of_none {fuel n : Nat}
    (pending : w.ending? (w.sight pause probe first n) = none) :
    w.run pause probe first.clock (fuel + 1) (n + 1) (w.opening pause probe first n) =
      w.run pause probe first.clock fuel (n + 2) (w.opening pause probe first (n + 1)) := by
  rw [run_succ, opening]
  simp only [sight, ending?] at pending
  generalize probe (w.opening pause probe first n) = probed at pending ⊢
  obtain ⟨back, world⟩ := probed
  cases back with
  | error error => cases pending
  | ok result =>
      dsimp only at pending
      rw [← w.fst_settle (n + 1)] at pending
      have record := w.snd_settle_of_none (n + 1) pending
      have settled : w.settle (n + 1) (Timeline.sub world.clock first.clock) result =
          (none, some (.waiting w.description (n + 1))) := Prod.ext pending record
      simp only [conclude, settled, note]

/-- A round that ends the wait is the last one. -/
theorem run_succ_of_some {fuel n : Nat} {ending : Ending ε α}
    (ends : w.ending? (w.sight pause probe first n) = some ending) :
    w.run pause probe first.clock (fuel + 1) (n + 1) (w.opening pause probe first n) =
      (ending, note (w.record? (n + 1) (w.sight pause probe first n))
        (probe (w.opening pause probe first n)).2) := by
  rw [run_succ]
  simp only [sight, ending?, record?] at ends ⊢
  generalize probe (w.opening pause probe first n) = probed at ends ⊢
  obtain ⟨back, world⟩ := probed
  cases back with
  | error error =>
      cases ends
      rfl
  | ok result =>
      dsimp only at ends
      rw [← w.fst_settle (n + 1)] at ends
      simp only [conclude]
      split
      · rename_i settled
        simp only [settled, Option.some.injEq] at ends ⊢
        rw [ends]
      · rename_i settled
        simp [settled] at ends

/-- The wait comes to the opening of a round if no round before it ends the wait. -/
theorem run_opening (fuel : Nat) :
    ∀ {n : Nat}, (∀ m < n, w.ending? (w.sight pause probe first m) = none) →
      w.run pause probe first.clock (n + fuel) 1 first =
        w.run pause probe first.clock fuel (n + 1) (w.opening pause probe first n)
  | 0, _ => by rw [Nat.zero_add]; rfl
  | n + 1, pending => by
      have before := run_opening (fuel + 1) fun m less => pending m (Nat.lt_succ_of_lt less)
      rw [Nat.succ_add_eq_add_succ, before, run_succ_of_none (pending n (Nat.lt_succ_self n))]

/-- **The first sight that ends the wait is the last one**, and the wait ends as it says. -/
theorem run_eq_of_first {fuel n : Nat} {ending : Ending ε α} (bound : n < fuel)
    (pending : ∀ m < n, w.ending? (w.sight pause probe first m) = none)
    (ends : w.ending? (w.sight pause probe first n) = some ending) :
    w.run pause probe first.clock fuel 1 first =
      (ending, note (w.record? (n + 1) (w.sight pause probe first n))
        (probe (w.opening pause probe first n)).2) := by
  obtain ⟨more, rfl⟩ : ∃ more, fuel = n + (more + 1) := ⟨fuel - n - 1, by omega⟩
  rw [run_opening (more + 1) pending, run_succ_of_some ends]

/-- Rounds that do not end the wait use up their supply. -/
theorem run_eq_of_none {fuel : Nat}
    (pending : ∀ m < fuel, w.ending? (w.sight pause probe first m) = none) :
    w.run pause probe first.clock fuel 1 first =
      (.unfinished, w.opening pause probe first fuel) := by
  have reached := run_opening 0 pending
  rwa [Nat.add_zero] at reached

/-! ## Waits that end -/

/-- Where some round ends the wait, one is the first to do so. -/
theorem exists_first {n : Nat} {ending : Ending ε α}
    (ends : w.ending? (w.sight pause probe first n) = some ending) :
    ∃ m ending', m ≤ n ∧ (∀ k < m, w.ending? (w.sight pause probe first k) = none) ∧
      w.ending? (w.sight pause probe first m) = some ending' := by
  classical
  have exists_end : ∃ m, (w.ending? (w.sight pause probe first m)).isSome = true :=
    ⟨n, by rw [ends]; rfl⟩
  obtain ⟨ending', least⟩ := Option.isSome_iff_exists.mp (Nat.find_spec exists_end)
  refine ⟨Nat.find exists_end, ending', Nat.find_min' exists_end (by rw [ends]; rfl), ?_, least⟩
  intro k before
  simpa using Nat.find_min exists_end before

/-- A round at whose end the time is over ends the wait, whatever its probe brings. -/
theorem exists_ending_of_late {seen : Sight τ ε α}
    (late : Timeline.le w.timeout seen.elapsed = true) : ∃ ending, w.ending? seen = some ending := by
  cases back : seen.back with
  | error error => exact ⟨_, ending?_of_error back⟩
  | ok e =>
      refine Option.ne_none_iff_exists'.mp fun pending => ?_
      obtain ⟨a, -, -, inTime⟩ := (ending?_eq_none_iff back).mp pending
      rw [late] at inTime
      cases inTime

/-- What ends a wait is an ending. -/
theorem ending?_ne_unfinished {seen : Sight τ ε α} {ending : Ending ε α}
    (ends : w.ending? seen = some ending) : ending ≠ .unfinished := by
  rintro rfl
  cases back : seen.back with
  | error error => simp [ending?, back] at ends
  | ok e =>
      simp only [ending?, back, settle] at ends
      split at ends
      · cases ends
      · split at ends
        · cases ends
        · cases ends
        · cases ends
        · split at ends <;> cases ends

/-- A wait ends in the same way for every supply that lasts until the time is over. -/
theorem exists_run_eq {n : Nat}
    (late : Timeline.le w.timeout (w.sight pause probe first n).elapsed = true) :
    ∃ ending v, ending ≠ .unfinished ∧
      ∀ fuel, n < fuel → w.run pause probe first.clock fuel 1 first = (ending, v) := by
  obtain ⟨ending, ends⟩ := exists_ending_of_late late
  obtain ⟨m, ending', before, pending, ends⟩ := exists_first ends
  exact ⟨ending', _, ending?_ne_unfinished ends, fun fuel bound =>
    run_eq_of_first (Nat.lt_of_le_of_lt before bound) pending ends⟩

variable (judges : ∀ a error, w.judge a ≠ .broken error)

include judges

/-- A probe that comes back, judged by a judge that never gives up, raises nothing. -/
theorem exists_returned {seen : Sight τ ε α} {e : Envelope α} (back : seen.back = .ok e)
    {ending : Ending ε α} (ends : w.ending? seen = some ending) : ∃ e', ending = .returned e' := by
  simp only [ending?, back, settle] at ends
  split at ends
  · exact ⟨_, (Option.some.inj ends).symm⟩
  · split at ends
    · rename_i judged
      exact absurd judged (judges _ _)
    · exact ⟨_, (Option.some.inj ends).symm⟩
    · exact ⟨_, (Option.some.inj ends).symm⟩
    · split at ends
      · exact ⟨_, (Option.some.inj ends).symm⟩
      · cases ends

/-- What a wait raises, a probe of one of its rounds has raised. -/
theorem run_eq_raised {start : τ} {fuel n : Nat} {world v : World σ τ} {error : ε}
    (ran : w.run pause probe start fuel n world = (.raised error, v)) :
    ∃ m u, w.Pends pause probe start n world m u ∧ probe u = (.error error, v) := by
  obtain ⟨m, u, -, pends, closes⟩ := (run_eq_iff (by simp) fuel n world).mp ran
  refine ⟨m, u, pends, ?_⟩
  generalize probe u = probed at closes ⊢
  obtain ⟨back, v'⟩ := probed
  cases back with
  | error error' =>
      cases closes
      rfl
  | ok e =>
      -- A probe that comes back is judged, and no judgement raises anything.
      simp only [verdict] at closes
      split at closes
      · rename_i ending r? settled
        obtain ⟨rfl, rfl⟩ := Prod.mk.inj (Option.some.inj closes)
        have ends : w.ending? ⟨.ok e, Timeline.sub v'.clock start⟩ = some (.raised error) :=
          (w.fst_settle m _ e).symm.trans (congrArg Prod.fst settled)
        obtain ⟨e', returned⟩ := exists_returned judges rfl ends
        cases returned
      · cases closes

end Wait

end VectorClient
