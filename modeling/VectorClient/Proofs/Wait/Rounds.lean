/-
# VectorClient.Proofs.Wait.Rounds — a wait, round by round

`Wait.conclude` is what follows a probe in one round, with what comes after the
round left open; `run_succ` gives `Wait.run` as a probe and its conclusion.

* `Wait.verdict`: how a round ends the wait, if it does.
* `Wait.Pends`: from the start of one round to that of a later one, every round
  between them pending.
* `run_eq_iff`: a wait ends with the verdict of the first round that has one,
  and supplies only bound the number of that round.
-/
import VectorClient.Wait.Basic

namespace VectorClient

set_option autoImplicit false

namespace Wait

variable {σ τ ε α : Type} [Timeline τ]

omit [Timeline τ] in
@[simp]
theorem closed_note (r? : Option (LogRecord τ)) (w : World σ τ) :
    (note r? w).closed = w.closed := by
  cases r? <;> rfl

omit [Timeline τ] in
@[simp]
theorem clock_note (r? : Option (LogRecord τ)) (w : World σ τ) :
    (note r? w).clock = w.clock := by
  cases r? <;> rfl

/-- What follows a probe: an end of the wait, or what comes `next` after the sleep. -/
def conclude (w : Wait τ ε α) (pause : τ → World σ τ → World σ τ) (start : τ) (round : Nat)
    (next : World σ τ → Ending ε α × World σ τ) :
    Except ε (Envelope α) × World σ τ → Ending ε α × World σ τ
  | (.error error, world) => (.raised error, world)
  | (.ok result, world) =>
      match w.settle round (Timeline.sub world.clock start) result with
      | (some ending, r?) => (ending, note r? world)
      | (none, r?) => next (pause w.interval (note r? world))

theorem run_succ (w : Wait τ ε α) (pause : τ → World σ τ → World σ τ)
    (probe : World σ τ → Except ε (Envelope α) × World σ τ) (start : τ) (fuel round : Nat)
    (world : World σ τ) :
    w.run pause probe start (fuel + 1) round world =
      w.conclude pause start round (w.run pause probe start fuel (round + 1)) (probe world) :=
  rfl

/-! ## One round -/

/-- How a round whose probe came back so ends the wait, if it does, and the world then. -/
def verdict (w : Wait τ ε α) (start : τ) (round : Nat) :
    Except ε (Envelope α) × World σ τ → Option (Ending ε α × World σ τ)
  | (.error error, world) => some (.raised error, world)
  | (.ok result, world) =>
      match w.settle round (Timeline.sub world.clock start) result with
      | (some ending, r?) => some (ending, note r? world)
      | (none, _) => none

/-- A round ends the wait well exactly if its probe has a payload that is complete. -/
theorem verdict_ok_iff (w : Wait τ ε α) (start : τ) (round : Nat)
    {probed : Except ε (Envelope α) × World σ τ}
    (whole : ∀ e u, probed = (.ok e, u) → e.ok = true → ∃ a, e = .success a) :
    (∃ e v, w.verdict start round probed = some (.returned e, v) ∧ e.ok = true) ↔
      ∃ a u, probed = (.ok (.success a), u) ∧ w.judge a = .complete := by
  obtain ⟨back, u⟩ := probed
  cases back with
  | error error => simp [verdict]
  | ok e =>
      cases ok : e.ok with
      | false =>
          have refused : ∀ a, e ≠ .success a := by
            rintro a rfl
            cases ok
          simp [verdict, settle, Envelope.payload?_of_not_ok ok, ok, refused]
      | true =>
          obtain ⟨a, rfl⟩ := whole e u rfl ok
          cases judged : w.judge a with
          | complete => simp [verdict, settle, judged]
          | failed reason => simp [verdict, settle, judged]
          | broken error => simp [verdict, settle, judged]
          | pending =>
              by_cases late : Timeline.le w.timeout (Timeline.sub u.clock start) = true
              · simp [verdict, settle, judged, late]
              · simp [verdict, settle, judged, late]

/-! ## Many rounds -/

variable {w : Wait τ ε α} {pause : τ → World σ τ → World σ τ}
  {probe : World σ τ → Except ε (Envelope α) × World σ τ} {start : τ}

/-- From the start of one round to the start of a later one, every round between
them pending and followed by a sleep. -/
inductive Pends (w : Wait τ ε α) (pause : τ → World σ τ → World σ τ)
    (probe : World σ τ → Except ε (Envelope α) × World σ τ) (start : τ) :
    Nat → World σ τ → Nat → World σ τ → Prop
  | here (round : Nat) (world : World σ τ) : Pends w pause probe start round world round world
  | next {round n : Nat} {world probed u : World σ τ} {result : Envelope α}
      {r? : Option (LogRecord τ)} (back : probe world = (.ok result, probed))
      (pending : w.settle round (Timeline.sub probed.clock start) result = (none, r?))
      (later : Pends w pause probe start (round + 1) (pause w.interval (note r? probed)) n u) :
      Pends w pause probe start round world n u

theorem Pends.le {round n : Nat} {world u : World σ τ}
    (pends : w.Pends pause probe start round world n u) : round ≤ n := by
  induction pends with
  | here => exact Nat.le_refl _
  | next _ _ _ ih => omega

/-- No round comes after one with a verdict. -/
theorem Pends.le_of_verdict {round n m : Nat} {world u u' : World σ τ}
    {closing : Ending ε α × World σ τ} (pends : w.Pends pause probe start round world n u)
    (closes : w.verdict start n (probe u) = some closing)
    (other : w.Pends pause probe start round world m u') : m ≤ n := by
  induction pends with
  | here =>
      cases other with
      | here => exact Nat.le_refl _
      | next back pending _ => simp [verdict, back, pending] at closes
  | next back pending later ih =>
      cases other with
      | here => exact Nat.le_trans (Nat.le_succ _) later.le
      | next back' pending' later' =>
          obtain ⟨rfl, rfl⟩ : _ = _ ∧ _ = _ := by simpa using back.symm.trans back'
          obtain rfl := (Prod.mk.inj (pending.symm.trans pending')).2
          exact ih closes later'

/-- A round with a verdict ends the wait with it. -/
theorem run_of_verdict {fuel round : Nat} {world v : World σ τ} {ending : Ending ε α}
    (closes : w.verdict start round (probe world) = some (ending, v)) :
    w.run pause probe start (fuel + 1) round world = (ending, v) := by
  rw [run_succ]
  generalize probe world = probed at closes
  obtain ⟨back, world⟩ := probed
  cases back with
  | error error => simpa [verdict, conclude] using closes
  | ok result =>
      simp only [verdict] at closes
      simp only [conclude]
      split at closes
      · rename_i settled
        simpa [settled] using closes
      · cases closes

/-- A round without a verdict is pending, and the wait goes on after a sleep. -/
theorem run_of_no_verdict (pause : τ → World σ τ → World σ τ) (fuel : Nat) {round : Nat}
    {world : World σ τ} (goesOn : w.verdict start round (probe world) = none) :
    ∃ (result : Envelope α) (probed : World σ τ) (r? : Option (LogRecord τ)),
      probe world = (.ok result, probed) ∧
      w.settle round (Timeline.sub probed.clock start) result = (none, r?) ∧
      w.run pause probe start (fuel + 1) round world =
        w.run pause probe start fuel (round + 1) (pause w.interval (note r? probed)) := by
  rw [run_succ]
  generalize probe world = probed at goesOn
  obtain ⟨back, world⟩ := probed
  cases back with
  | error error => simp [verdict] at goesOn
  | ok result =>
      simp only [verdict] at goesOn
      split at goesOn
      · cases goesOn
      · rename_i r? settled
        exact ⟨result, world, r?, rfl, settled, by simp [conclude, settled]⟩

/-- **A wait ends in its first round with a verdict**, and with that verdict. -/
theorem run_eq_iff {ending : Ending ε α} {v : World σ τ} (finished : ending ≠ .unfinished)
    (fuel round : Nat) (world : World σ τ) :
    w.run pause probe start fuel round world = (ending, v) ↔
      ∃ n u, n < round + fuel ∧ w.Pends pause probe start round world n u ∧
        w.verdict start n (probe u) = some (ending, v) := by
  constructor
  · intro ran
    induction fuel generalizing round world with
    | zero =>
        obtain ⟨rfl, -⟩ := Prod.mk.inj ran
        exact absurd rfl finished
    | succ fuel ih =>
        cases closes : w.verdict start round (probe world) with
        | some x =>
            obtain ⟨ending', v'⟩ := x
            rw [run_of_verdict closes] at ran
            exact ⟨round, world, by omega, .here round world, closes.trans (congrArg some ran)⟩
        | none =>
            obtain ⟨result, probed, r?, back, pending, later⟩ :=
              run_of_no_verdict pause fuel closes
            obtain ⟨n, u, bound, pends, closed⟩ := ih _ _ (later.symm.trans ran)
            exact ⟨n, u, by omega, .next back pending pends, closed⟩
  · rintro ⟨n, u, bound, pends, closes⟩
    induction pends generalizing fuel with
    | here round world =>
        obtain ⟨more, rfl⟩ : ∃ more, fuel = more + 1 := ⟨fuel - 1, by omega⟩
        exact run_of_verdict closes
    | @next round n world probed u result r? back pending later ih =>
        have further := later.le
        obtain ⟨more, rfl⟩ : ∃ more, fuel = more + 1 := ⟨fuel - 1, by omega⟩
        rw [run_succ, back]
        simp only [conclude, pending]
        exact ih more (by omega) closes

end Wait

end VectorClient
