/-
# VectorClient.Wait.Basic — waiting for the end of something

A wait probes in rounds.  A probe that is no success ends it with the probe's
own envelope, whatever it says; a successful one is judged by its payload:
failed for a reason, complete, or pending.  A pending round ends the wait if
the time since before the first probe has reached the limit; otherwise the wait
sleeps and goes on.  So in one round a failure wins over completion, and
completion over the end of the time.

`Wait.run` takes its rounds from a supply, `fuel`; when that runs out the ending
says so, and a larger supply leaves a finished ending as it is
(`Wait.run_add_of_ne_unfinished`).
-/
import VectorClient.Result.Envelope
import VectorClient.Wait.World

namespace VectorClient

set_option autoImplicit false

/-- What a payload says about the thing waited for. -/
inductive Judgement (ε : Type) where
  | failed (reason : String)
  | complete
  | pending
  /-- The payload cannot be judged. -/
  | broken (error : ε)
  deriving DecidableEq, Repr

/-- The judgement of two predicates; a reason to fail is looked for first. -/
def Judgement.ofPredicates {α ε : Type} (failure? : α → Option String) (complete : α → Bool)
    (a : α) : Judgement ε :=
  match failure? a with
  | some reason => .failed reason
  | none => if complete a then .complete else .pending

/-- How an operation ends. -/
inductive Ending (ε α : Type) where
  | returned (envelope : Envelope α)
  | raised (error : ε)
  /-- The supply of rounds ran out. -/
  | unfinished
  deriving DecidableEq, Repr

/-- What to wait for, and how. -/
structure Wait (τ ε α : Type) where
  description : String
  interval : τ
  timeout : τ
  /-- The error code of a reported failure. -/
  failureCode : Int
  judge : α → Judgement ε

namespace Wait

variable {σ τ ε α : Type} [Timeline τ]

/-- The message of a wait that took too long. -/
def timeoutMessage (w : Wait τ ε α) : String :=
  "Waiting for " ++ w.description ++ " timed out after " ++ Timeline.text w.timeout ++ " seconds"

/-- How a round ends the wait, if it does, and what it logs. -/
def settle (w : Wait τ ε α) (round : Nat) (elapsed : τ) (result : Envelope α) :
    Option (Ending ε α) × Option (LogRecord τ) :=
  match result.payload? with
  | none =>
      (some (.returned result), some (.stopped w.description result.status result.message))
  | some a => match w.judge a with
    | .broken error => (some (.raised error), none)
    | .failed reason =>
        (some (.returned (.serverError w.failureCode reason)), some (.gaveUp w.description reason))
    | .complete => (some (.returned result), some (.completed w.description round))
    | .pending =>
        if Timeline.le w.timeout elapsed then
          (some (.returned (.waitTimeout w.timeoutMessage)), some (.timedOut w.description elapsed))
        else (none, some (.waiting w.description round))

/-- Writes a record, if there is one. -/
def note (r? : Option (LogRecord τ)) (world : World σ τ) : World σ τ :=
  match r? with
  | some r => world.log r
  | none => world

/-- Probes until a round ends the wait.  `pause` is how the world sleeps; `start`
is the reading before the first probe; rounds are counted from `round`. -/
def run (w : Wait τ ε α) (pause : τ → World σ τ → World σ τ)
    (probe : World σ τ → Except ε (Envelope α) × World σ τ) (start : τ) :
    (fuel : Nat) → (round : Nat) → World σ τ → Ending ε α × World σ τ
  | 0, _, world => (.unfinished, world)
  | fuel + 1, round, world =>
      match probe world with
      | (.error error, world) => (.raised error, world)
      | (.ok result, world) =>
          match w.settle round (Timeline.sub world.clock start) result with
          | (some ending, r?) => (ending, note r? world)
          | (none, r?) =>
              run w pause probe start fuel (round + 1) (pause w.interval (note r? world))

/-- A larger supply of rounds leaves a finished ending as it is. -/
theorem run_add_of_ne_unfinished (w : Wait τ ε α) (pause : τ → World σ τ → World σ τ)
    (probe : World σ τ → Except ε (Envelope α) × World σ τ) (start : τ) (more : Nat) :
    ∀ (fuel round : Nat) (world : World σ τ),
      (w.run pause probe start fuel round world).1 ≠ .unfinished →
        w.run pause probe start (fuel + more) round world =
          w.run pause probe start fuel round world
  | 0, _, _, finished => absurd rfl finished
  | fuel + 1, round, world, finished => by
      rw [Nat.succ_add]
      simp only [run] at finished ⊢
      split
      · rfl
      · rename_i result world' probed
        simp only [probed] at finished
        split
        · rfl
        · rename_i settled
          simp only [settled] at finished
          exact run_add_of_ne_unfinished w pause probe start more fuel (round + 1) _ finished

end Wait

end VectorClient
