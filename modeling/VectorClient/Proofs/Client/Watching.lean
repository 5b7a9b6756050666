/-
# VectorClient.Proofs.Client.Watching — operations that repeat one look

Loads and index builds wait in the same way: the own call of the operation is
made once, and if it succeeds one other call is repeated, a look at how far the
server has come.  `Watch` is what such an operation needs to know, and
`Client.watch` runs it.

* `calls_opening`: before a round begins, the look has been made once for every
  round before it.
* `watch_of_first`: a watch ends with the first look that ends its wait.
* `watch_of_none`: looks that do not end it are made as often as the supply allows.
* `EndsAtFirst` is the whole account of such an operation, where what ends its wait is
  said in terms of the answers; `endsAtFirst` gives it.
-/
import VectorClient.Proofs.Client.Closing
import VectorClient.Proofs.Client.Flushing
import VectorClient.Proofs.Wait.Openings

namespace VectorClient

set_option autoImplicit false

open World

/-- An operation with a parameter whose request can be written, and the look that it
repeats while it waits. -/
structure Watch where
  operation : Operation
  param : operation.Param
  request : Wire.Message
  built : operation.request param = .ok request
  pacing : Pacing
  description : String
  failureCode : Int
  judge : Response → Judgement Raised
  lookLabel : String
  look : Call

namespace Watch

/-- The operation's own call. -/
def call (o : Watch) : Call := ⟨o.operation, o.request⟩

/-- What the operation waits for. -/
def wait {τ : Type} [Timeline τ] (o : Watch) : Wait τ Raised Response :=
  Client.paced o.pacing o.description o.failureCode o.judge

end Watch

/-- The ending of an operation whose wait ends so; `result` is the envelope of its own call. -/
def Ending.concluding {α : Type} (result : Envelope Payload) :
    Ending Raised α → Ending CallFault Payload
  | .returned e => .returned (if e.ok then result else e.withoutData)
  | .raised r => .raised (.raised r)
  | .unfinished => .unfinished

/-- A success that is seen comes with a response. -/
def Sight.Whole {τ ε : Type} (seen : Sight τ ε Response) : Prop :=
  ∀ e, seen.back = .ok e → e.ok = true → ∃ r, e = .success r

namespace Client

variable {σ τ α : Type} [Timeline τ] (c : Client σ τ)

/-- The operation: its own call, and if that succeeds and the parameter asks for it, the
look until the wait ends. -/
def watch (fuel : Nat) (o : Watch) (w : World σ τ) : Run σ τ :=
  thenWait o.pacing.waits (c.callOnce o.operation o.param w) fun result v =>
    c.finish fuel result o.wait (c.probeBy o.lookLabel o.look) v

/-! ## Calls -/

omit [Timeline τ] in
theorem calls_note (r? : Option (LogRecord τ)) (w : World σ τ) :
    callsIn (Wait.note r? w).trace = callsIn w.trace := by
  cases r? with
  | none => rfl
  | some r => rfl

theorem calls_pause (duration : τ) (w : World σ τ) :
    callsIn (c.pause duration w).trace = callsIn w.trace := by
  rw [pause_eq, calls_closeIf]
  rfl

theorem calls_exchange (call : Call) (w : World σ τ) :
    callsIn (c.exchange call w).2.trace = call :: callsIn w.trace := by
  rw [exchange_eq, calls_closeIf, trace_underWay]
  rfl

/-- A call is made exactly if the client is open. -/
theorem calls_invoke (label : String) (call : Call) (payload : Response → α) (w : World σ τ) :
    callsIn (c.invoke label call payload w).2.trace =
      List.replicate (!w.closed).toNat call ++ callsIn w.trace := by
  cases opened : w.closed with
  | true =>
      rw [c.invoke_of_closed label call payload opened]
      rfl
  | false =>
      obtain ⟨back, r?, invoked, -⟩ := c.invoke_classified label call payload opened
      rw [invoked, calls_note, calls_exchange]
      rfl

theorem calls_callOnce {o : Operation} {p : o.Param} {m : Wire.Message}
    (built : o.request p = .ok m) {w : World σ τ} (opened : w.closed = false) :
    callsIn (c.callOnce o p w).2.trace = ⟨o, m⟩ :: callsIn w.trace := by
  have called := c.calls_invoke (o.label p) ⟨o, m⟩ o.payload w
  rw [opened] at called
  simpa [callOnce, built] using called

/-! ## Rounds -/

variable (o : Watch)

/-- The world in which each round of the wait begins, if no earlier one ends it. -/
abbrev opening (v : World σ τ) (n : Nat) : World σ τ :=
  o.wait.opening c.pause (c.probeBy o.lookLabel o.look) v n

/-- What is seen in each round of the wait. -/
abbrev sight (v : World σ τ) (n : Nat) : Sight τ Raised Response :=
  o.wait.sight c.pause (c.probeBy o.lookLabel o.look) v n

theorem sight_whole (v : World σ τ) (n : Nat) : (c.sight o v n).Whole := by
  intro e back ok
  generalize probed : c.probeBy o.lookLabel o.look (c.opening o v n) = x
  obtain ⟨outcome, u⟩ := x
  have same : outcome = .ok e := by
    have seen : (c.sight o v n).back = outcome := congrArg Prod.fst probed
    rw [← seen, back]
  subst same
  exact c.invoke_eq_success probed ok

variable {o} {v : World σ τ} {n : Nat}

theorem back_of_closed (closed : (c.opening o v n).closed = true) :
    (c.sight o v n).back = .ok .clientNotConnected :=
  congrArg Prod.fst (c.invoke_of_closed o.lookLabel o.look id closed)

/-- A round in which the look succeeds begins on an open client. -/
theorem open_of_success {r : Response} (back : (c.sight o v n).back = .ok (.success r)) :
    (c.opening o v n).closed = false := by
  cases closed : (c.opening o v n).closed with
  | false => rfl
  | true => cases back.symm.trans (c.back_of_closed closed)

/-- A round that does not end the wait begins on an open client. -/
theorem open_of_pending (pending : o.wait.ending? (c.sight o v n) = none) :
    (c.opening o v n).closed = false := by
  cases closed : (c.opening o v n).closed with
  | false => rfl
  | true => cases pending.symm.trans (Wait.ending?_of_not_ok (c.back_of_closed closed) rfl)

/-- Before a round begins, the look has been made once for every round before it. -/
theorem calls_opening :
    ∀ {n : Nat}, (∀ m < n, o.wait.ending? (c.sight o v m) = none) →
      callsIn (c.opening o v n).trace = List.replicate n o.look ++ callsIn v.trace
  | 0, _ => rfl
  | n + 1, pending => by
      have before := calls_opening fun m less => pending m (Nat.lt_succ_of_lt less)
      have opened := c.open_of_pending (pending n (Nat.lt_succ_self n))
      have looked := c.calls_invoke o.lookLabel o.look id (c.opening o v n)
      rw [opened, before] at looked
      rw [opening, Wait.opening, calls_pause]
      exact looked

/-! ## How a watch ends -/

variable {result : Envelope Payload} {w : World σ τ} {fuel : Nat}

/-- Unless its own call succeeds, that call is all there is of a watch. -/
theorem watch_of_not_succeeds {first : Run σ τ}
    (called : c.callOnce o.operation o.param w = first) (failed : ¬ first.1.Succeeds) :
    c.watch fuel o w = first := by
  rw [watch, called]
  exact thenWait_of_not_succeeds _ failed _

theorem watch_of_succeeds (waits : o.pacing.waits = true)
    (called : c.callOnce o.operation o.param w = (.returned result, v)) (ok : result.ok = true) :
    c.watch fuel o w = c.finish fuel result o.wait (c.probeBy o.lookLabel o.look) v := by
  rw [watch, called, thenWait_of_ok waits ok]

theorem finish_of_run (result : Envelope Payload) {wait : Wait τ Raised α}
    {probe : World σ τ → Except Raised (Envelope α) × World σ τ} {ending : Ending Raised α}
    {u : World σ τ} (ran : wait.run c.pause probe v.clock fuel 1 v = (ending, u)) :
    c.finish fuel result wait probe v = (ending.concluding result, u) := by
  rw [finish, ran]
  cases ending <;> rfl

/-- **A watch ends with the first look that ends its wait.**  The looks before it have all
been made, and that one as well unless the client was closed before it. -/
theorem watch_of_first (waits : o.pacing.waits = true)
    (called : c.callOnce o.operation o.param w = (.returned result, v)) (ok : result.ok = true)
    (bound : n < fuel) (pending : ∀ m < n, o.wait.ending? (c.sight o v m) = none)
    {ending : Ending Raised Response} (ends : o.wait.ending? (c.sight o v n) = some ending) :
    (c.watch fuel o w).1 = ending.concluding result ∧
      callsIn (c.watch fuel o w).2.trace =
        List.replicate (n + (!(c.opening o v n).closed).toNat) o.look ++ callsIn v.trace := by
  have ran := c.finish_of_run result (Wait.run_eq_of_first bound pending ends)
  rw [c.watch_of_succeeds waits called ok, ran]
  refine ⟨rfl, ?_⟩
  rw [calls_note, probeBy, calls_invoke, c.calls_opening pending, ← List.append_assoc,
    List.replicate_append_replicate, Nat.add_comm]

/-- Looks that do not end a watch are made as often as the supply allows. -/
theorem watch_of_none (waits : o.pacing.waits = true)
    (called : c.callOnce o.operation o.param w = (.returned result, v)) (ok : result.ok = true)
    (pending : ∀ m < fuel, o.wait.ending? (c.sight o v m) = none) :
    (c.watch fuel o w).1 = .unfinished ∧
      callsIn (c.watch fuel o w).2.trace = List.replicate fuel o.look ++ callsIn v.trace := by
  have ran := c.finish_of_run result (Wait.run_eq_of_none pending)
  rw [c.watch_of_succeeds waits called ok, ran]
  exact ⟨rfl, c.calls_opening pending⟩

/-! ## The account of an operation -/

/-- An operation with a watch ends at its first decisive look.  Unless its own call succeeds,
that call is all it does.  Otherwise it looks until a look is decisive, and `ending` is what
it makes of that one; looks that are not decisive are made as often as the supply allows. -/
structure EndsAtFirst (fuel : Nat) (o : Watch) (decisive : Sight τ Raised Response → Prop)
    (ending : Envelope Payload → Sight τ Raised Response → Ending CallFault Payload)
    (w : World σ τ) : Prop where
  unsuccessful : ∀ first v, c.callOnce o.operation o.param w = (first, v) → ¬ first.Succeeds →
    c.perform fuel o.operation o.param w = (first, v) ∧
      callsIn v.trace = o.call :: callsIn w.trace
  decided : ∀ result v n, c.callOnce o.operation o.param w = (.returned result, v) →
    result.ok = true → n < fuel → (∀ m < n, ¬ decisive (c.sight o v m)) →
    decisive (c.sight o v n) →
      (c.perform fuel o.operation o.param w).1 = ending result (c.sight o v n) ∧
      callsIn (c.perform fuel o.operation o.param w).2.trace =
        List.replicate (n + (!(c.opening o v n).closed).toNat) o.look ++
          o.call :: callsIn w.trace
  undecided : ∀ result v, c.callOnce o.operation o.param w = (.returned result, v) →
    result.ok = true → (∀ n < fuel, ¬ decisive (c.sight o v n)) →
      (c.perform fuel o.operation o.param w).1 = .unfinished ∧
      callsIn (c.perform fuel o.operation o.param w).2.trace =
        List.replicate fuel o.look ++ o.call :: callsIn w.trace

/-- How the decisive looks of a watch are told from the others, and what they say. -/
structure Tells (o : Watch) (decisive : Sight τ Raised Response → Prop)
    (ending : Envelope Payload → Sight τ Raised Response → Ending CallFault Payload) : Prop where
  pending : ∀ seen, seen.Whole → ¬ decisive seen → o.wait.ending? seen = none
  ends : ∀ seen result, seen.Whole → decisive seen →
    ∃ closing, o.wait.ending? seen = some closing ∧ closing.concluding result = ending result seen

/-- A look that is no success is decisive, and the ending is the look's own. -/
structure PassesOn (decisive : Sight τ Raised Response → Prop)
    (ending : Envelope Payload → Sight τ Raised Response → Ending CallFault Payload) : Prop where
  error : ∀ seen r result, seen.back = .error r →
    decisive seen ∧ ending result seen = .raised (.raised r)
  refused : ∀ seen e result, seen.back = .ok e → e.ok = false →
    decisive seen ∧ ending result seen = .returned e.withoutData

/-- So it is enough to tell the decisive successes from the others. -/
theorem Tells.of_success {o : Watch} {decisive : Sight τ Raised Response → Prop}
    {ending : Envelope Payload → Sight τ Raised Response → Ending CallFault Payload}
    (passes : PassesOn decisive ending)
    (pending : ∀ seen r, seen.back = .ok (.success r) → ¬ decisive seen →
      o.wait.ending? seen = none)
    (ends : ∀ seen r result, seen.back = .ok (.success r) → decisive seen →
      ∃ closing, o.wait.ending? seen = some closing ∧
        closing.concluding result = ending result seen) : Tells o decisive ending := by
  constructor
  case pending =>
    intro seen whole undecided
    cases back : seen.back with
    | error r => exact absurd (passes.error seen r .clientNotConnected back).1 undecided
    | ok e =>
        cases ok : e.ok with
        | false => exact absurd (passes.refused seen e .clientNotConnected back ok).1 undecided
        | true =>
            obtain ⟨r, rfl⟩ := whole e back ok
            exact pending seen r back undecided
  case ends =>
    intro seen result whole decides
    cases back : seen.back with
    | error r =>
        exact ⟨_, Wait.ending?_of_error back, (passes.error seen r result back).2.symm⟩
    | ok e =>
        cases ok : e.ok with
        | false =>
            refine ⟨_, Wait.ending?_of_not_ok back ok, ?_⟩
            simp [Ending.concluding, ok, (passes.refused seen e result back ok).2]
        | true =>
            obtain ⟨r, rfl⟩ := whole e back ok
            exact ends seen r result back decides

theorem endsAtFirst {decisive : Sight τ Raised Response → Prop}
    {ending : Envelope Payload → Sight τ Raised Response → Ending CallFault Payload}
    (performs : c.perform fuel o.operation o.param w = c.watch fuel o w)
    (waits : o.pacing.waits = true) (opened : w.closed = false) (tells : Tells o decisive ending) :
    c.EndsAtFirst fuel o decisive ending w := by
  have own := c.calls_callOnce o.built opened
  have pends : ∀ {v : World σ τ} {k : Nat}, (∀ m < k, ¬ decisive (c.sight o v m)) →
      ∀ m < k, o.wait.ending? (c.sight o v m) = none := fun undecided m less =>
    tells.pending _ (c.sight_whole o _ m) (undecided m less)
  constructor
  case unsuccessful =>
    intro first v called failed
    rw [called] at own
    exact ⟨performs.trans (c.watch_of_not_succeeds called failed), own⟩
  case decided =>
    intro result v n called ok bound undecided decides
    obtain ⟨closing, ends, concluding⟩ := tells.ends _ result (c.sight_whole o v n) decides
    obtain ⟨outcome, calls⟩ := c.watch_of_first waits called ok bound (pends undecided) ends
    rw [called] at own
    rw [performs, outcome, calls, own]
    exact ⟨concluding, rfl⟩
  case undecided =>
    intro result v called ok undecided
    obtain ⟨outcome, calls⟩ := c.watch_of_none waits called ok (pends undecided)
    rw [called] at own
    rw [performs, outcome, calls, own]
    exact ⟨rfl, rfl⟩

end Client

end VectorClient
