/-
# VectorClient.Proofs.Client.Shapes — what an envelope can look like

Callers read an envelope by its status alone, so the status has to say what else is
there.  Envelopes are made in many places: by a call, by a wait, by a look that a
wait passes on, and by a flush that statistics pass on.  Each place makes one of five
shapes, and every function between hands on the shape it was given.

* `Envelope.Shaped`: the five shapes; `Envelope.Prompt`: those that no wait is needed for.
* `Client.Prompts`: a probe gives prompt shapes; `invoke_prompts`, `segmentStates_prompts`.
* `Wait.run_shaped`: a wait gives one of the five, by induction on its rounds.
* `thenWait_shaped`: an operation that may wait gives one of the five, and runs out of time
  only after an own call that succeeded.
* `Client.TimesOut`: where an envelope that says so comes from.
* `perform_returns_shaped`: all operations.
-/
import VectorClient.Proofs.Client.Issuing
import VectorClient.Proofs.Client.Returning

namespace VectorClient

set_option autoImplicit false

/-! ## Envelopes -/

namespace Envelope

variable {α β : Type}

/-- The five shapes of envelopes. -/
inductive Shaped : Envelope α → Prop
  | success (a : α) : Shaped ⟨.success, some a, none, "Success"⟩
  | serverError {code : Int} (faulty : code ≠ 0) (reason : String) :
      Shaped ⟨.serverError, none, some code, reason⟩
  | transportError (message : String) : Shaped ⟨.transportError, none, none, message⟩
  | clientNotConnected (message : String) : Shaped ⟨.clientNotConnected, none, none, message⟩
  | waitTimeout (message : String) : Shaped ⟨.waitTimeout, none, none, message⟩

/-- A shape that no wait is needed for. -/
structure Prompt (e : Envelope α) : Prop where
  shaped : e.Shaped
  inTime : e.status ≠ .waitTimeout

theorem prompt_success (a : α) : (success a).Prompt := ⟨.success a, nofun⟩

/-- A success holds a payload, and nothing else is known of it. -/
theorem Shaped.exists_of_ok {e : Envelope α} (shaped : e.Shaped) (ok : e.ok = true) :
    ∃ a, e = .success a := by
  cases shaped with
  | success a => exact ⟨a, rfl⟩
  | serverError | transportError | clientNotConnected | waitTimeout => cases ok

/-- An envelope that holds nothing is as good for an operation with another payload. -/
theorem Shaped.withoutData {e : Envelope α} (shaped : e.Shaped) (failed : e.ok = false) :
    (e.withoutData : Envelope β).Shaped := by
  cases shaped with
  | success a => cases failed
  | serverError faulty reason => exact .serverError faulty reason
  | transportError message => exact .transportError message
  | clientNotConnected message => exact .clientNotConnected message
  | waitTimeout message => exact .waitTimeout message

theorem Prompt.withoutData {e : Envelope α} (prompt : e.Prompt) (failed : e.ok = false) :
    (e.withoutData : Envelope β).Prompt :=
  ⟨prompt.shaped.withoutData failed, prompt.inTime⟩

/-- An envelope is required as it is if it is a success, and otherwise stands for an error with
its status and its code. -/
structure Required (e : Envelope α) : Prop where
  passes : e.require = .ok e ↔ e.status = .success
  fails : e.status ≠ .success → ∃ error word, e.require = .error error ∧
    error.status = .text word ∧ Vocabulary.ofWord? word = some e.status ∧
    error.errorCode = (e.errorCode.map Value.int).getD .none

theorem required (e : Envelope α) : e.Required := by
  have ok_iff : e.ok = true ↔ e.status = .success := by simp [ok]
  constructor
  case passes =>
    rw [← ok_iff, require]
    split <;> simp_all
  case fails =>
    intro failed
    have notOk : ¬ e.ok = true := fun passed => failed (ok_iff.mp passed)
    exact ⟨_, _, if_neg notOk, rfl, Vocabulary.ofWord?_word e.status, rfl⟩

end Envelope

/-- The status of the envelope that is returned. -/
def Ending.status? {ε α : Type} : Ending ε α → Option ResultStatus
  | .returned e => some e.status
  | _ => none

theorem Ending.exists_of_status? {ε α : Type} {ending : Ending ε α} {status : ResultStatus}
    (known : ending.status? = some status) : ∃ e, ending = .returned e ∧ e.status = status := by
  cases ending with
  | returned e => exact ⟨e, rfl, Option.some.inj known⟩
  | raised error => cases known
  | unfinished => cases known

theorem Classified.prompt {ε α : Type} {raise : Raised → ε} {label : String}
    {payload : Response → α} {closed : Bool} {outcome : Outcome} {e : Envelope α}
    (classified : Classified raise label payload closed outcome (.returned e)) : e.Prompt := by
  cases classified with
  | success faultless => exact Envelope.prompt_success _
  | rejected tells faulty => exact ⟨.serverError faulty _, nofun⟩
  | lost gone => exact ⟨.clientNotConnected _, nofun⟩
  | failed opened => exact ⟨.transportError _, nofun⟩
  | lostRefusal gone => exact ⟨.clientNotConnected _, nofun⟩

/-! ## Waits -/

namespace Wait

variable {σ τ ε α : Type} [Timeline τ] {w : Wait τ ε α}

/-- How a round ends a wait is shaped if what the probe gave is. -/
theorem settle_shaped (faulty : w.failureCode ≠ 0) {round : Nat} {elapsed : τ}
    {result e : Envelope α} {r? : Option (LogRecord τ)} (shaped : result.Shaped)
    (settled : w.settle round elapsed result = (some (.returned e), r?)) : e.Shaped := by
  unfold settle at settled
  split at settled
  · cases settled
    exact shaped
  · split at settled
    · cases settled
    · cases settled
      exact .serverError faulty _
    · cases settled
      exact shaped
    · split at settled
      · cases settled
        exact .waitTimeout _
      · cases settled

/-- A wait whose probe gives shaped envelopes gives one. -/
theorem run_shaped (faulty : w.failureCode ≠ 0) {pause : τ → World σ τ → World σ τ}
    {probe : World σ τ → Except ε (Envelope α) × World σ τ}
    (shapes : ∀ u e, (probe u).1 = .ok e → e.Shaped) (start : τ) :
    ∀ (fuel round : Nat) (u : World σ τ) (e : Envelope α),
      (w.run pause probe start fuel round u).1 = .returned e → e.Shaped
  | 0, _, _, _ => nofun
  | fuel + 1, round, u, e => by
      intro returned
      have shaped := shapes u
      rw [run_succ] at returned
      generalize probe u = probed at shaped returned
      obtain ⟨back, v⟩ := probed
      cases back with
      | error error => cases returned
      | ok result =>
          simp only [conclude] at returned
          split at returned
          · -- The round ends the wait; otherwise it is for the next round to say.
            rename_i ending r? settled
            obtain rfl : ending = .returned e := returned
            exact settle_shaped faulty (shaped result rfl) settled
          · exact run_shaped faulty shapes start fuel (round + 1) _ e returned

end Wait

namespace Client

variable {σ τ α : Type} [Timeline τ]

/-- What a probe gives needs no wait. -/
def Prompts (probe : World σ τ → Except Raised (Envelope α) × World σ τ) : Prop :=
  ∀ w e, (probe w).1 = .ok e → e.Prompt

variable (c : Client σ τ)

theorem invoke_prompts (label : String) (call : Call) (payload : Response → α) :
    Prompts (c.invoke label call payload) := by
  intro w e back
  cases opened : w.closed with
  | true =>
      rw [c.invoke_of_closed label call payload opened] at back
      cases back
      exact ⟨.clientNotConnected _, nofun⟩
  | false =>
      obtain ⟨back', r?, invoked, classified⟩ := c.invoke_classified label call payload opened
      obtain rfl : back' = .ok e := by simpa [invoked] using back
      exact classified.prompt

/-- A look at the segments of collections passes on the first envelope that is no success. -/
theorem segmentStates_prompts :
    ∀ (targets : List (String × List Int)) (states : SegmentStates),
      Prompts (c.segmentStates targets states)
  | [], _ => by
      intro w e back
      cases back
      exact Envelope.prompt_success _
  | (name, ids) :: rest, states => by
      intro w e back
      have prompts : Prompts (c.askSegments name) := c.invoke_prompts _ _ id
      have prompt := prompts w
      rw [segmentStates_cons] at back
      split at back
      · exact segmentStates_prompts rest states w e back
      · generalize c.askSegments name w = asked at prompt back
        obtain ⟨answer, v⟩ := asked
        cases answer with
        | error r => cases back
        | ok e' =>
            cases ok : e'.ok with
            | true =>
                obtain ⟨r, rfl⟩ := (prompt e' rfl).shaped.exists_of_ok ok
                exact segmentStates_prompts rest (states.update ids r) v e back
            | false =>
                simp only [merge, Envelope.payload?_of_not_ok ok] at back
                obtain rfl := Except.ok.inj back
                exact (prompt e' rfl).withoutData ok

/-- A wait that ends well gives the envelope of the call, and any other its own. -/
theorem finish_shaped {wait : Wait τ Raised α} (faulty : wait.failureCode ≠ 0)
    {probe : World σ τ → Except Raised (Envelope α) × World σ τ} (prompts : Prompts probe)
    (fuel : Nat) {result e : Envelope Payload} (shaped : result.Shaped) {w : World σ τ}
    (returned : (c.finish fuel result wait probe w).1 = .returned e) : e.Shaped := by
  have runs : ∀ e, (wait.run c.pause probe w.clock fuel 1 w).1 = .returned e → e.Shaped :=
    Wait.run_shaped faulty (fun u e back => (prompts u e back).shaped) w.clock fuel 1 w
  generalize ran : wait.run c.pause probe w.clock fuel 1 w = x at runs
  obtain ⟨ending, v⟩ := x
  rw [c.finish_of_run result ran] at returned
  cases ending with
  | raised r => cases returned
  | unfinished => cases returned
  | returned e' =>
      obtain rfl := Ending.returned.inj returned
      cases ok : e'.ok with
      | true => exact shaped
      | false => exact (runs e' rfl).withoutData ok

theorem callOnce_prompt {o : Operation} {p : o.Param} {w : World σ τ} {e : Envelope Payload}
    (returned : (c.callOnce o p w).1 = .returned e) : e.Prompt := by
  cases written : o.request p with
  | error fault =>
      rw [callOnce, written] at returned
      cases returned
  | ok m =>
      have prompt := c.invoke_prompts (o.label p) ⟨o, m⟩ o.payload w
      have called : (c.callOnce o p w).1 =
          (Ending.ofExcept (c.invoke (o.label p) ⟨o, m⟩ o.payload w).1).mapError .raised := by
        rw [callOnce, written]
      rw [called] at returned
      generalize (c.invoke (o.label p) ⟨o, m⟩ o.payload w).1 = back at prompt returned
      cases back with
      | error r => cases returned
      | ok e' =>
          cases returned
          exact prompt e rfl

/-! ## Operations -/

omit [Timeline τ] in
/-- An operation that may wait for what its own call began: what it returns is shaped, and out
of time only if it is to wait and the call succeeded. -/
theorem thenWait_shaped {first : Run σ τ} (prompt : ∀ e, first.1 = .returned e → e.Prompt)
    {waits : Bool} {next : Envelope Payload → World σ τ → Run σ τ}
    (goesOn : ∀ result v e, result.Shaped → (next result v).1 = .returned e → e.Shaped)
    {e : Envelope Payload} (returned : (thenWait waits first next).1 = .returned e) :
    e.Shaped ∧ (e.status = .waitTimeout → waits = true ∧ first.1.Succeeds) := by
  obtain ⟨ending, v⟩ := first
  cases ending with
  | raised fault => cases returned
  | unfinished => cases returned
  | returned result =>
      have own := prompt result rfl
      cases asked : result.ok && waits with
      | true =>
          obtain ⟨ok, waiting⟩ := Bool.and_eq_true_iff.mp asked
          simp only [thenWait, asked] at returned
          exact ⟨goesOn result v e own.shaped returned, fun _ => ⟨waiting, result, rfl, ok⟩⟩
      | false =>
          simp only [thenWait, asked] at returned
          cases returned
          exact ⟨own.shaped, fun late => absurd late own.inTime⟩

end Client

/-- The first call of an operation whose own request is `m`. -/
def Operation.firstCall (o : Operation) (p : o.Param) (m : Wire.Message) : Call :=
  match o.flush? p with
  | some f => ⟨.flush, f.request⟩
  | none => ⟨o, m⟩

namespace Client

variable {σ τ : Type} [Timeline τ] (c : Client σ τ)

/-- An operation that begins in the world `w` and is to wait, the first call of which succeeded:
it was made, and the response to it has no error code. -/
structure TimesOut (fuel : Nat) (o : Operation) (p : o.Param) (m : Wire.Message)
    (w : World σ τ) : Prop where
  waits : ∃ pacing, o.pacing? p = some pacing
  made : ∃ later, Issued w (c.perform fuel o p w).2 (o.firstCall p m :: later)
  succeeded : ∃ r, (c.server.answer w.server (o.firstCall p m)).1.outcome = .response r ∧
    r.status.code = 0

section

variable {c} {o : Operation} {p : o.Param} {m : Wire.Message} (written : o.request p = .ok m)
  {w : World σ τ}

include written

/-- An own call that succeeds is made, and answered without an error code. -/
theorem answered_of_succeeds (succeeds : (c.callOnce o p w).1.Succeeds) :
    w.closed = false ∧
      ∃ r, (c.server.answer w.server ⟨o, m⟩).1.outcome = .response r ∧ r.status.code = 0 := by
  obtain ⟨e, returned, ok⟩ := succeeds
  cases opened : w.closed with
  | true =>
      rw [c.callOnce_of_closed written opened] at returned
      cases returned
      cases ok
  | false =>
      have classified := c.callOnce_classified written opened
      rw [returned] at classified
      obtain ⟨r, answered, faultless, -⟩ := classified.response_of_ok ok
      exact ⟨rfl, r, answered, faultless⟩

end

/-- An operation that makes no flush first. -/
theorem perform_shaped (fuel : Nat) {o : Operation} {p : o.Param} {m : Wire.Message}
    (written : o.request p = .ok m) (direct : o.flush? p = none) {w : World σ τ}
    {e : Envelope Payload} (returned : (c.perform fuel o p w).1 = .returned e) :
    e.Shaped ∧ (e.status = .waitTimeout → c.TimesOut fuel o p m w) := by
  have prompt : ∀ e, (c.callOnce o p w).1 = .returned e → e.Prompt := fun e => c.callOnce_prompt
  have atOnce : (c.callOnce o p w).1 = .returned e → e.Shaped ∧ (e.status = .waitTimeout →
      (∃ pacing, o.pacing? p = some pacing) ∧ (c.callOnce o p w).1.Succeeds) := fun own =>
    ⟨(prompt e own).shaped, fun late => absurd late (prompt e own).inTime⟩
  have asked : ∀ {pacing : Pacing}, pacing.waits = true → ∃ pacing', pacing.asked? = some pacing' :=
    fun waits => ⟨_, if_pos waits⟩
  have known : unexpectedCode ≠ 0 ∧ indexFailureCode ≠ 0 := by decide
  suffices shaped : e.Shaped ∧ (e.status = .waitTimeout →
      (∃ pacing, o.pacing? p = some pacing) ∧ (c.callOnce o p w).1.Succeeds) by
    refine ⟨shaped.1, fun late => ?_⟩
    obtain ⟨waits, succeeds⟩ := shaped.2 late
    obtain ⟨opened, answered⟩ := answered_of_succeeds written succeeds
    obtain ⟨looks, issued, -⟩ := c.perform_issues_own written opened fuel direct
    have first : o.firstCall p m = ⟨o, m⟩ := by rw [Operation.firstCall, direct]
    exact ⟨waits, ⟨looks, first ▸ issued⟩, first ▸ answered⟩
  cases o with
  | loadCollection | loadPartitions =>
      obtain ⟨shaped, late⟩ := thenWait_shaped prompt (fun result v e shaped back =>
        c.finish_shaped known.1 (c.invoke_prompts _ _ id) fuel shaped back) returned
      exact ⟨shaped, fun status => (late status).imp_left asked⟩
  | createIndex =>
      obtain ⟨shaped, late⟩ := thenWait_shaped prompt (fun result v e shaped back =>
        c.finish_shaped known.2 (c.invoke_prompts _ _ id) fuel shaped back) returned
      exact ⟨shaped, fun status => (late status).imp_left asked⟩
  | flush =>
      obtain ⟨shaped, late⟩ := thenWait_shaped prompt (fun result v e shaped back =>
        c.finish_shaped known.1 (c.segmentStates_prompts _ _) fuel shaped back) returned
      exact ⟨shaped, fun status => (late status).imp_left asked⟩
  | getCollectionStatistics =>
      have stays : StatisticsQuery.flushes p = false := by
        simpa [Operation.flush?] using direct
      have once : c.perform fuel .getCollectionStatistics p w =
          c.callOnce .getCollectionStatistics p w := by
        simp [perform, collectionStatistics, stays]
      exact atOnce (once ▸ returned)
  | _ => exact atOnce returned

/-- An operation that makes a flush first runs out of time in the flush alone. -/
theorem perform_shaped_of_flush? (fuel : Nat) {o : Operation} {p : o.Param} {m : Wire.Message}
    {f : Flush} (first : o.flush? p = some f) {w : World σ τ} {e : Envelope Payload}
    (returned : (c.perform fuel o p w).1 = .returned e) :
    e.Shaped ∧ (e.status = .waitTimeout → c.TimesOut fuel o p m w) := by
  have then_own := c.perform_of_flush? fuel first w
  by_cases went : (c.perform fuel .flush f w).1.Succeeds
  · -- The own call comes next, and never waits.
    obtain ⟨e', back, ok⟩ := went
    have flushed : c.perform fuel .flush f w = (.returned e', (c.perform fuel .flush f w).2) :=
      Prod.ext back rfl
    rw [then_own, flushed, thenWait_of_ok rfl ok] at returned
    have prompt := c.callOnce_prompt returned
    exact ⟨prompt.shaped, fun late => absurd late prompt.inTime⟩
  · -- What the flush returns is passed on, in the world that it leaves.
    have passed : c.perform fuel o p w = c.perform fuel .flush f w :=
      then_own.trans (thenWait_of_not_succeeds true went _)
    obtain ⟨shaped, late⟩ := c.perform_shaped fuel (o := .flush) (p := f) (m := f.request) rfl rfl
      (passed ▸ returned)
    refine ⟨shaped, fun status => ?_⟩
    obtain ⟨-, made, succeeded⟩ := late status
    have opening : o.firstCall p m = ⟨.flush, f.request⟩ := by rw [Operation.firstCall, first]
    refine ⟨?_, ?_, opening ▸ succeeded⟩
    · cases o with
      | getCollectionStatistics =>
          obtain ⟨flushes, -⟩ := Option.ite_none_right_eq_some.mp first
          exact ⟨_, if_pos flushes⟩
      | _ => cases first
    · rw [passed, opening]
      exact made

/-- **Whatever an operation returns has one of five shapes**, told apart by the status.  It is
out of time only if the operation was to wait and its first call succeeded; and it stands for
itself if it is a success, and otherwise for an error with its status and its code. -/
theorem perform_returns_shaped (fuel : Nat) {o : Operation} {p : o.Param} {w : World σ τ}
    {e : Envelope Payload} (returned : (c.perform fuel o p w).1 = .returned e) :
    e.Shaped ∧ (e.status = .waitTimeout →
      ∃ m, o.request p = .ok m ∧ c.TimesOut fuel o p m w) ∧ e.Required := by
  cases written : o.request p with
  | error fault =>
      rw [c.perform_of_unwritten written] at returned
      cases returned
  | ok m =>
      suffices shaped : e.Shaped ∧ (e.status = .waitTimeout → c.TimesOut fuel o p m w) from
        ⟨shaped.1, fun late => ⟨m, rfl, shaped.2 late⟩, e.required⟩
      cases first : o.flush? p with
      | none => exact c.perform_shaped fuel written first returned
      | some f => exact c.perform_shaped_of_flush? fuel first returned

/-- A client of a server that answers everything and reports nothing. -/
def unreporting : Client Unit Number where
  connection := ⟨"localhost", 1, .zero, none, .zero, false, .zero, none, false, none, none, none, []⟩
  server := ⟨fun _ _ => (⟨none, false, .response ⟨"Status", []⟩⟩, ()), fun _ => (false, ())⟩

/-- A load that waits for up to a second. -/
def impatientLoad : CollectionLoad := ⟨"c", ⟨true, .ofInt 1, .ofInt 1⟩⟩

theorem status_impatientLoad :
    (unreporting.perform 2 .loadCollection impatientLoad (World.initial ())).1.status? =
      some .waitTimeout := by
  decide +kernel

theorem perform_returns_shaped_impatientLoad :
    ∃ e, (unreporting.perform 2 .loadCollection impatientLoad (World.initial ())).1 = .returned e ∧
      e.Shaped ∧ e.status = .waitTimeout ∧
      unreporting.TimesOut 2 .loadCollection impatientLoad (CollectionLoad.request impatientLoad)
        (World.initial ()) ∧ e.Required := by
  obtain ⟨e, returned, late⟩ := Ending.exists_of_status? status_impatientLoad
  obtain ⟨shaped, timesOut, required⟩ := unreporting.perform_returns_shaped 2 returned
  obtain ⟨m, written, out⟩ := timesOut late
  obtain rfl : CollectionLoad.request impatientLoad = m := Except.ok.inj written
  exact ⟨e, returned, shaped, late, out, required⟩

end Client

end VectorClient
