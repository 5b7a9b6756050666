/-
# VectorClient.Proofs.Client.Returning — operations that return

Of a client whose every call is answered, an operation raises nothing once its
request is written: answers are envelopes whatever they say, and every judge has
a judgement of every payload.  It also returns, as far as its wait comes to an
end, which is for the clock to see to.  Whether the request is written depends on
the parameter, and acceptance does not decide it.

* `Settles`: an operation that raises nothing, and returns where time passes.
* `perform_settles_or_raises`: every operation settles if its parameter fits the
  request, and otherwise raises the fault of the request before it calls anything.
* `perform_raises_hugeTarget`: an accepted search that raises.
-/
import VectorClient.Proofs.Client.Passing
import VectorClient.Proofs.Client.Watching
import VectorClient.Proofs.Request.Fitting

namespace VectorClient

set_option autoImplicit false

open Text

namespace Client

variable {σ τ α : Type} [Timeline τ]

/-! ## Operations that settle -/

/-- An operation, by its supply of rounds, raises nothing, and if time passes it returns the
same envelope for every supply from some size on. -/
structure Settles (passes : Prop) (run : Nat → Run σ τ) : Prop where
  raisesNothing : ∀ fuel fault, (run fuel).1 ≠ .raised fault
  returns : passes → ∃ e v enough, ∀ fuel, enough ≤ fuel → run fuel = (.returned e, v)

variable {c : Client σ τ} {passes : Prop}

omit [Timeline τ] in
theorem Settles.of_returned {first : Run σ τ} (returned : ∃ e, first.1 = .returned e) :
    Settles passes fun _ => first := by
  obtain ⟨ending, v⟩ := first
  obtain ⟨e, same⟩ := returned
  cases same
  exact ⟨fun _ _ => nofun, fun _ => ⟨e, v, 0, fun _ _ => rfl⟩⟩

omit [Timeline τ] in
/-- What is waited for after an operation settles with it. -/
theorem Settles.thenWait {run : Nat → Run σ τ} (first : Settles passes run) {waits : Bool}
    {next : Nat → Envelope Payload → World σ τ → Run σ τ}
    (goesOn : waits = true → ∀ e v, Settles passes fun fuel => next fuel e v) :
    Settles passes fun fuel => Client.thenWait waits (run fuel) (next fuel) := by
  constructor
  case raisesNothing =>
    intro fuel fault
    have quiet := first.raisesNothing fuel fault
    generalize run fuel = ran at quiet
    obtain ⟨ending, v⟩ := ran
    cases ending with
    | returned e =>
        cases asked : e.ok && waits with
        | false => simp [Client.thenWait, asked]
        | true =>
            have waiting := (Bool.and_eq_true_iff.mp asked).2
            simpa [Client.thenWait, asked] using (goesOn waiting e v).raisesNothing fuel fault
    | raised r => exact quiet
    | unfinished => simp [Client.thenWait]
  case returns =>
    intro passing
    obtain ⟨e, v, enough, returned⟩ := first.returns passing
    cases asked : e.ok && waits with
    | false =>
        exact ⟨e, v, enough, fun fuel bound => by simp [returned fuel bound, Client.thenWait, asked]⟩
    | true =>
        have waiting := (Bool.and_eq_true_iff.mp asked).2
        obtain ⟨e', v', more, later⟩ := (goesOn waiting e v).returns passing
        refine ⟨e', v', max enough more, fun fuel bound => ?_⟩
        rw [returned fuel (le_of_max_le_left bound), ← later fuel (le_of_max_le_right bound)]
        simp [Client.thenWait, asked]

/-! ## Waits -/

/-- What a wait is finished with is the same for every supply of rounds from some size on. -/
theorem finish_ends {wait : Wait τ Raised α}
    {probe : World σ τ → Except Raised (Envelope α) × World σ τ}
    (ticks : ∀ w, c.Ticks w.clock (probe w).2.clock)
    (passing : c.TimePasses wait.interval wait.timeout) (result : Envelope Payload)
    (first : World σ τ) :
    ∃ ending v enough, ending ≠ .unfinished ∧
      ∀ fuel, enough ≤ fuel → c.finish fuel result wait probe first = (ending, v) := by
  obtain ⟨ending, v, enough, finished, ran⟩ : ∃ ending v enough, ending ≠ .unfinished ∧
      ∀ fuel, enough ≤ fuel → wait.run c.pause probe first.clock fuel 1 first = (ending, v) :=
    run_ends ticks passing
  refine ⟨ending.concluding result, v, enough, ?_, fun fuel bound =>
    c.finish_of_run result (ran fuel bound)⟩
  cases ending with
  | returned e => exact nofun
  | raised r => exact nofun
  | unfinished => exact absurd rfl finished

/-- A wait settles whose probe is answered and whose judge has a judgement of everything. -/
theorem finish_settles {wait : Wait τ Raised α}
    {probe : World σ τ → Except Raised (Envelope α) × World σ τ} {first : World σ τ}
    (judges : ∀ a error, wait.judge a ≠ .broken error)
    (answered : ∀ w, ∃ e, (probe w).1 = .ok e) (ticks : ∀ w, c.Ticks w.clock (probe w).2.clock)
    (passing : passes → c.TimePasses wait.interval wait.timeout) (result : Envelope Payload) :
    Settles passes fun fuel => c.finish fuel result wait probe first := by
  have quiet : ∀ fuel fault, (c.finish fuel result wait probe first).1 ≠ .raised fault := by
    intro fuel fault
    generalize ran : wait.run c.pause probe first.clock fuel 1 first = x
    obtain ⟨ending, v⟩ := x
    rw [c.finish_of_run result ran]
    cases ending with
    | returned e => exact nofun
    | raised r =>
        obtain ⟨m, u, -, raised⟩ := Wait.run_eq_raised judges ran
        obtain ⟨e, back⟩ := answered u
        cases back.symm.trans (congrArg Prod.fst raised)
    | unfinished => exact nofun
  refine ⟨quiet, fun now => ?_⟩
  obtain ⟨ending, v, enough, finished, ends⟩ := finish_ends ticks (passing now) result first
  cases ending with
  | returned e => exact ⟨e, v, enough, ends⟩
  | raised fault =>
      exact absurd (congrArg Prod.fst (ends enough (Nat.le_refl _))) (quiet enough fault)
  | unfinished => exact absurd rfl finished

/-- Judging by two predicates always gives a judgement. -/
theorem ofPredicates_ne_broken {ε : Type} (failure? : α → Option String) (complete : α → Bool)
    (a : α) (error : ε) : Judgement.ofPredicates failure? complete a ≠ .broken error := by
  unfold Judgement.ofPredicates
  split
  · exact nofun
  · split <;> exact nofun

/-! ## Operations -/

/-- If there is a wait of this pace, its time passes. -/
def Passes (c : Client σ τ) (pacing? : Option Pacing) : Prop :=
  ∀ pacing, pacing? = some pacing →
    c.TimePasses (Timeline.ofSeconds pacing.interval) (Timeline.ofSeconds pacing.timeout)

/-- A wait with the pace of a parameter settles where the time of that pace passes. -/
theorem paced_settles {pacing : Pacing} (waits : pacing.waits = true)
    (passing : passes → c.Passes pacing.asked?) {judge : α → Judgement Raised}
    (judges : ∀ a error, judge a ≠ .broken error)
    {probe : World σ τ → Except Raised (Envelope α) × World σ τ}
    (answered : ∀ w, ∃ e, (probe w).1 = .ok e) (ticks : ∀ w, c.Ticks w.clock (probe w).2.clock)
    (description : String) (failureCode : Int)
    (result : Envelope Payload) (v : World σ τ) :
    Settles passes fun fuel =>
      c.finish fuel result (paced pacing description failureCode judge) probe v :=
  finish_settles judges answered ticks (fun now => passing now pacing (if_pos waits)) result

section Operations

variable (answers : c.server.Answers)

include answers

theorem callOnce_settles {o : Operation} {p : o.Param}
    (written : Request.Succeeds (o.request p)) (w : World σ τ) :
    Settles passes fun _ => c.callOnce o p w := by
  obtain ⟨request, built⟩ := written
  obtain ⟨e, back⟩ := invoke_answered answers (o.label p) ⟨o, request⟩ o.payload w
  refine .of_returned ⟨e, ?_⟩
  simp [callOnce, built, back, Ending.ofExcept, Ending.mapError]

theorem flush_settles (p : Flush) (passing : passes → c.Passes p.pacing.asked?)
    (w : World σ τ) : Settles passes fun fuel => c.flush fuel p w := by
  have once : Settles passes fun _ => c.callOnce .flush p w := by
    apply callOnce_settles answers
    exact Request.succeeds_ok _
  refine once.thenWait fun waits result v => ?_
  exact paced_settles waits passing (fun _ => ofPredicates_ne_broken _ _ _)
    (segmentStates_answered answers _ _) (c.segmentStates_ticks _ _) _ _ _ _

theorem collectionStatistics_settles (p : StatisticsQuery)
    (passing : passes → c.Passes (Operation.getCollectionStatistics.pacing? p)) (w : World σ τ) :
    Settles passes fun fuel => c.collectionStatistics fuel p w := by
  have once (v : World σ τ) : Settles passes fun _ => c.callOnce .getCollectionStatistics p v := by
    apply callOnce_settles answers
    exact Request.succeeds_ok _
  simp only [collectionStatistics_eq]
  split
  · rename_i flushes
    refine (flush_settles answers _ (fun now => ?_) w).thenWait fun _ _ v => once v
    simpa only [Operation.pacing?, if_pos flushes] using passing now
  · exact once w

/-- Every operation settles whose request is written. -/
theorem perform_settles {o : Operation} {p : o.Param}
    (written : Request.Succeeds (o.request p)) (w : World σ τ) :
    Settles (c.Passes (o.pacing? p)) fun fuel => c.perform fuel o p w := by
  have once {passes : Prop} : Settles passes fun _ => c.callOnce o p w :=
    callOnce_settles answers written w
  have looked (label : String) (call : Call) (v : World σ τ) :
      ∃ e, (c.probeBy label call v).1 = .ok e := invoke_answered answers label call id v
  cases o with
  | loadCollection | loadPartitions | createIndex =>
      exact once.thenWait fun waits _ _ => paced_settles waits (fun passing => passing)
        (fun _ => ofPredicates_ne_broken _ _ _) (looked _ _) (c.invoke_ticks _ _ id) _ _ _ _
  | flush => exact flush_settles answers p (fun passing => passing) w
  | getCollectionStatistics =>
      exact collectionStatistics_settles answers p (fun passing => passing) w
  | _ => exact once

end Operations

/-- Without a request nothing is called, and the fault of the request is raised. -/
theorem perform_of_unwritten (c : Client σ τ) {o : Operation} {p : o.Param}
    {fault : Request.Fault} (unwritten : o.request p = .error fault) (fuel : Nat)
    (w : World σ τ) : c.perform fuel o p w = (.raised (.request fault), w) := by
  have once : c.callOnce o p w = (.raised (.request fault), w) := by
    rw [callOnce, unwritten]
  cases o with
  | loadCollection | loadPartitions | createIndex | flush | getCollectionStatistics =>
      cases unwritten
  | _ => exact once

/-- **Of a client whose calls are all answered, an operation with an accepted parameter raises
nothing if the parameter fits its request**, and returns an envelope where the time that it
may wait for passes.  If the parameter does not fit, the operation raises before it calls. -/
theorem perform_settles_or_raises (c : Client σ τ) (answers : c.server.Answers) (o : Operation)
    (p : o.Param) (kw : Keywords) (built : o.blueprint.build kw = .accepted p) (w : World σ τ) :
    (o.Fits p → Settles (c.Passes (o.pacing? p)) fun fuel => c.perform fuel o p w) ∧
      (¬ o.Fits p → ∃ fault, ∀ fuel, c.perform fuel o p w = (.raised (.request fault), w)) := by
  rw [← Operation.succeeds_request_iff built]
  refine ⟨fun written => perform_settles answers written w, fun unwritten => ?_⟩
  obtain ⟨fault, refused⟩ := Request.not_succeeds_iff.mp unwritten
  exact ⟨fault, fun fuel => c.perform_of_unwritten refused fuel w⟩

/-- A client of a server that answers every call at once and without content, on a clock
that is not rounded. -/
def terse : Client Unit ExactTime where
  connection := ⟨"localhost", 1, .zero, none, .zero, false, .zero, none, false, none, none, none, []⟩
  server := ⟨fun _ call => (⟨none, false, .response ⟨call.operation.responseTitle, []⟩⟩, ()),
    fun _ => (false, ())⟩

theorem terse_answers : terse.server.Answers := fun _ _ => ⟨_, rfl⟩

theorem terse_forward : ExactTime.Forward terse.server := by
  intro state call time taken
  cases taken

/-- A load that waits, and that nothing is ever reported of. -/
def unreportedLoad : CollectionLoad := ⟨"c", true, Defaults.waitInterval, Defaults.loadTimeout⟩

theorem build_unreportedLoad : (CollectionLoad.blueprint (Operation.paramTitle .loadCollection)).build
    [("collection_name", .text "c"), ("sync_load", .bool true)] = .accepted unreportedLoad :=
  Verdict.accepted?_eq_some_iff.mp (by decide +kernel)

theorem perform_settles_or_raises_unreportedLoad :
    ∃ e v enough, ∀ fuel, enough ≤ fuel →
      terse.perform fuel .loadCollection unreportedLoad (World.initial ()) = (.returned e, v) := by
  have built : Operation.loadCollection.blueprint.build _ = .accepted unreportedLoad :=
    build_unreportedLoad
  have fits : Operation.loadCollection.Fits unreportedLoad := trivial
  have settles := (terse.perform_settles_or_raises terse_answers .loadCollection unreportedLoad _
    built (World.initial ())).1 fits
  exact settles.returns fun pacing waits =>
    ExactTime.timePasses_of_build terse_forward built waits

/-- A search whose target is past the last four-byte number: ten to the thirty-ninth. -/
def hugeTarget : Search :=
  ⟨"c", [], .l2, "v", 1, "", [], .float [[.double (Number.Double.ofInt (10 ^ 39))]], -1,
    "\x7b\x7d", 0, 0⟩

theorem build_hugeTarget : (Search.blueprint (Operation.paramTitle .search)).build
    [("collection_name", .text "c"), ("vector_field_name", .text "v"), ("top_k", Value.int 1),
      ("vectors", .list [.list [.double (Number.Double.ofInt (10 ^ 39))]])] =
    .accepted hugeTarget :=
  Verdict.accepted?_eq_some_iff.mp (by decide +kernel)

theorem request_hugeTarget : Search.request hugeTarget = .error .componentTooLarge := by
  decide +kernel

/-- It is accepted, and raises nonetheless. -/
theorem perform_raises_hugeTarget :
    (∃ kw, Operation.search.blueprint.build kw = .accepted hugeTarget) ∧
      ∀ fuel, terse.perform fuel .search hugeTarget (World.initial ()) =
        (.raised (.request .componentTooLarge), World.initial ()) := by
  have built : Operation.search.blueprint.build _ = .accepted hugeTarget := build_hugeTarget
  have unwritten : Operation.search.request hugeTarget = .error .componentTooLarge :=
    request_hugeTarget
  exact ⟨⟨_, built⟩, fun fuel => terse.perform_of_unwritten unwritten fuel _⟩

end Client

end VectorClient
