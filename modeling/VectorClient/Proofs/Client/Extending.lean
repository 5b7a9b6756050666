/-
# VectorClient.Proofs.Client.Extending — an operation beside itself without its wait

Loads, flushes and index builds may be asked to wait or not.  What they do when asked
to is an extension of what they do otherwise: the own call is the same; unless it
succeeds, it is all there is; and the only envelope of a success that comes of the
whole is that of the own call.  Whatever else a wait comes to is no success.

* `Operation.atOnce`: the parameter without its wait.
* `Stopped`: how a wait ends other than well; what is raised was raised by a look.
* `RaisesIn`: what a probe raises, a call of its round has raised.
* `perform_extends`: each of these operations beside itself without its wait.
-/
import VectorClient.Proofs.Client.Issuing
import VectorClient.Proofs.Client.Returning

namespace VectorClient

set_option autoImplicit false

open World

/-! ## The same operation without its wait -/

/-- The same pace without a wait. -/
def Pacing.atOnce (p : Pacing) : Pacing := { p with waits := false }

namespace Operation

/-- The operations that may wait for the end of what their own call begins. -/
def waiting : List Operation := [.loadCollection, .loadPartitions, .flush, .createIndex]

/-- The same parameter, without a wait. -/
def atOnce : (o : Operation) → o.Param → o.Param
  | .loadCollection, p =>
      (⟨CollectionLoad.collection p, (CollectionLoad.pacing p).atOnce⟩ : CollectionLoad)
  | .loadPartitions, p =>
      (⟨PartitionLoad.collection p, PartitionLoad.partitions p, (PartitionLoad.pacing p).atOnce⟩ :
        PartitionLoad)
  | .flush, p => (⟨Flush.collections p, (Flush.pacing p).atOnce⟩ : Flush)
  | .createIndex, p =>
      (⟨IndexBuild.collection p, IndexBuild.field p, IndexBuild.index p, IndexBuild.metric p,
        IndexBuild.extra p, (IndexBuild.pacing p).atOnce⟩ : IndexBuild)
  | .getCollectionStatistics, p => (⟨StatisticsQuery.collection p, false⟩ : StatisticsQuery)
  | _, p => p

theorem pacing?_atOnce (o : Operation) (p : o.Param) : o.pacing? (o.atOnce p) = none := by
  cases o <;> rfl

/-- The request does not say whether the client waits. -/
theorem request_atOnce (o : Operation) (p : o.Param) : o.request (o.atOnce p) = o.request p := by
  cases o <;> rfl

theorem label_atOnce (o : Operation) (p : o.Param) : o.label (o.atOnce p) = o.label p := by
  cases o <;> rfl

theorem exists_request_of_mem_waiting {o : Operation} (waits : o ∈ waiting) (p : o.Param) :
    ∃ m, o.request p = .ok m ∧ o.flush? p = none := by
  cases o with
  | loadCollection | loadPartitions | flush | createIndex => exact ⟨_, rfl, rfl⟩
  | _ => simp [waiting] at waits

end Operation

/-! ## Sleeps -/

/-- The sleeps on a trace, the last one first. -/
def sleepsIn {τ : Type} (trace : List (Happening τ)) : List τ :=
  trace.filterMap fun
    | .slept duration => some duration
    | _ => none

namespace Client

variable {σ τ α : Type} [Timeline τ] (c : Client σ τ)

theorem sleeps_invoke (label : String) (call : Call) (payload : Response → α) (w : World σ τ) :
    sleepsIn (c.invoke label call payload w).2.trace = sleepsIn w.trace := by
  cases opened : w.closed with
  | true =>
      rw [c.invoke_of_closed label call payload opened]
      rfl
  | false =>
      obtain ⟨back, r?, invoked, -⟩ := c.invoke_classified label call payload opened
      have noted (u : World σ τ) : sleepsIn (Wait.note r? u).trace = sleepsIn u.trace := by
        cases r? <;> rfl
      rw [invoked, noted, exchange_eq, trace_closeIf, trace_underWay]
      split <;> rfl

/-! ## Waits that raise -/

/-- What a probe raises was raised by a call of its round, the last one that it made. -/
def RaisesIn (c : Client σ τ) (round : List Call)
    (probe : World σ τ → Except Raised (Envelope α) × World σ τ) : Prop :=
  ∀ w v r, probe w = (.error r, v) → ∃ look ∈ round, ∃ u, c.Moves w u ∧ Issued u v [look] ∧
    (c.server.answer u.server look).1.outcome = .raised r

theorem invoke_raises (label : String) (call : Call) (payload : Response → α) :
    c.RaisesIn [call] (c.invoke label call payload) := by
  intro w v r back
  cases opened : w.closed with
  | true =>
      rw [c.invoke_of_closed label call payload opened] at back
      cases back
  | false =>
      have made := c.invoke_issued label call payload w
      rw [back, opened] at made
      obtain ⟨back', r?, invoked, classified⟩ := c.invoke_classified label call payload opened
      obtain rfl : back' = .error r := congrArg Prod.fst (invoked.symm.trans back)
      refine ⟨call, List.mem_singleton_self call, w, .refl, made, ?_⟩
      generalize (c.server.answer w.server call).1.outcome = outcome at classified ⊢
      cases classified with
      | refused opened => rfl
      | raised other => rfl

theorem segmentStates_raises :
    ∀ (targets : List (String × List Int)) (states : SegmentStates),
      c.RaisesIn (segmentCalls targets) (c.segmentStates targets states)
  | [], _ => fun w v r back => by cases back
  | (name, ids) :: rest, states => by
      intro w v r back
      rw [segmentStates_cons] at back
      by_cases none : ids.isEmpty = true
      · rw [if_pos none] at back
        rw [segmentCalls_cons_of_isEmpty none]
        exact segmentStates_raises rest states w v r back
      · rw [if_neg none] at back
        rw [segmentCalls_cons none]
        generalize asked : c.askSegments name w = x at back
        obtain ⟨outcome, v'⟩ := x
        cases outcome with
        | error r' =>
            cases back
            obtain ⟨look, member, u, raised⟩ := c.invoke_raises _ _ id w v r asked
            obtain rfl := List.mem_singleton.mp member
            exact ⟨_, List.mem_cons_self .., u, raised⟩
        | ok e =>
            have moved : c.Moves w v' := by
              have moves := c.invoke_moves ("check flushing of " ++ Text.between name)
                ⟨.getPersistentSegmentInfo, (CollectionTarget.mk name).request⟩ id w
              rwa [show c.invoke _ _ id w = (.ok e, v') from asked] at moves
            simp only [merge] at back
            split at back
            · cases back
            · obtain ⟨look, member, u, moves, raised⟩ := segmentStates_raises rest _ v' v r back
              exact ⟨look, List.mem_cons_of_mem _ member, u, moved.trans moves, raised⟩

section Waits

variable {c} {wait : Wait τ Raised α} {round : List Call}
  {probe : World σ τ → Except Raised (Envelope α) × World σ τ}

/-- From the start of one round of a wait to that of a later one. -/
theorem pends_moves (probes : ∀ w, c.Moves w (probe w).2) {start : τ} {n m : Nat}
    {w u : World σ τ} (pends : wait.Pends c.pause probe start n w m u) : c.Moves w u := by
  induction pends with
  | here => exact .refl
  | @next n m w probed u result r? back pending later ih =>
      have moved := probes w
      rw [back] at moved
      have noted := c.note_moves wait n (Timeline.sub probed.clock start) result probed
      rw [pending] at noted
      exact ((moved.trans noted).tail (.pause _)).trans ih

end Waits

/-! ## What comes of a wait -/

/-- How a wait ends other than well, where its calls are those of a round: with an envelope
that is no success, with what one of the calls raised, or not with so few rounds. -/
inductive Stopped (c : Client σ τ) (round : List Call) (w : World σ τ) : Run σ τ → Prop
  | refused {e : Envelope Payload} {v : World σ τ} (failed : e.ok = false) :
      Stopped c round w (.returned e, v)
  | raised {r : Raised} {look : Call} {u v : World σ τ} (member : look ∈ round)
      (moves : c.Moves w u) (made : Issued u v [look])
      (answered : (c.server.answer u.server look).1.outcome = .raised r) :
      Stopped c round w (.raised (.raised r), v)
  | unfinished {v : World σ τ} : Stopped c round w (.unfinished, v)

/-- What comes of an operation that goes on after a success, `result`, in some world: that
envelope itself, or none of a success. -/
def Concludes (c : Client σ τ) (round : List Call) (result : Envelope Payload) (w : World σ τ)
    (run : Run σ τ) : Prop :=
  run.1 = .returned result ∨ c.Stopped round w run

section Paced

variable {c} {pacing : Pacing} {judge : α → Judgement Raised} {round : List Call}
  {probe : World σ τ → Except Raised (Envelope α) × World σ τ} (description : String)
  (failureCode : Int) (result : Envelope Payload) (w : World σ τ)

theorem paced_concludes (judges : ∀ a error, judge a ≠ .broken error)
    (raises : c.RaisesIn round probe) (probes : ∀ w, c.Moves w (probe w).2) (fuel : Nat) :
    c.Concludes round result w
      (c.finish fuel result (paced pacing description failureCode judge) probe w) := by
  generalize ran : Wait.run _ c.pause probe w.clock fuel 1 w = x
  obtain ⟨ending, v⟩ := x
  rw [c.finish_of_run result ran]
  cases ending with
  | returned e =>
      cases ok : e.ok with
      | true => exact .inl (by simp [Ending.concluding, ok])
      | false =>
          right
          simp only [Ending.concluding, ok]
          exact .refused (by simpa using ok)
  | raised r =>
      obtain ⟨m, u, pends, back⟩ := Wait.run_eq_raised judges ran
      obtain ⟨look, member, u', moves, made, answered⟩ := raises u v r back
      exact .inr (.raised member ((pends_moves probes pends).trans moves) made answered)
  | unfinished => exact .inr .unfinished

theorem paced_ends (waits : pacing.waits = true) (passes : c.Passes pacing.asked?)
    (ticks : ∀ w, c.Ticks w.clock (probe w).2.clock) :
    ∃ ending v enough, ending ≠ .unfinished ∧ ∀ fuel, enough ≤ fuel →
      c.finish fuel result (paced pacing description failureCode judge) probe w = (ending, v) :=
  finish_ends ticks (passes pacing (if_pos waits)) result w

end Paced

/-! ## Both ways -/

/-- What follows the own call of an operation, if it succeeds and is to be waited for. -/
structure GoesOn (c : Client σ τ) (o : Operation) (p : o.Param) (pacing : Pacing)
    (next : Nat → Envelope Payload → World σ τ → Run σ τ) : Prop where
  paced : o.pacing? p = pacing.asked?
  follows : ∀ fuel w, c.perform fuel o p w = thenWait pacing.waits (c.callOnce o p w) (next fuel)
  concludes : ∀ fuel r v, c.Concludes (o.round p r) (.success (o.payload r)) v
    (next fuel (.success (o.payload r)) v)
  ends : pacing.waits = true → c.Passes pacing.asked? → ∀ result v, ∃ ending u enough,
    ending ≠ .unfinished ∧ ∀ fuel, enough ≤ fuel → next fuel result v = (ending, u)

theorem goesOn_of_mem_waiting {o : Operation} (waits : o ∈ Operation.waiting) (p : o.Param) :
    ∃ pacing next, c.GoesOn o p pacing next := by
  cases o with
  | loadCollection | loadPartitions | createIndex =>
      refine ⟨_, _, rfl, fun _ _ => rfl, fun fuel r v => ?_, fun asked passes result v => ?_⟩
      · exact paced_concludes _ _ _ v (fun _ => ofPredicates_ne_broken _ _ _)
          (c.invoke_raises _ _ id) (c.invoke_moves _ _ id) fuel
      · exact paced_ends _ _ result v asked passes (c.invoke_ticks _ _ id)
  | flush =>
      refine ⟨_, _, rfl, fun _ _ => rfl, fun fuel r v => ?_, fun asked passes result v => ?_⟩
      · exact paced_concludes _ _ _ v (fun _ => ofPredicates_ne_broken _ _ _)
          (c.segmentStates_raises (flushTargets r) []) (c.segmentStates_moves _ []) fuel
      · exact paced_ends _ _ result v asked passes (c.segmentStates_ticks _ [])
  | _ => simp [Operation.waiting] at waits

section Own

variable {c} {o : Operation} {p : o.Param} {m : Wire.Message} (built : o.request p = .ok m)

include built

/-- The own call comes first, and alone if nothing is waited for. -/
theorem sends_own (direct : o.flush? p = none) (w : World σ τ) :
    Issued w (c.callOnce o p w).2 (List.replicate (!w.closed).toNat ⟨o, m⟩) ∧
      ∀ fuel, ∃ later, Issued w (c.perform fuel o p w).2
        (List.replicate (!w.closed).toNat ⟨o, m⟩ ++ later) := by
  cases opened : w.closed with
  | true =>
      rw [c.callOnce_of_closed built opened]
      exact ⟨.of_eq rfl, fun fuel => ⟨[], c.issued_of_closed fuel o p opened⟩⟩
  | false =>
      refine ⟨c.callOnce_issued built opened, fun fuel => ?_⟩
      obtain ⟨later, issued, -⟩ := c.perform_issues_own built opened fuel direct
      exact ⟨later, issued⟩

theorem sleeps_callOnce (w : World σ τ) :
    sleepsIn (c.callOnce o p w).2.trace = sleepsIn w.trace := by
  have awake := c.sleeps_invoke (o.label p) ⟨o, m⟩ o.payload w
  simpa [callOnce, built] using awake

theorem callOnce_ne_unfinished (w : World σ τ) : (c.callOnce o p w).1 ≠ .unfinished := by
  simp only [callOnce, built]
  cases (c.invoke (o.label p) ⟨o, m⟩ o.payload w).1 <;> simp [Ending.ofExcept, Ending.mapError]

/-- An operation is its own call alone, or goes on after a success. -/
theorem GoesOn.alone_or_extended {pacing : Pacing}
    {next : Nat → Envelope Payload → World σ τ → Run σ τ} (goesOn : c.GoesOn o p pacing next)
    (w : World σ τ) :
    (∀ fuel, c.perform fuel o p w = c.callOnce o p w) ∨
      ∃ r v, c.callOnce o p w = (.returned (.success (o.payload r)), v) ∧
        (c.server.answer w.server ⟨o, m⟩).1.outcome = .response r ∧ pacing.waits = true ∧
        ∀ fuel, c.perform fuel o p w = next fuel (.success (o.payload r)) v := by
  by_cases went : (c.callOnce o p w).1.Succeeds
  · cases asked : pacing.waits with
    | false =>
        left
        intro fuel
        rw [goesOn.follows, thenWait_of_not_waiting (by simp [Pacing.asked?, asked])]
    | true =>
        right
        obtain ⟨e, back, ok⟩ := went
        have called : c.callOnce o p w = (.returned e, (c.callOnce o p w).2) := Prod.ext back rfl
        obtain ⟨r, answered, rfl⟩ := c.response_of_callOnce built called ok
        refine ⟨r, _, called, answered, rfl, fun fuel => ?_⟩
        rw [goesOn.follows, called, thenWait_of_ok asked ok]
  · left
    intro fuel
    rw [goesOn.follows, thenWait_of_not_succeeds _ went]

end Own

theorem Stopped.not_succeeds {round : List Call} {w : World σ τ} {run : Run σ τ}
    (stopped : c.Stopped round w run) : ¬ run.1.Succeeds := by
  rintro ⟨e, back, ok⟩
  cases stopped with
  | refused failed =>
      cases back
      cases failed.symm.trans ok
  | raised member moves made answered => cases back
  | unfinished => cases back

/-- An operation, `run` by its supply of rounds, beside what it does without its wait, `plain`. -/
structure Extends (c : Client σ τ) (o : Operation) (p : o.Param) (m : Wire.Message)
    (w : World σ τ) (plain : Run σ τ) (run : Nat → Run σ τ) : Prop where
  /-- Both make the same call first, unless the client is closed. -/
  sends : Issued w plain.2 (List.replicate (!w.closed).toNat ⟨o, m⟩) ∧
    ∀ fuel, ∃ later, Issued w (run fuel).2 (List.replicate (!w.closed).toNat ⟨o, m⟩ ++ later)
  /-- Without the wait there is no sleep. -/
  awake : sleepsIn plain.2.trace = sleepsIn w.trace
  /-- Unless the own call succeeds, it is all there is. -/
  unsuccessful : ¬ plain.1.Succeeds → ∀ fuel, run fuel = plain
  /-- The only envelope of a success is that of the own call. -/
  success : ∀ fuel, (run fuel).1.Succeeds → (run fuel).1 = plain.1
  /-- Whatever else comes of a wait after a success is no success. -/
  stopped : ∀ fuel, ¬ (run fuel).1.Succeeds → plain.1.Succeeds →
    ∃ r, (c.server.answer w.server ⟨o, m⟩).1.outcome = .response r ∧
      c.Stopped (o.round p r) plain.2 (run fuel)
  /-- Where time passes, something comes of the wait, and from some supply of rounds on it is
  always the same. -/
  ends : c.Passes (o.pacing? p) → ∃ ending v enough, ending ≠ .unfinished ∧
    ∀ fuel, enough ≤ fuel → run fuel = (ending, v)

/-- **A wait only extends what the operation does without it.** -/
theorem perform_extends {o : Operation} (waits : o ∈ Operation.waiting) (p : o.Param)
    (w : World σ τ) :
    ∃ m, o.request p = .ok m ∧ o.request (o.atOnce p) = .ok m ∧
      ∀ fuel, c.Extends o p m w (c.perform fuel o (o.atOnce p) w) (c.perform · o p w) := by
  obtain ⟨m, built, direct⟩ := Operation.exists_request_of_mem_waiting waits p
  obtain ⟨pacing, next, goesOn⟩ := c.goesOn_of_mem_waiting waits p
  refine ⟨m, built, (o.request_atOnce p).trans built, fun fuel => ?_⟩
  have plain : c.perform fuel o (o.atOnce p) w = c.callOnce o p w := by
    rw [c.perform_of_not_waiting fuel (o.pacing?_atOnce p)]
    simp only [callOnce, o.request_atOnce, o.label_atOnce]
  rw [plain]
  have sends := sends_own (c := c) built direct w
  have awake := sleeps_callOnce (c := c) built w
  rcases goesOn.alone_or_extended built w with alone | ⟨r, v, called, answered, asked, extended⟩
  · refine ⟨sends, awake, fun _ => alone, fun fuel _ => ?_, fun fuel failed went => ?_, fun _ => ?_⟩
    · rw [alone]
    · rw [alone] at failed
      exact absurd went failed
    · exact ⟨_, _, 0, callOnce_ne_unfinished built w, fun fuel _ => alone fuel⟩
  · have went : (c.callOnce o p w).1.Succeeds := ⟨_, congrArg Prod.fst called, rfl⟩
    refine ⟨sends, awake, fun failed => absurd went failed, fun fuel went' => ?_,
      fun fuel failed _ => ?_, fun passes => ?_⟩
    · rw [extended] at went' ⊢
      rcases goesOn.concludes fuel r v with same | stopped
      · rw [same, called]
      · exact absurd went' stopped.not_succeeds
    · rw [extended] at failed ⊢
      rw [called]
      rcases goesOn.concludes fuel r v with same | stopped
      · exact absurd ⟨_, same, rfl⟩ failed
      · exact ⟨r, answered, stopped⟩
    · rw [goesOn.paced] at passes
      obtain ⟨ending, u, enough, finished, ends⟩ := goesOn.ends asked passes _ v
      exact ⟨ending, u, enough, finished, fun fuel bound => (extended fuel).trans (ends fuel bound)⟩

/-- A flush that names no segments succeeds with the envelope of its own call, and a load that
nothing is reported of comes to an end. -/
theorem perform_extends_terse :
    (terse.perform 1 .flush (Flush.waiting "c") (World.initial ())).1 =
        (terse.perform 1 .flush (Operation.flush.atOnce (Flush.waiting "c"))
          (World.initial ())).1 ∧
      ∃ ending v enough, ending ≠ .unfinished ∧ ∀ fuel, enough ≤ fuel →
        terse.perform fuel .loadCollection unreportedLoad (World.initial ()) = (ending, v) := by
  obtain ⟨m, -, -, flush⟩ :=
    terse.perform_extends (o := .flush) (by decide) (Flush.waiting "c") (World.initial ())
  obtain ⟨m', -, -, load⟩ :=
    terse.perform_extends (o := .loadCollection) (by decide) unreportedLoad (World.initial ())
  have built : Operation.loadCollection.blueprint.build _ = .accepted unreportedLoad :=
    build_unreportedLoad
  refine ⟨(flush 1).success 1 ⟨_, rfl, rfl⟩, (load 1).ends fun pacing waits => ?_⟩
  exact ExactTime.timePasses_of_build terse_forward built waits

end Client

end VectorClient
