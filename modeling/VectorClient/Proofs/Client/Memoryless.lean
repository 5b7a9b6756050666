/-
# VectorClient.Proofs.Client.Memoryless — operations carry no hidden state

An operation sees of the past only whether its client is closed.  Two clients with
one connection are run side by side, each with a history and a clock of its own,
at servers that react alike from here on (`Server.Alike`).  What is kept in step is
`Client.Beside`: both are closed or neither is, the servers stay alike, the same has
happened on both since the beginning, and readings that were equally long ago then
are so now.  The last needs differences of readings to be exact (`Timeline.Exact`):
a wait subtracts the reading at its start, which is not the same on both clocks.

* `Client.invoke_agrees`, `Client.run_agrees`: one call, and the rounds of a wait.
* `Client.perform_memoryless`: every operation ends alike and does the same.
* `Client.session_agrees`: so does any sequence of steps.
-/
import VectorClient.Proofs.Client.Closing
import VectorClient.Proofs.Client.Passing
import VectorClient.Proofs.Client.Returning

namespace VectorClient

set_option autoImplicit false

/-- Differences of readings are exact. -/
class Timeline.Exact (τ : Type) [Timeline τ] : Prop where
  sub_self (a : τ) : Timeline.sub a a = Timeline.zero
  add_sub (a d b : τ) :
    Timeline.sub (Timeline.add a d) b = Timeline.add (Timeline.sub a b) d

namespace ExactTime

instance : Timeline.Exact ExactTime where
  sub_self a := congrArg mk (Int.sub_self a.units)
  add_sub a d b := by
    apply congrArg mk
    show a.units + d.units - b.units = a.units - b.units + d.units
    omega

end ExactTime

/-- The states of two servers from which they react alike: the same turns to the same calls,
the same closings in sleeps, and so on from there. -/
def Server.Alike {σ σ' τ : Type} (s : Server σ τ) (s' : Server σ' τ) (a : σ) (a' : σ') : Prop :=
  ∃ R : σ → σ' → Prop, R a a' ∧ ∀ b b', R b b' →
    (∀ call, (s.answer b call).1 = (s'.answer b' call).1 ∧
      R (s.answer b call).2 (s'.answer b' call).2) ∧
    (s.pause b).1 = (s'.pause b').1 ∧ R (s.pause b).2 (s'.pause b').2

namespace Server.Alike

variable {σ σ' τ : Type} {s : Server σ τ} {s' : Server σ' τ} {a : σ} {a' : σ'}

theorem refl (s : Server σ τ) (a : σ) : s.Alike s a a :=
  ⟨Eq, rfl, by rintro b _ rfl; simp⟩

theorem answer (alike : s.Alike s' a a') (call : Call) :
    (s.answer a call).1 = (s'.answer a' call).1 ∧
      s.Alike s' (s.answer a call).2 (s'.answer a' call).2 := by
  obtain ⟨R, related, reacts⟩ := alike
  obtain ⟨same, later⟩ := (reacts a a' related).1 call
  exact ⟨same, R, later, reacts⟩

theorem pause (alike : s.Alike s' a a') :
    (s.pause a).1 = (s'.pause a').1 ∧ s.Alike s' (s.pause a).2 (s'.pause a').2 := by
  obtain ⟨R, related, reacts⟩ := alike
  obtain ⟨same, later⟩ := (reacts a a' related).2
  exact ⟨same, R, later, reacts⟩

end Server.Alike

namespace Client

variable {σ σ' τ α ρ : Type} [Timeline τ]

/-- What two clients that began as `w` and `w'` keep in step. -/
structure Beside (c : Client σ τ) (c' : Client σ' τ) (w : World σ τ) (w' : World σ' τ)
    (u : World σ τ) (u' : World σ' τ) : Prop where
  closed : u.closed = u'.closed
  alike : c.server.Alike c'.server u.server u'.server
  /-- The same calls, sleeps and records since then, in the same order. -/
  happened : ∃ new, u.trace = new ++ w.trace ∧ u'.trace = new ++ w'.trace
  /-- Readings that were equally long ago then are so now. -/
  passed : ∀ s s', Timeline.sub w.clock s = Timeline.sub w'.clock s' →
    Timeline.sub u.clock s = Timeline.sub u'.clock s'

/-- The same outcome on both, and worlds still in step. -/
inductive Agrees (c : Client σ τ) (c' : Client σ' τ) (w : World σ τ) (w' : World σ' τ) :
    ρ × World σ τ → ρ × World σ' τ → Prop
  | both (r : ρ) {u : World σ τ} {u' : World σ' τ} (beside : Beside c c' w w' u u') :
      Agrees c c' w w' (r, u) (r, u')

variable {c : Client σ τ} {c' : Client σ' τ} {w u v : World σ τ} {w' u' v' : World σ' τ}

namespace Beside

theorem start (closed : w.closed = w'.closed)
    (alike : c.server.Alike c'.server w.server w'.server) : Beside c c' w w' w w' :=
  ⟨closed, alike, ⟨[], rfl, rfl⟩, fun _ _ => id⟩

theorem trans (first : Beside c c' w w' u u') (second : Beside c c' u u' v v') :
    Beside c c' w w' v v' := by
  refine ⟨second.closed, second.alike, ?_, fun s s' level => ?_⟩
  · obtain ⟨new, trace, trace'⟩ := first.happened
    obtain ⟨newer, later, later'⟩ := second.happened
    exact ⟨newer ++ new, by rw [later, trace, List.append_assoc],
      by rw [later', trace', List.append_assoc]⟩
  · exact second.passed s s' (first.passed s s' level)

theorem record (beside : Beside c c' w w' u u') (h : Happening τ) :
    Beside c c' w w' (u.record h) (u'.record h) := by
  obtain ⟨new, trace, trace'⟩ := beside.happened
  exact ⟨beside.closed, beside.alike, ⟨h :: new, congrArg (h :: ·) trace, congrArg (h :: ·) trace'⟩,
    beside.passed⟩

theorem log (beside : Beside c c' w w' u u') (r : LogRecord τ) :
    Beside c c' w w' (u.log r) (u'.log r) := beside.record (.logged r)

theorem note (beside : Beside c c' w w' u u') (r? : Option (LogRecord τ)) :
    Beside c c' w w' (Wait.note r? u) (Wait.note r? u') := by
  cases r? with
  | none => exact beside
  | some r => exact beside.log r

theorem closeIf (beside : Beside c c' w w' u u') (same : c'.connection = c.connection)
    (closes : Bool) : Beside c c' w w' (c.closeIf closes u) (c'.closeIf closes u') := by
  obtain ⟨new, trace, trace'⟩ := beside.happened
  refine ⟨?_, ?_, ?_, ?_⟩
  · rw [closed_closeIf, closed_closeIf, beside.closed]
  · rw [server_closeIf, server_closeIf]
    exact beside.alike
  · rw [trace_closeIf, trace_closeIf, same, beside.closed, trace, trace']
    split
    · exact ⟨_ :: new, rfl, rfl⟩
    · exact ⟨new, rfl, rfl⟩
  · rw [clock_closeIf, clock_closeIf]
    exact beside.passed

variable [Timeline.Exact τ]

/-- The same time passes on both clocks. -/
theorem advance (beside : Beside c c' w w' u u') (time : τ) :
    Beside c c' w w' (u.advance time) (u'.advance time) := by
  refine ⟨beside.closed, beside.alike, beside.happened, fun s s' level => ?_⟩
  show Timeline.sub (Timeline.add u.clock time) s = Timeline.sub (Timeline.add u'.clock time) s'
  rw [Timeline.Exact.add_sub, Timeline.Exact.add_sub, beside.passed s s' level]

theorem pause (beside : Beside c c' w w' u u') (same : c'.connection = c.connection)
    (duration : τ) : Beside c c' w w' (c.pause duration u) (c'.pause duration u') := by
  obtain ⟨closes, alike⟩ := beside.alike.pause
  rw [pause_eq, pause_eq, closes]
  apply closeIf _ same
  have slept := (beside.record (.slept duration)).advance duration
  exact ⟨slept.closed, alike, slept.happened, slept.passed⟩

theorem underWay (beside : Beside c c' w w' u u') (same : c'.connection = c.connection)
    (call : Call) : Beside c c' w w' (c.underWay call u) (c'.underWay call u') := by
  obtain ⟨turn, alike⟩ := beside.alike.answer call
  have called := beside.record (.called call c.connection.timeout)
  have handed : Beside c c' w w'
      { u.record (.called call c.connection.timeout) with
        server := (c.server.answer u.server call).2 }
      { u'.record (.called call c.connection.timeout) with
        server := (c'.server.answer u'.server call).2 } :=
    ⟨called.closed, alike, called.happened, called.passed⟩
  unfold Client.underWay
  dsimp only
  rw [same, turn]
  cases (c'.server.answer u'.server call).1.elapsed with
  | none => exact handed
  | some time => exact handed.advance time

end Beside

theorem Agrees.of_later {x : ρ × World σ τ} {y : ρ × World σ' τ}
    (beside : Beside c c' w w' u u') (later : Agrees c c' u u' x y) : Agrees c c' w w' x y := by
  cases later with
  | both r further => exact .both r (beside.trans further)

section

variable [Timeline.Exact τ] (same : c'.connection = c.connection)

include same

/-! ## One call -/

theorem exchange_agrees (call : Call) (beside : Beside c c' w w' u u') :
    Agrees c c' w w' (c.exchange call u) (c'.exchange call u') := by
  obtain ⟨turn, -⟩ := beside.alike.answer call
  rw [exchange_eq, exchange_eq, turn]
  exact .both _ ((beside.underWay same call).closeIf same _)

theorem invoke_agrees (label : String) (call : Call) (payload : Response → α)
    (beside : Beside c c' w w' u u') :
    Agrees c c' w w' (c.invoke label call payload u) (c'.invoke label call payload u') := by
  have exchanged := exchange_agrees same call (beside.log (.calling call.operation label))
  unfold invoke
  rw [beside.closed]
  split
  · exact .both _ (beside.log _)
  · generalize c.exchange call (u.log (.calling call.operation label)) = x at exchanged ⊢
    generalize c'.exchange call (u'.log (.calling call.operation label)) = y at exchanged ⊢
    cases exchanged with
    | @both outcome v v' beside =>
        cases outcome with
        | response r =>
            simp only [classify]
            split
            · exact .both _ beside
            · exact .both _ (beside.log _)
        | failed error =>
            dsimp only
            rw [beside.closed]
            split
            · exact .both _ beside
            · exact .both _ (beside.log _)
        | raised r =>
            cases r with
            | refusal message =>
                dsimp only
                rw [beside.closed]
                split <;> exact .both _ beside
            | wrongType message => exact .both _ beside
            | other kind message => exact .both _ beside

/-! ## Waits -/

/-- The rounds of a wait agree if its probes do, and if its start was equally long ago. -/
theorem run_agrees (wait : Wait τ Raised α)
    {probe : World σ τ → Except Raised (Envelope α) × World σ τ}
    {probe' : World σ' τ → Except Raised (Envelope α) × World σ' τ}
    (probes : ∀ {u : World σ τ} {u' : World σ' τ}, Beside c c' w w' u u' →
      Agrees c c' w w' (probe u) (probe' u')) {start start' : τ}
    (level : Timeline.sub w.clock start = Timeline.sub w'.clock start') :
    ∀ (fuel round : Nat) {u : World σ τ} {u' : World σ' τ}, Beside c c' w w' u u' →
      Agrees c c' w w' (wait.run c.pause probe start fuel round u)
        (wait.run c'.pause probe' start' fuel round u')
  | 0, _, _, _, beside => .both _ beside
  | fuel + 1, round, u, u', beside => by
      rw [Wait.run_succ, Wait.run_succ]
      have probed := probes beside
      generalize probe u = x at probed ⊢
      generalize probe' u' = y at probed ⊢
      cases probed with
      | @both back v v' beside =>
          cases back with
          | error r => exact .both _ beside
          | ok result =>
              simp only [Wait.conclude]
              rw [beside.passed start start' level]
              split
              · exact .both _ (beside.note _)
              · exact run_agrees wait probes level fuel (round + 1)
                  ((beside.note _).pause same _)

/-- A wait reads its start from its own clock. -/
theorem finish_agrees (fuel : Nat) (result : Envelope Payload) (wait : Wait τ Raised α)
    {probe : World σ τ → Except Raised (Envelope α) × World σ τ}
    {probe' : World σ' τ → Except Raised (Envelope α) × World σ' τ}
    (probes : ∀ {w u : World σ τ} {w' u' : World σ' τ}, Beside c c' w w' u u' →
      Agrees c c' w w' (probe u) (probe' u')) (beside : Beside c c' w w' u u') :
    Agrees c c' w w' (c.finish fuel result wait probe u)
      (c'.finish fuel result wait probe' u') := by
  have level : Timeline.sub u.clock u.clock = Timeline.sub u'.clock u'.clock := by
    rw [Timeline.Exact.sub_self, Timeline.Exact.sub_self]
  have waited := run_agrees same wait probes level fuel 1 (.start beside.closed beside.alike)
  refine .of_later beside ?_
  unfold finish
  generalize wait.run c.pause probe u.clock fuel 1 u = x at waited ⊢
  generalize wait.run c'.pause probe' u'.clock fuel 1 u' = y at waited ⊢
  cases waited with
  | both ending further => cases ending <;> exact .both _ further

/-! ## Operations -/

theorem segmentStates_agrees :
    ∀ (targets : List (String × List Int)) (states : SegmentStates) {u : World σ τ}
      {u' : World σ' τ}, Beside c c' w w' u u' →
      Agrees c c' w w' (c.segmentStates targets states u) (c'.segmentStates targets states u')
  | [], _, _, _, beside => .both _ beside
  | (name, ids) :: rest, states, u, u', beside => by
      rw [segmentStates_cons, segmentStates_cons]
      split
      · exact segmentStates_agrees rest states beside
      · have asked : Agrees c c' w w' (c.askSegments name u) (c'.askSegments name u') :=
          invoke_agrees same _ _ _ beside
        generalize c.askSegments name u = x at asked ⊢
        generalize c'.askSegments name u' = y at asked ⊢
        cases asked with
        | both back beside =>
            cases back with
            | error r => exact .both _ beside
            | ok e =>
                simp only [merge]
                split
                · exact .both _ beside
                · exact segmentStates_agrees rest _ beside

theorem callOnce_agrees (o : Operation) (p : o.Param) (beside : Beside c c' w w' u u') :
    Agrees c c' w w' (c.callOnce o p u) (c'.callOnce o p u') := by
  unfold callOnce
  split
  · exact .both _ beside
  · rename_i request _
    have called := invoke_agrees same (o.label p) ⟨o, request⟩ o.payload beside
    generalize c.invoke (o.label p) ⟨o, request⟩ o.payload u = x at called ⊢
    generalize c'.invoke (o.label p) ⟨o, request⟩ o.payload u' = y at called ⊢
    cases called with
    | both back beside => exact .both _ beside

omit same [Timeline.Exact τ] in
theorem thenWait_agrees (waits : Bool) {first : Run σ τ} {first' : Run σ' τ}
    {next : Envelope Payload → World σ τ → Run σ τ}
    {next' : Envelope Payload → World σ' τ → Run σ' τ}
    (called : Agrees c c' w w' first first')
    (goesOn : ∀ e {u : World σ τ} {u' : World σ' τ}, Beside c c' w w' u u' →
      Agrees c c' w w' (next e u) (next' e u')) :
    Agrees c c' w w' (thenWait waits first next) (thenWait waits first' next') := by
  cases called with
  | both ending beside =>
      cases ending with
      | returned e =>
          simp only [thenWait]
          split
          · exact goesOn e beside
          · exact .both _ beside
      | raised error => exact .both _ beside
      | unfinished => exact .both _ beside

theorem flush_agrees (fuel : Nat) (p : Flush) (beside : Beside c c' w w' u u') :
    Agrees c c' w w' (c.flush fuel p u) (c'.flush fuel p u') :=
  thenWait_agrees _ (callOnce_agrees same .flush p beside) fun _ =>
    finish_agrees same _ _ _ (segmentStates_agrees same _ _)

theorem collectionStatistics_agrees (fuel : Nat) (p : StatisticsQuery)
    (beside : Beside c c' w w' u u') :
    Agrees c c' w w' (c.collectionStatistics fuel p u) (c'.collectionStatistics fuel p u') := by
  rw [collectionStatistics_eq, collectionStatistics_eq]
  split
  · exact thenWait_agrees true (flush_agrees same fuel (Flush.waiting p.collection) beside)
      fun _ => callOnce_agrees same .getCollectionStatistics p
  · exact callOnce_agrees same .getCollectionStatistics p beside

theorem perform_agrees (fuel : Nat) (o : Operation) (p : o.Param)
    (beside : Beside c c' w w' u u') :
    Agrees c c' w w' (c.perform fuel o p u) (c'.perform fuel o p u') := by
  have once := callOnce_agrees same o p beside
  cases o with
  | loadCollection | loadPartitions | createIndex =>
      exact thenWait_agrees _ once fun _ => finish_agrees same _ _ _ (invoke_agrees same _ _ _)
  | flush => exact flush_agrees same fuel p beside
  | getCollectionStatistics => exact collectionStatistics_agrees same fuel p beside
  | _ => exact once

/-! ## Sessions -/

theorem step_agrees (fuel : Nat) (s : SessionStep) (beside : Beside c c' w w' u u') :
    Agrees c c' w w' (c.step fuel s u) (c'.step fuel s u') := by
  have closed : Beside c c' w w' (c.close u) (c'.close u') := beside.closeIf same true
  cases s with
  | close | leaveBlock => exact .both _ closed
  | enterBlock => exact .both _ beside
  | askState =>
      simp only [step, state]
      rw [beside.closed]
      exact .both _ beside
  | perform o p =>
      have performed := perform_agrees same fuel o p beside
      simp only [step]
      generalize c.perform fuel o p u = x at performed ⊢
      generalize c'.perform fuel o p u' = y at performed ⊢
      cases performed with
      | both ending beside => exact .both _ beside

/-- Any steps from here on give the same results and do the same. -/
theorem session_agrees (fuel : Nat) :
    ∀ (steps : List SessionStep) {u : World σ τ} {u' : World σ' τ}, Beside c c' w w' u u' →
      Agrees c c' w w' (c.session fuel steps u) (c'.session fuel steps u')
  | [], _, _, beside => .both _ beside
  | s :: rest, u, u', beside => by
      have stepped := step_agrees same fuel s beside
      simp only [session]
      generalize c.step fuel s u = x at stepped ⊢
      generalize c'.step fuel s u' = y at stepped ⊢
      cases stepped with
      | @both r v v' beside =>
          have later := session_agrees fuel rest beside
          dsimp only
          generalize c.session fuel rest v = x at later ⊢
          generalize c'.session fuel rest v' = y at later ⊢
          cases later with
          | both rs beside => exact .both _ beside

/-- **An operation has no memory.**  Take two open clients with one connection, whatever
happened on each before and whatever its clock shows, at servers that react alike from here
on.  Then an operation ends alike on both, in the same envelope or in what is raised; the
same calls with the same requests, the same sleeps and the same records are added to what
happened, in the same order; and the two are alike again. -/
theorem perform_memoryless (opened : w.closed = false) (opened' : w'.closed = false)
    (alike : c.server.Alike c'.server w.server w'.server) (fuel : Nat) (o : Operation)
    (p : o.Param) :
    (c.perform fuel o p w).1 = (c'.perform fuel o p w').1 ∧
      (∃ new, (c.perform fuel o p w).2.trace = new ++ w.trace ∧
        (c'.perform fuel o p w').2.trace = new ++ w'.trace) ∧
      (c.perform fuel o p w).2.closed = (c'.perform fuel o p w').2.closed ∧
      c.server.Alike c'.server (c.perform fuel o p w).2.server
        (c'.perform fuel o p w').2.server := by
  have performed := perform_agrees same fuel o p (.start (opened.trans opened'.symm) alike)
  generalize c.perform fuel o p w = x at performed ⊢
  generalize c'.perform fuel o p w' = y at performed ⊢
  cases performed with
  | both ending beside => exact ⟨rfl, beside.happened, beside.closed, beside.alike⟩

end

/-- A client of a server that loses so many calls before it answers one, and takes its time. -/
def recovering : Client Nat ExactTime where
  connection := terse.connection
  server := ⟨fun losses call => (⟨some (Timeline.ofSeconds (.ofInt 1)), false,
      if losses = 0 then .response ⟨call.operation.responseTitle, []⟩
      else .failed ⟨none, some (.named "UNAVAILABLE"), none⟩⟩, losses - 1),
    fun losses => (false, losses)⟩

/-- After two failed calls a load waits as it does on a new client. -/
theorem perform_memoryless_recovering :
    let seasoned := (recovering.session 1 twoQuestions (World.initial 2)).2
    seasoned.trace.length = 6 ∧ seasoned.clock ≠ (World.initial 0 : World Nat ExactTime).clock ∧
      (recovering.perform 3 .loadCollection unreportedLoad seasoned).1 =
        (recovering.perform 3 .loadCollection unreportedLoad (World.initial 0)).1 ∧
      ∃ new, (recovering.perform 3 .loadCollection unreportedLoad seasoned).2.trace =
          new ++ seasoned.trace ∧
        (recovering.perform 3 .loadCollection unreportedLoad (World.initial 0)).2.trace = new := by
  intro seasoned
  have opened : seasoned.closed = false := by decide +kernel
  have recovered : seasoned.server = 0 := by decide +kernel
  have fresh : (World.initial 0 : World Nat ExactTime).closed = false := rfl
  have alike : recovering.server.Alike recovering.server seasoned.server
      (World.initial 0 : World Nat ExactTime).server := by
    rw [recovered]
    exact .refl _ _
  obtain ⟨ending, ⟨new, trace, trace'⟩, -⟩ :=
    perform_memoryless rfl opened fresh alike 3 .loadCollection unreportedLoad
  refine ⟨by decide +kernel, by decide +kernel, ending, new, trace, ?_⟩
  simpa [World.initial] using trace'

end Client

end VectorClient
