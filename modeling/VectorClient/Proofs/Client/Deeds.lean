/-
# VectorClient.Proofs.Client.Deeds — an account of what a client did

What a client does is told as a list of deeds: an invocation by itself, a wait with
the invocations of each of its rounds, a closing by hand.  `Client.Does` says that a
list of deeds leads from one world to another, and it is made of the client's own
functions: each invocation is one of `Client.invoke` in the world it finds, each wait
one of `Wait.run` round by round.  What an account holds beyond the trace is how each
invocation came back and how many probes a wait made.

* `Invocation`: with how it came back goes that it was classified.
* `Client.Runs.concluded`: a wait that returns logs each sleep and then its end.
* `Client.perform_accounted`, `Client.session_accounted`: whatever is done has an account.
-/
import VectorClient.Client.Session
import VectorClient.Proofs.Client.Shapes

namespace VectorClient

set_option autoImplicit false

/-! ## Deeds -/

/-- One invocation of a client. -/
structure Invocation where
  label : String
  call : Call
  /-- The client was closed before it. -/
  refused : Bool
  /-- How the server brought the call back, if it was made. -/
  outcome : Outcome
  /-- The client was closed by then. -/
  closed : Bool
  /-- What was made of it, but for the data. -/
  back : Except Raised (Envelope Unit)
  lost_of_refused : refused = true → back = .ok .clientNotConnected
  classified : refused = false → Classified id label (fun _ => ()) closed outcome (.ofExcept back)

namespace LogRecord

variable {τ : Type}

/-- Does the record belong to a wait? -/
def ofWait : LogRecord τ → Bool
  | .waiting _ _ | .completed _ _ | .stopped _ _ _ | .gaveUp _ _ | .timedOut _ _ => true
  | _ => false

end LogRecord

/-- One round of a wait: its probe, its record and its sleep. -/
structure WaitRound (τ : Type) where
  invocations : List Invocation
  record? : Option (LogRecord τ)
  sleep? : Option τ
  ofWait : ∀ r, record? = some r → r.ofWait = true

/-- A wait: what for, its rounds, and, if it returned, whether with a success. -/
structure Waiting (τ : Type) where
  description : String
  rounds : List (WaitRound τ)
  succeeded? : Option Bool

namespace Waiting

variable {τ : Type} (w : Waiting τ)

def records : List (LogRecord τ) := w.rounds.filterMap WaitRound.record?

def sleeps : List τ := w.rounds.filterMap WaitRound.sleep?

/-- One probe is made in every round. -/
def probes : Nat := w.rounds.length

/-- Every sleep was told under its number, and then one record told the end: a completion
with the number of probes, or a warning. -/
def Concluded (ok : Bool) : Prop :=
  ∃ closing, w.records = (List.range w.sleeps.length).map
      (fun k => .waiting w.description (k + 1)) ++ [closing] ∧
    w.probes = w.sleeps.length + 1 ∧
    if ok then closing = .completed w.description w.probes else closing.level = .warning

end Waiting

inductive Deed (τ : Type) where
  | invoked (i : Invocation)
  | waited (w : Waiting τ)
  | closed

/-- Whether an ending is returned, and then whether it is a success. -/
def Ending.succeeded? {ε α : Type} : Ending ε α → Option Bool
  | .returned e => some e.ok
  | _ => none

/-! ## Rounds -/

namespace Wait

variable {τ ε α : Type} [Timeline τ] (w : Wait τ ε α) (round : Nat) (elapsed : τ)
  {result : Envelope α}

theorem ofWait_of_settle (result : Envelope α) :
    ∀ r, (w.settle round elapsed result).2 = some r → r.ofWait = true := by
  intro r noted
  unfold settle at noted
  split at noted
  · cases noted
    rfl
  · split at noted
    · cases noted
    · cases noted
      rfl
    · cases noted
      rfl
    · split at noted <;> cases noted <;> rfl

/-- A round that does not end the wait is told under its number. -/
theorem snd_settle_of_pending (pending : (w.settle round elapsed result).1 = none) :
    (w.settle round elapsed result).2 = some (.waiting w.description round) := by
  unfold settle at pending ⊢
  split at pending
  · cases pending
  · split at pending
    · cases pending
    · cases pending
    · cases pending
    · split at pending
      · cases pending
      · rename_i inTime
        simp only [inTime]
        rfl

/-- A round that ends the wait tells so, as a completion if the end is a success and as a
warning otherwise. -/
theorem exists_closing_of_settle (whole : result.ok = true → ∃ a, result = .success a)
    {e : Envelope α} (ends : (w.settle round elapsed result).1 = some (.returned e)) :
    ∃ closing, (w.settle round elapsed result).2 = some closing ∧
      if e.ok then closing = .completed w.description round else closing.level = .warning := by
  unfold settle at ends ⊢
  cases ok : result.ok with
  | false =>
      rw [Envelope.payload?_of_not_ok ok] at ends ⊢
      cases ends
      exact ⟨_, rfl, by simp [ok, LogRecord.level]⟩
  | true =>
      obtain ⟨a, rfl⟩ := whole ok
      rw [Envelope.payload?_success] at ends ⊢
      dsimp only at ends ⊢
      cases judged : w.judge a with
      | broken error => simp [judged] at ends
      | failed reason =>
          simp only [judged] at ends ⊢
          cases ends
          exact ⟨_, rfl, rfl⟩
      | complete =>
          simp only [judged] at ends ⊢
          cases ends
          exact ⟨_, rfl, rfl⟩
      | pending =>
          simp only [judged] at ends ⊢
          split at ends
          · rename_i late
            cases ends
            simp only [late, if_true]
            exact ⟨_, rfl, rfl⟩
          · cases ends

end Wait

namespace Client

variable {σ τ α : Type} [Timeline τ]

/-! ## Accounts -/

/-- What comes after an invocation is the same for every payload. -/
theorem snd_invoke (c : Client σ τ) (label : String) (call : Call) (payload : Response → α)
    (w : World σ τ) :
    (c.invoke label call payload w).2 = (c.invoke label call (fun _ => ()) w).2 := by
  unfold invoke
  split
  · rfl
  · generalize c.exchange call (w.log (.calling call.operation label)) = x
    obtain ⟨outcome, v⟩ := x
    cases outcome with
    | response r =>
        simp only [classify]
        split <;> rfl
    | failed error =>
        dsimp only
        split <;> rfl
    | raised r =>
        cases r with
        | refusal message =>
            dsimp only
            split <;> rfl
        | wrongType message => rfl
        | other kind message => rfl

/-- The invocation that a client makes in a world. -/
def invocation (c : Client σ τ) (label : String) (call : Call) (w : World σ τ) : Invocation where
  label
  call
  refused := w.closed
  outcome := (c.server.answer w.server call).1.outcome
  closed := (c.server.answer w.server call).1.closes
  back := (c.invoke label call (fun _ => ()) w).1
  lost_of_refused closed := by rw [c.invoke_of_closed label call _ closed]
  classified opened := by
    obtain ⟨back, r?, invoked, classified⟩ := c.invoke_classified label call (fun _ => ()) opened
    rw [invoked]
    exact classified

/-- Invocations that lead from one world to another. -/
inductive Invokes (c : Client σ τ) : World σ τ → List Invocation → World σ τ → Prop
  | none (w : World σ τ) : Invokes c w [] w
  | call (label : String) (call : Call) {w v : World σ τ} {is : List Invocation}
      (later : Invokes c (c.invoke label call (fun _ => ()) w).2 is v) :
      Invokes c w (c.invocation label call w :: is) v

/-- The rounds of a wait, from one that is counted under a number, to the end. -/
inductive Runs (c : Client σ τ) (wait : Wait τ Raised α)
    (probe : World σ τ → Except Raised (Envelope α) × World σ τ) (start : τ) :
    Nat → World σ τ → List (WaitRound τ) → Ending Raised α → World σ τ → Prop
  | unfinished (n : Nat) (w : World σ τ) : Runs c wait probe start n w [] .unfinished w
  | raised {n : Nat} {w v : World σ τ} {r : Raised} {is : List Invocation}
      (probed : probe w = (.error r, v)) (made : c.Invokes w is v) :
      Runs c wait probe start n w [⟨is, none, none, nofun⟩] (.raised r) v
  | ends {n : Nat} {w v : World σ τ} {result : Envelope α} {is : List Invocation}
      {ending : Ending Raised α} (probed : probe w = (.ok result, v)) (made : c.Invokes w is v)
      (settled : (wait.settle n (Timeline.sub v.clock start) result).1 = some ending) :
      Runs c wait probe start n w
        [⟨is, _, none, wait.ofWait_of_settle n (Timeline.sub v.clock start) result⟩] ending
        (Wait.note (wait.settle n (Timeline.sub v.clock start) result).2 v)
  | sleeps {n : Nat} {w v u : World σ τ} {result : Envelope α} {is : List Invocation}
      {rounds : List (WaitRound τ)} {ending : Ending Raised α}
      (probed : probe w = (.ok result, v)) (made : c.Invokes w is v)
      (settled : (wait.settle n (Timeline.sub v.clock start) result).1 = none)
      (later : Runs c wait probe start (n + 1) (c.pause wait.interval
        (Wait.note (wait.settle n (Timeline.sub v.clock start) result).2 v)) rounds ending u) :
      Runs c wait probe start n w
        (⟨is, _, some wait.interval, wait.ofWait_of_settle n (Timeline.sub v.clock start) result⟩ ::
          rounds) ending u

/-- Deeds that lead from one world to another. -/
inductive Does (c : Client σ τ) : World σ τ → List (Deed τ) → World σ τ → Prop
  | nothing (w : World σ τ) : Does c w [] w
  | invokes (label : String) (call : Call) {w v : World σ τ} {deeds : List (Deed τ)}
      (later : Does c (c.invoke label call (fun _ => ()) w).2 deeds v) :
      Does c w (.invoked (c.invocation label call w) :: deeds) v
  | waits {α : Type} {wait : Wait τ Raised α}
      {probe : World σ τ → Except Raised (Envelope α) × World σ τ} (prompts : Prompts probe)
      {w u v : World σ τ} {rounds : List (WaitRound τ)} {ending : Ending Raised α}
      {deeds : List (Deed τ)} (ran : c.Runs wait probe w.clock 1 w rounds ending u)
      (later : Does c u deeds v) :
      Does c w (.waited ⟨wait.description, rounds, ending.succeeded?⟩ :: deeds) v
  | closes {w v : World σ τ} {deeds : List (Deed τ)} (later : Does c (c.close w) deeds v) :
      Does c w (.closed :: deeds) v

/-- There is an account of what leads from one world to another. -/
def Accounted (c : Client σ τ) (w v : World σ τ) : Prop := ∃ deeds, c.Does w deeds v

theorem Invokes.trans {c : Client σ τ} {w u v : World σ τ} {is is' : List Invocation}
    (first : c.Invokes w is u) (second : c.Invokes u is' v) : c.Invokes w (is ++ is') v := by
  induction first with
  | none => exact second
  | call label call _ ih => exact .call label call (ih second)

theorem Does.trans {c : Client σ τ} {w u v : World σ τ} {deeds deeds' : List (Deed τ)}
    (first : c.Does w deeds u) (second : c.Does u deeds' v) : c.Does w (deeds ++ deeds') v := by
  induction first with
  | nothing => exact second
  | invokes label call _ ih => exact .invokes label call (ih second)
  | waits prompts ran _ ih => exact .waits prompts ran (ih second)
  | closes _ ih => exact .closes (ih second)

theorem Accounted.refl (c : Client σ τ) (w : World σ τ) : c.Accounted w w := ⟨[], .nothing w⟩

theorem Accounted.trans {c : Client σ τ} {w u v : World σ τ} (first : c.Accounted w u)
    (second : c.Accounted u v) : c.Accounted w v := by
  obtain ⟨deeds, does⟩ := first
  obtain ⟨deeds', does'⟩ := second
  exact ⟨deeds ++ deeds', does.trans does'⟩

/-! ## Waits that return -/

/-- A wait that returns has told every sleep under its number, and then its end. -/
theorem Runs.closing {c : Client σ τ} {wait : Wait τ Raised α}
    {probe : World σ τ → Except Raised (Envelope α) × World σ τ} (prompts : Prompts probe)
    {start : τ} {n : Nat} {w v : World σ τ} {rounds : List (WaitRound τ)}
    {ending : Ending Raised α} (ran : c.Runs wait probe start n w rounds ending v)
    {e : Envelope α} (returned : ending = .returned e) :
    ∃ closing, rounds.filterMap WaitRound.record? =
        (List.range (rounds.filterMap WaitRound.sleep?).length).map
          (fun k => .waiting wait.description (n + k)) ++ [closing] ∧
      rounds.length = (rounds.filterMap WaitRound.sleep?).length + 1 ∧
      if e.ok then
        closing = .completed wait.description (n + (rounds.filterMap WaitRound.sleep?).length)
      else closing.level = .warning := by
  induction ran with
  | unfinished => cases returned
  | raised => cases returned
  | @ends n w v result is ending probed made settled =>
      subst returned
      have prompt := prompts w result (congrArg Prod.fst probed)
      obtain ⟨closing, noted, told⟩ :=
        wait.exists_closing_of_settle n _ prompt.shaped.exists_of_ok settled
      refine ⟨closing, ?_, rfl, told⟩
      simp [noted]
  | @sleeps n w v u result is rounds ending probed made settled later ih =>
      obtain ⟨closing, told, length, last⟩ := ih returned
      have noted := wait.snd_settle_of_pending n _ settled
      refine ⟨closing, ?_, ?_, ?_⟩
      · simp only [List.filterMap_cons, noted, told, List.length_cons, List.range_succ_eq_map,
          List.map_cons, List.map_map, List.cons_append, Nat.add_zero]
        congr 2
        apply List.map_congr_left
        intro k _
        show LogRecord.waiting _ _ = LogRecord.waiting _ _
        rw [Nat.succ_eq_add_one, Nat.add_assoc, Nat.add_comm 1 k]
      · simp [length]
      · simpa [Nat.add_assoc, Nat.add_comm 1] using last

theorem Runs.concluded {c : Client σ τ} {wait : Wait τ Raised α}
    {probe : World σ τ → Except Raised (Envelope α) × World σ τ} (prompts : Prompts probe)
    {start : τ} {w v : World σ τ} {rounds : List (WaitRound τ)} {ending : Ending Raised α}
    (ran : c.Runs wait probe start 1 w rounds ending v) {ok : Bool}
    (returned : ending.succeeded? = some ok) :
    (Waiting.mk wait.description rounds (some ok)).Concluded ok := by
  cases ending with
  | raised r => cases returned
  | unfinished => cases returned
  | returned e =>
      cases returned
      obtain ⟨closing, told, length, last⟩ := ran.closing prompts rfl
      refine ⟨closing, ?_, length, ?_⟩
      · simpa [Waiting.records, Waiting.sleeps, Nat.add_comm] using told
      · simpa [Waiting.probes, length, Nat.add_comm] using last

/-! ## Everything that is done has an account -/

variable (c : Client σ τ)

theorem invoke_invokes (label : String) (call : Call) (payload : Response → α) (w : World σ τ) :
    ∃ is, c.Invokes w is (c.invoke label call payload w).2 := by
  rw [snd_invoke]
  exact ⟨_, .call label call (.none _)⟩

theorem segmentStates_invokes (targets : List (String × List Int)) (states : SegmentStates)
    (w : World σ τ) : ∃ is, c.Invokes w is (c.segmentStates targets states w).2 :=
  segmentStates_related (R := fun w v => ∃ is, c.Invokes w is v) (fun w => ⟨[], .none w⟩)
    (fun ⟨_, first⟩ ⟨_, second⟩ => ⟨_, first.trans second⟩)
    (fun _ w => c.invoke_invokes _ _ _ w) targets states w

theorem run_runs (wait : Wait τ Raised α)
    {probe : World σ τ → Except Raised (Envelope α) × World σ τ}
    (probes : ∀ w, ∃ is, c.Invokes w is (probe w).2) (start : τ) :
    ∀ (fuel n : Nat) (w : World σ τ), ∃ rounds,
      c.Runs wait probe start n w rounds (wait.run c.pause probe start fuel n w).1
        (wait.run c.pause probe start fuel n w).2
  | 0, n, w => ⟨[], .unfinished n w⟩
  | fuel + 1, n, w => by
      obtain ⟨is, made⟩ := probes w
      rw [Wait.run_succ]
      cases probed : probe w with | mk back v =>
      rw [probed] at made
      cases back with
      | error r => exact ⟨_, .raised probed made⟩
      | ok result =>
          simp only [Wait.conclude]
          split
          · rename_i ending r? settled
            obtain rfl : (wait.settle n (Timeline.sub v.clock start) result).2 = r? :=
              congrArg Prod.snd settled
            exact ⟨_, .ends probed made (congrArg Prod.fst settled)⟩
          · rename_i r? settled
            obtain rfl : (wait.settle n (Timeline.sub v.clock start) result).2 = r? :=
              congrArg Prod.snd settled
            obtain ⟨rounds, ran⟩ := run_runs wait probes start fuel (n + 1) _
            exact ⟨_, .sleeps probed made (congrArg Prod.fst settled) ran⟩

theorem finish_accounted (fuel : Nat) (result : Envelope Payload) (wait : Wait τ Raised α)
    {probe : World σ τ → Except Raised (Envelope α) × World σ τ} (prompts : Prompts probe)
    (probes : ∀ w, ∃ is, c.Invokes w is (probe w).2) (w : World σ τ) :
    c.Accounted w (c.finish fuel result wait probe w).2 := by
  obtain ⟨rounds, ran⟩ := c.run_runs wait probes w.clock fuel 1 w
  have waited : c.Accounted w (wait.run c.pause probe w.clock fuel 1 w).2 :=
    ⟨_, .waits prompts ran (.nothing _)⟩
  unfold finish
  split <;> rename_i back <;> rw [back] at waited <;> exact waited

theorem callOnce_accounted (o : Operation) (p : o.Param) (w : World σ τ) :
    c.Accounted w (c.callOnce o p w).2 := by
  unfold callOnce
  split
  · exact .refl c w
  · rename_i request _
    dsimp only
    rw [snd_invoke]
    exact ⟨_, .invokes (o.label p) ⟨o, request⟩ (.nothing _)⟩

theorem thenWait_accounted (waits : Bool) {first : Run σ τ} {w : World σ τ}
    {next : Envelope Payload → World σ τ → Run σ τ} (called : c.Accounted w first.2)
    (goesOn : ∀ e u, c.Accounted u (next e u).2) :
    c.Accounted w (thenWait waits first next).2 := by
  unfold thenWait
  split
  · split
    · exact called.trans (goesOn _ _)
    · exact called
  · exact called

theorem flush_accounted (fuel : Nat) (p : Flush) (w : World σ τ) :
    c.Accounted w (c.flush fuel p w).2 :=
  c.thenWait_accounted _ (c.callOnce_accounted .flush p w) fun _ _ =>
    c.finish_accounted _ _ _ (c.segmentStates_prompts _ _) (c.segmentStates_invokes _ _) _

theorem collectionStatistics_accounted (fuel : Nat) (p : StatisticsQuery) (w : World σ τ) :
    c.Accounted w (c.collectionStatistics fuel p w).2 := by
  rw [collectionStatistics_eq]
  split
  · exact c.thenWait_accounted true (c.flush_accounted fuel _ w) fun _ u =>
      c.callOnce_accounted .getCollectionStatistics p u
  · exact c.callOnce_accounted .getCollectionStatistics p w

/-- Every operation has an account, however it ends. -/
theorem perform_accounted (fuel : Nat) (o : Operation) (p : o.Param) (w : World σ τ) :
    c.Accounted w (c.perform fuel o p w).2 := by
  have once := c.callOnce_accounted o p w
  cases o with
  | loadCollection | loadPartitions | createIndex =>
      exact c.thenWait_accounted _ once fun _ _ =>
        c.finish_accounted _ _ _ (c.invoke_prompts _ _ _) (c.invoke_invokes _ _ _) _
  | flush => exact c.flush_accounted fuel p w
  | getCollectionStatistics => exact c.collectionStatistics_accounted fuel p w
  | _ => exact once

theorem step_accounted (fuel : Nat) (s : SessionStep) (w : World σ τ) :
    c.Accounted w (c.step fuel s w).2 := by
  cases s with
  | close | leaveBlock => exact ⟨_, .closes (.nothing _)⟩
  | enterBlock | askState => exact .refl c w
  | perform o p => exact c.perform_accounted fuel o p w

/-- Every session has an account. -/
theorem session_accounted (fuel : Nat) :
    ∀ (steps : List SessionStep) (w : World σ τ), c.Accounted w (c.session fuel steps w).2
  | [], w => .refl c w
  | s :: rest, w => (c.step_accounted fuel s w).trans (session_accounted fuel rest _)

end Client

end VectorClient
