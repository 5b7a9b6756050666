/-
# VectorClient.Proofs.Client.Issuing — the calls of an operation, in order

What an operation calls has one shape, whatever the server answers and whenever
the client is closed: its own call first and once, and after it, if it succeeded
and is to be waited for, the calls of rounds that were fixed before the first of
them.  A round is one call over and over, except that of a flush, which asks for
every collection with segments in turn.  Statistics that follow a flush come last.

* `Issued`: what was called between two worlds.
* `Rounds`: a probe makes the calls of its round in order, and all of them if it succeeds;
  `run_issued`: so a wait makes those of a round over and over, up to some call.
* `Operation.round`: the calls of one round of an operation.
* `Looks`, `Shape`: what comes after the own call, and the calls of an operation as a whole.
* `perform_issues`: every operation calls in that shape, and repeats nothing but looks.
-/
import VectorClient.Proofs.Client.AtOnce
import Mathlib.Data.List.Nodup

namespace VectorClient

set_option autoImplicit false

open World

/-! ## Between two worlds -/

/-- These were called from one world to a later one, in this order. -/
def Issued {σ τ : Type} (u v : World σ τ) (calls : List Call) : Prop :=
  callsIn v.trace = calls.reverse ++ callsIn u.trace

namespace Issued

variable {σ τ : Type} {u v w : World σ τ} {calls calls' : List Call}

theorem of_eq (same : callsIn v.trace = callsIn u.trace) : Issued u v [] := same

theorem trans (first : Issued u v calls) (later : Issued v w calls') :
    Issued u w (calls ++ calls') := by
  rw [Issued, later, first, List.reverse_append, List.append_assoc]

end Issued

/-- A probe makes the calls of a round in order: all of them if it succeeds, and otherwise
those up to where it ends. -/
def Rounds {σ τ α : Type} (round : List Call)
    (probe : World σ τ → Except Raised (Envelope α) × World σ τ) : Prop :=
  ∀ w, ∃ calls, Issued w (probe w).2 calls ∧ calls <+: round ∧
    ∀ e, (probe w).1 = .ok e → e.ok = true → calls = round

/-- The calls of a round that asks for the segments of every collection that has any. -/
def segmentCalls (targets : List (String × List Int)) : List Call :=
  (targets.filter fun target => !target.2.isEmpty).map fun target =>
    ⟨.getPersistentSegmentInfo, (CollectionTarget.mk target.1).request⟩

theorem segmentCalls_cons_of_isEmpty {name : String} {ids : List Int}
    {rest : List (String × List Int)} (none : ids.isEmpty = true) :
    segmentCalls ((name, ids) :: rest) = segmentCalls rest := by
  simp [segmentCalls, none]

theorem segmentCalls_cons {name : String} {ids : List Int} {rest : List (String × List Int)}
    (some : ¬ ids.isEmpty = true) :
    segmentCalls ((name, ids) :: rest) =
      ⟨.getPersistentSegmentInfo, (CollectionTarget.mk name).request⟩ :: segmentCalls rest := by
  simp [segmentCalls, some]

namespace Client

variable {σ τ α : Type} [Timeline τ] (c : Client σ τ)

/-! ## Rounds of calls -/

theorem invoke_issued (label : String) (call : Call) (payload : Response → α) (w : World σ τ) :
    Issued w (c.invoke label call payload w).2 (List.replicate (!w.closed).toNat call) := by
  rw [Issued, calls_invoke, List.reverse_replicate]

theorem invoke_rounds (label : String) (call : Call) (payload : Response → α) :
    Rounds [call] (c.invoke label call payload) := by
  intro w
  refine ⟨_, c.invoke_issued label call payload w, ?_, fun e back ok => ?_⟩
  · cases w.closed
    · exact List.prefix_rfl
    · exact List.nil_prefix
  · cases opened : w.closed with
    | false => rfl
    | true =>
        rw [c.invoke_of_closed label call payload opened] at back
        cases back
        cases ok

theorem segmentStates_rounds :
    ∀ (targets : List (String × List Int)) (states : SegmentStates),
      Rounds (segmentCalls targets) (c.segmentStates targets states)
  | [], _ => fun w => ⟨[], .of_eq rfl, List.nil_prefix, fun _ _ _ => rfl⟩
  | (name, ids) :: rest, states => by
      intro w
      rw [segmentStates_cons]
      by_cases none : ids.isEmpty = true
      · rw [if_pos none, segmentCalls_cons_of_isEmpty none]
        exact segmentStates_rounds rest states w
      · obtain ⟨calls, issued, along, whole⟩ := c.invoke_rounds
          ("check flushing of " ++ Text.between name)
          ⟨.getPersistentSegmentInfo, (CollectionTarget.mk name).request⟩ id w
        rw [if_neg none, segmentCalls_cons none]
        generalize asked : c.askSegments name w = x
        rw [show c.invoke _ _ id w = x from asked] at issued whole
        obtain ⟨back, v⟩ := x
        have cut : calls <+:
            ⟨.getPersistentSegmentInfo, (CollectionTarget.mk name).request⟩ ::
              segmentCalls rest := along.trans ⟨segmentCalls rest, rfl⟩
        cases back with
        | error r => exact ⟨calls, issued, cut, nofun⟩
        | ok e =>
            simp only [merge]
            cases ok : e.ok with
            | false =>
                rw [Envelope.payload?_of_not_ok ok]
                exact ⟨calls, issued, cut, fun e' back ok' => by cases back; simp [ok] at ok'⟩
            | true =>
                obtain ⟨r, rfl⟩ := c.invoke_eq_success asked ok
                obtain ⟨later, issued', along', whole'⟩ :=
                  segmentStates_rounds rest (states.update ids r) v
                obtain rfl := whole _ rfl rfl
                refine ⟨_, issued.trans issued', ?_, fun e' back ok' => ?_⟩
                · exact (List.prefix_append_right_inj _).mpr along'
                · exact congrArg _ (whole' e' back ok')

section Waits

variable {probe : World σ τ → Except Raised (Envelope α) × World σ τ} {round : List Call}
  (rounds : Rounds round probe)

include rounds

/-- A wait makes the calls of its round over and over, up to some call. -/
theorem run_issued (wait : Wait τ Raised α) (start : τ) :
    ∀ (fuel number : Nat) (w : World σ τ), ∃ calls,
      Issued w (wait.run c.pause probe start fuel number w).2 calls ∧
        calls <+: (List.replicate fuel round).flatten
  | 0, _, _ => ⟨[], .of_eq rfl, List.nil_prefix⟩
  | fuel + 1, number, w => by
      obtain ⟨calls, issued, along, whole⟩ := rounds w
      rw [Wait.run_succ, List.replicate_succ, List.flatten_cons]
      generalize probe w = probed at issued whole
      obtain ⟨back, v⟩ := probed
      have cut : calls <+: round ++ (List.replicate fuel round).flatten :=
        along.trans (List.prefix_append _ _)
      cases back with
      | error r => exact ⟨calls, issued, cut⟩
      | ok e =>
          simp only [Wait.conclude]
          split
          · exact ⟨calls, by rw [Issued, calls_note]; exact issued, cut⟩
          · -- A round that is pending has made all its calls, and a sleep makes none.
            rename_i r? pending
            have all : calls = round := whole e rfl (wait.ok_of_pending (congrArg Prod.fst pending))
            have slept : Issued v (c.pause wait.interval (Wait.note r? v)) [] :=
              .of_eq (by rw [calls_pause, calls_note])
            obtain ⟨later, issued', along'⟩ := run_issued wait start fuel (number + 1) _
            refine ⟨calls ++ later, issued.trans (slept.trans issued'), ?_⟩
            rw [all]
            exact (List.prefix_append_right_inj round).mpr along'

theorem finish_issued (fuel : Nat) (result : Envelope Payload) (wait : Wait τ Raised α)
    (w : World σ τ) :
    ∃ calls, Issued w (c.finish fuel result wait probe w).2 calls ∧
      calls <+: (List.replicate fuel round).flatten := by
  obtain ⟨calls, issued, along⟩ := c.run_issued rounds wait w.clock fuel 1 w
  generalize ran : wait.run c.pause probe w.clock fuel 1 w = x at issued
  rw [c.finish_of_run result ran]
  exact ⟨calls, issued, along⟩

end Waits

end Client

/-! ## The rounds of operations -/

namespace Operation

/-- The one call that an operation repeats while it waits, its own or that of a flush before it. -/
def probe? : Operation → Option Operation
  | .loadCollection => some .showCollections
  | .loadPartitions => some .showPartitions
  | .createIndex => some .getIndexState
  | .flush | .getCollectionStatistics => some .getPersistentSegmentInfo
  | _ => none

/-- The calls of one round of an operation that waits, where `r` answered its own call. -/
def round : (o : Operation) → o.Param → Response → List Call
  | .loadCollection, p, _ => [⟨.showCollections, CollectionLoad.lookRequest p⟩]
  | .loadPartitions, p, _ => [⟨.showPartitions, PartitionLoad.lookRequest p⟩]
  | .createIndex, p, _ => [⟨.getIndexState, (IndexBuild.target p).request⟩]
  | .flush, _, r => segmentCalls (flushTargets r)
  | _, _, _ => []

/-- The flush that an operation makes first. -/
def flush? : (o : Operation) → o.Param → Option Flush
  | .getCollectionStatistics, p =>
      if StatisticsQuery.flushes p then some (Flush.waiting (StatisticsQuery.collection p))
      else none
  | _, _ => none

variable {o : Operation} {p : o.Param}

/-- All calls of a round are of one kind. -/
theorem probe?_of_mem_round {r : Response} {call : Call} (member : call ∈ o.round p r) :
    o.probe? = some call.operation := by
  cases o with
  | loadCollection | loadPartitions | createIndex =>
      obtain rfl := List.mem_singleton.mp member
      rfl
  | flush =>
      obtain ⟨target, -, rfl⟩ := List.mem_map.mp member
      rfl
  | _ => cases member

theorem probe?_of_mem_rounds {r : Response} {n : Nat} {call : Call}
    (member : call ∈ (List.replicate n (o.round p r)).flatten) :
    o.probe? = some call.operation := by
  obtain ⟨round, repeated, member⟩ := List.mem_flatten.mp member
  obtain rfl := List.eq_of_mem_replicate repeated
  exact probe?_of_mem_round member

/-- Only the round of a flush depends on a response. -/
theorem round_eq (other : o ≠ .flush) (r r' : Response) : o.round p r = o.round p r' := by
  cases o with
  | flush => exact absurd rfl other
  | _ => rfl

/-- An operation that makes a flush first is not one, and repeats what the flush does. -/
theorem probe?_of_flush? {f : Flush} (first : o.flush? p = some f) :
    o.probe? = Operation.flush.probe? ∧ o ≠ .flush := by
  cases o with
  | getCollectionStatistics => exact ⟨rfl, nofun⟩
  | _ => cases first

end Operation

namespace Client

variable {σ τ : Type} [Timeline τ]

/-- The calls that an operation makes after its own one, which it made in the world `w`: none;
or, where it is to wait and the response has no error code, those of its rounds, up to some
call.  The rounds are all the same, and none but that of a flush depends on the response. -/
inductive Looks (c : Client σ τ) (o : Operation) (p : o.Param) (m : Wire.Message)
    (w : World σ τ) : List Call → Prop
  | none : Looks c o p m w []
  | rounds {looks : List Call} {pacing : Pacing} {r : Response} {n : Nat}
      (waits : o.pacing? p = some pacing)
      (answered : (c.server.answer w.server ⟨o, m⟩).1.outcome = .response r)
      (faultless : r.status.code = 0)
      (along : looks <+: (List.replicate n (o.round p r)).flatten)
      (fixed : o ≠ .flush → ∀ r', o.round p r' = o.round p r)
      (sole : ∀ call ∈ looks, o.probe? = some call.operation) : Looks c o p m w looks

/-- The calls of an operation that begins in the world `w`.  Whether they begin with a flush
is for the parameter to say, and the operation's own call is only made after a flush that
succeeds and leaves the client open. -/
inductive Shape (c : Client σ τ) (fuel : Nat) (o : Operation) (p : o.Param) (m : Wire.Message)
    (w : World σ τ) : List Call → Prop
  | closed (gone : w.closed = true) : Shape c fuel o p m w []
  | own {looks : List Call} (opened : w.closed = false) (direct : o.flush? p = none)
      (after : c.Looks o p m w looks) : Shape c fuel o p m w (⟨o, m⟩ :: looks)
  | flushed {f : Flush} {looks : List Call} (opened : w.closed = false)
      (first : o.flush? p = some f) (after : c.Looks .flush f f.request w looks)
      (issued : Issued w (c.perform fuel .flush f w).2 (⟨.flush, f.request⟩ :: looks))
      (went : (c.perform fuel .flush f w).1.Succeeds)
      (stays : (c.perform fuel .flush f w).2.closed = false) :
      Shape c fuel o p m w (⟨.flush, f.request⟩ :: (looks ++ [⟨o, m⟩]))
  | unflushed {f : Flush} {looks : List Call} (opened : w.closed = false)
      (first : o.flush? p = some f) (after : c.Looks .flush f f.request w looks)
      (issued : Issued w (c.perform fuel .flush f w).2 (⟨.flush, f.request⟩ :: looks))
      (failed : ¬ ((c.perform fuel .flush f w).1.Succeeds ∧
        (c.perform fuel .flush f w).2.closed = false)) :
      Shape c fuel o p m w (⟨.flush, f.request⟩ :: looks)

variable (c : Client σ τ)

/-! ## Calls of every operation -/

section Own

variable {o : Operation} {p : o.Param} {m : Wire.Message} (built : o.request p = .ok m)
  {w : World σ τ} (opened : w.closed = false)

include built opened

theorem callOnce_issued : Issued w (c.callOnce o p w).2 [⟨o, m⟩] := c.calls_callOnce built opened

/-- An operation that goes on with rounds, if it is to wait and its own call succeeds. -/
theorem thenWait_issued {pacing : Pacing} (paced : o.pacing? p = pacing.asked?)
    {next : Envelope Payload → World σ τ → Run σ τ}
    (goesOn : ∀ r v, ∃ looks n, Issued v (next (.success (o.payload r)) v).2 looks ∧
      looks <+: (List.replicate n (o.round p r)).flatten) :
    ∃ looks, Issued w (thenWait pacing.waits (c.callOnce o p w) next).2 (⟨o, m⟩ :: looks) ∧
      c.Looks o p m w looks := by
  have own := c.callOnce_issued built opened
  have classified := c.callOnce_classified built opened
  generalize c.callOnce o p w = first at own classified ⊢
  obtain ⟨ending, v⟩ := first
  cases ending with
  | raised fault => exact ⟨[], own, .none⟩
  | unfinished => exact ⟨[], own, .none⟩
  | returned e =>
      cases asked : e.ok && pacing.waits with
      | false =>
          simp only [thenWait, asked]
          exact ⟨[], own, .none⟩
      | true =>
          obtain ⟨ok, waits⟩ := Bool.and_eq_true_iff.mp asked
          obtain ⟨r, answered, faultless, rfl⟩ := classified.response_of_ok ok
          obtain ⟨looks, n, issued, along⟩ := goesOn r v
          simp only [thenWait, asked]
          have sole : ∀ call ∈ looks, o.probe? = some call.operation := fun call member =>
            Operation.probe?_of_mem_rounds (along.subset member)
          exact ⟨looks, own.trans issued, .rounds (paced.trans (if_pos waits)) answered faultless
            along (fun other r' => Operation.round_eq other r' r) sole⟩

/-- An operation that makes no flush first makes its own call first. -/
theorem perform_issues_own (fuel : Nat) (direct : o.flush? p = none) :
    ∃ looks, Issued w (c.perform fuel o p w).2 (⟨o, m⟩ :: looks) ∧ c.Looks o p m w looks := by
  have once : ∃ looks, Issued w (c.callOnce o p w).2 (⟨o, m⟩ :: looks) ∧ c.Looks o p m w looks :=
    ⟨[], c.callOnce_issued built opened, .none⟩
  cases o with
  | loadCollection | loadPartitions | createIndex =>
      refine c.thenWait_issued built opened rfl fun r v => ?_
      obtain ⟨looks, issued, along⟩ := c.finish_issued (c.invoke_rounds _ _ id) fuel _ _ v
      exact ⟨looks, fuel, issued, along⟩
  | flush =>
      refine c.thenWait_issued built opened rfl fun r v => ?_
      obtain ⟨looks, issued, along⟩ :=
        c.finish_issued (c.segmentStates_rounds (flushTargets r) []) fuel _ _ v
      exact ⟨looks, fuel, issued, along⟩
  | getCollectionStatistics =>
      have stays : StatisticsQuery.flushes p = false := by
        simpa [Operation.flush?] using direct
      simpa [perform, collectionStatistics, stays] using once
  | _ => exact once

end Own

/-- A closed client calls nothing. -/
theorem issued_of_closed (fuel : Nat) (o : Operation) (p : o.Param) {w : World σ τ}
    (closed : w.closed = true) : Issued w (c.perform fuel o p w).2 [] :=
  .of_eq (closed_of_reaches (c.perform_moves fuel o p w).reaches closed).2

/-- An operation that makes a flush first makes its own call after it, if it succeeds. -/
theorem perform_of_flush? (fuel : Nat) {o : Operation} {p : o.Param} {f : Flush}
    (first : o.flush? p = some f) (w : World σ τ) :
    c.perform fuel o p w =
      thenWait true (c.perform fuel .flush f w) fun _ u => c.callOnce o p u := by
  cases o with
  | getCollectionStatistics =>
      obtain ⟨flushes, same⟩ := Option.ite_none_right_eq_some.mp first
      obtain rfl := Option.some.inj same
      exact (c.collectionStatistics_eq fuel p w).trans (if_pos flushes)
  | _ => cases first

/-- An operation that makes a flush first makes its own call last, or not at all. -/
theorem perform_issues_flushed (fuel : Nat) {o : Operation} {p : o.Param} {m : Wire.Message}
    (built : o.request p = .ok m) {f : Flush} (first : o.flush? p = some f) {w : World σ τ}
    (opened : w.closed = false) :
    ∃ calls, Issued w (c.perform fuel o p w).2 calls ∧ c.Shape fuel o p m w calls := by
  obtain ⟨looks, issued, after⟩ :=
    c.perform_issues_own (o := .flush) (p := f) (m := f.request) rfl opened fuel rfl
  rw [c.perform_of_flush? fuel first]
  by_cases went : (c.perform fuel .flush f w).1.Succeeds
  · obtain ⟨e, back, ok⟩ := went
    have flushed : c.perform fuel .flush f w = (.returned e, (c.perform fuel .flush f w).2) :=
      Prod.ext back rfl
    rw [flushed, thenWait_of_ok rfl ok]
    cases stays : (c.perform fuel .flush f w).2.closed with
    | false =>
        exact ⟨_, issued.trans (c.callOnce_issued built stays),
          .flushed opened first after issued ⟨e, back, ok⟩ stays⟩
    | true =>
        refine ⟨_, ?_, .unflushed opened first after issued fun ⟨_, opened'⟩ => ?_⟩
        · rw [c.callOnce_of_closed built stays]
          exact issued
        · cases stays.symm.trans opened'
  · rw [thenWait_of_not_succeeds _ went]
    exact ⟨_, issued, .unflushed opened first after issued fun both => went both.1⟩

omit [Timeline τ] in
theorem Looks.count_eq_zero {c : Client σ τ} {o o' : Operation} {p : o.Param}
    {m : Wire.Message} {w : World σ τ} {looks : List Call} (after : c.Looks o p m w looks)
    (other : o.probe? ≠ some o') : (looks.map Call.operation).count o' = 0 := by
  cases after with
  | none => rfl
  | rounds waits answered faultless along fixed sole =>
      rw [List.count_eq_zero]
      intro member
      obtain ⟨call, made, rfl⟩ := List.mem_map.mp member
      exact other (sole call made)

/-- No call but those that are repeated is made twice. -/
theorem Shape.count_le_one {c : Client σ τ} {fuel : Nat} {o o' : Operation} {p : o.Param}
    {m : Wire.Message} {w : World σ τ} {calls : List Call} (shape : c.Shape fuel o p m w calls)
    (other : o.probe? ≠ some o') : (calls.map Call.operation).count o' ≤ 1 := by
  cases shape with
  | closed gone => exact Nat.zero_le 1
  | own opened direct after =>
      have looks := after.count_eq_zero other
      simp only [List.map_cons, List.count_cons, looks]
      split <;> omega
  | flushed opened first after issued went stays =>
      have ⟨same, distinct⟩ := Operation.probe?_of_flush? first
      have looks := after.count_eq_zero (same ▸ other)
      have once : [Operation.flush, o].count o' ≤ 1 :=
        List.nodup_iff_count_le_one.mp (by simp [distinct.symm]) o'
      simpa [List.count_cons, looks] using once
  | unflushed opened first after issued failed =>
      have looks := after.count_eq_zero ((Operation.probe?_of_flush? first).1 ▸ other)
      simp only [List.map_cons, List.count_cons, looks]
      split <;> omega

/-- **What an operation calls has one shape**, whatever the server answers and whenever the
client is closed. -/
theorem perform_issues (fuel : Nat) {o : Operation} {p : o.Param} {m : Wire.Message}
    (built : o.request p = .ok m) (w : World σ τ) :
    ∃ calls, Issued w (c.perform fuel o p w).2 calls ∧ c.Shape fuel o p m w calls ∧
      ∀ o', o.probe? ≠ some o' → (calls.map Call.operation).count o' ≤ 1 := by
  suffices shaped : ∃ calls, Issued w (c.perform fuel o p w).2 calls ∧
      c.Shape fuel o p m w calls by
    obtain ⟨calls, issued, shape⟩ := shaped
    exact ⟨calls, issued, shape, fun o' other => shape.count_le_one other⟩
  cases opened : w.closed with
  | true => exact ⟨[], c.issued_of_closed fuel o p opened, .closed opened⟩
  | false =>
      cases first : o.flush? p with
      | some f => exact c.perform_issues_flushed fuel built first opened
      | none =>
          obtain ⟨looks, issued, after⟩ := c.perform_issues_own built opened fuel first
          exact ⟨_, issued, .own opened first after⟩

/-- Statistics after a flush that is waited for: of all calls, only looks may be repeated. -/
theorem perform_issues_twiceReporting :
    ∃ calls, twiceReporting.Shape 1 .getCollectionStatistics (StatisticsQuery.mk "c" true)
        (StatisticsQuery.request ⟨"c", true⟩) (World.initial ()) calls ∧
      calls.map Call.operation =
        [.flush, .getPersistentSegmentInfo, .getCollectionStatistics] := by
  obtain ⟨calls, issued, shape, -⟩ := twiceReporting.perform_issues 1
    (o := .getCollectionStatistics) (p := StatisticsQuery.mk "c" true) rfl (World.initial ())
  refine ⟨calls, shape, ?_⟩
  have made : callsIn (twiceReporting.perform 1 .getCollectionStatistics
      (StatisticsQuery.mk "c" true) (World.initial ())).2.trace = calls.reverse :=
    Eq.trans issued (List.append_nil _)
  rw [← List.reverse_reverse calls, ← made]
  rfl

end Client

end VectorClient
