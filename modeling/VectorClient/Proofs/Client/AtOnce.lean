/-
# VectorClient.Proofs.Client.AtOnce — operations that do not wait

An operation that is not asked to wait is its own call and nothing else, and the
call is classified by how it came back: all operations share one classification
and differ in their request, their label and the shape of their payload.

* `Operation.Carries`: the payloads of operations, in their four shapes.
* `perform_of_not_waiting`: an operation that is not asked to wait is its own call.
* `perform_classified`: so it is classified, whichever of the operations it is.
-/
import VectorClient.Proofs.Client.Watching
import VectorClient.Proofs.Param.Bounds

namespace VectorClient

set_option autoImplicit false

open World

/-! ## Payloads -/

namespace Operation

/-- The operations that are answered by a status alone. -/
def acknowledged : List Operation :=
  [.createCollection, .dropCollection, .loadCollection, .releaseCollection, .createPartition,
   .dropPartition, .loadPartitions, .releasePartitions, .createAlias, .dropAlias, .alterAlias,
   .createIndex, .dropIndex]

/-- The operations that are answered by a truth value. -/
def flagged : List Operation := [.hasCollection, .hasPartition]

/-- The payload that an operation takes from a response: the reason that is told, or that none
is; a truth value; or the response itself. -/
inductive Carries (o : Operation) (r : Response) : Payload → Prop
  | silent {code : Int} (among : o ∈ acknowledged) (nothing : r.Tells code "") :
      Carries o r (.acknowledged ⟨"Success"⟩)
  | said {code : Int} {reason : String} (among : o ∈ acknowledged) (tells : r.Tells code reason)
      (something : reason ≠ "") : Carries o r (.acknowledged ⟨reason⟩)
  | flag {b : Bool} (among : o ∈ flagged) (held : r.fields.Holds "value" .truth false b) :
      Carries o r (.flag b)
  | message (other : o ∉ acknowledged ∧ o ∉ flagged) : Carries o r (.message r)

theorem answer_eq_status_iff {o : Operation} : o.answer = .status ↔ o ∈ acknowledged := by
  cases o <;> decide

theorem answer_eq_flag_iff {o : Operation} : o.answer = .flag ↔ o ∈ flagged := by
  cases o <;> decide

theorem carries_payload (o : Operation) (r : Response) : o.Carries r (o.payload r) := by
  unfold payload
  split
  · rename_i shape
    have among := answer_eq_status_iff.mp shape
    have tells := r.tells_status
    by_cases nothing : r.status.reason = ""
    · rw [nothing] at tells ⊢
      exact .silent among tells
    · rw [if_neg (by simpa using nothing)]
      exact .said among tells nothing
  · rename_i shape
    exact .flag (answer_eq_flag_iff.mp shape) (Datum.Fields.holds_truth_iff.mpr rfl)
  · rename_i title shape
    refine .message ⟨fun among => ?_, fun among => ?_⟩
    · cases shape.symm.trans (answer_eq_status_iff.mpr among)
    · cases shape.symm.trans (answer_eq_flag_iff.mpr among)

end Operation

namespace Client

variable {σ τ : Type} [Timeline τ] (c : Client σ τ)

/-! ## Without a wait -/

omit [Timeline τ] in
/-- Nothing is waited for unless it is asked for. -/
theorem thenWait_of_not_waiting {pacing : Pacing} (atOnce : pacing.asked? = none)
    (first : Run σ τ) (next : Envelope Payload → World σ τ → Run σ τ) :
    thenWait pacing.waits first next = first := by
  have waits : pacing.waits = false := by simpa [Pacing.asked?] using atOnce
  obtain ⟨ending, v⟩ := first
  cases ending <;> simp [thenWait, waits]

/-- An operation that is not asked to wait is its own call. -/
theorem perform_of_not_waiting (fuel : Nat) {o : Operation} {p : o.Param}
    (atOnce : o.pacing? p = none) (w : World σ τ) :
    c.perform fuel o p w = c.callOnce o p w := by
  cases o with
  | loadCollection | loadPartitions | createIndex | flush =>
      exact thenWait_of_not_waiting atOnce _ _
  | getCollectionStatistics =>
      have stays : StatisticsQuery.flushes p = false := by
        simpa [Operation.pacing?, Flush.waiting, Pacing.asked?] using atOnce
      simp [perform, collectionStatistics, stays]
  | _ => rfl

/-- **An operation that does not wait makes one call, and what it comes to is decided by how
the call came back and whether the client is closed by then.**  Of a client that is closed
before, nothing is called.  A success has the payload of the operation, and the error of a call
that failed is described by what it tells. -/
theorem perform_classified (fuel : Nat) {o : Operation} {p : o.Param} {m : Wire.Message}
    (built : o.request p = .ok m) (atOnce : o.pacing? p = none) (w : World σ τ) :
    let turn := (c.server.answer w.server ⟨o, m⟩).1
    let run := c.perform fuel o p w
    (w.closed = true →
      run.1 = .returned .clientNotConnected ∧ callsIn run.2.trace = callsIn w.trace) ∧
    (w.closed = false →
      callsIn run.2.trace = ⟨o, m⟩ :: callsIn w.trace ∧ run.2.closed = turn.closes ∧
        Classified CallFault.raised (o.label p) o.payload turn.closes turn.outcome run.1) ∧
    (∀ r, o.Carries r (o.payload r)) ∧
    ∀ (error : RpcError) (text : String), error.Tells text → error.describe.display = text := by
  intro turn run
  have once : run = c.callOnce o p w := c.perform_of_not_waiting fuel atOnce w
  rw [once]
  refine ⟨fun closed => ?_, fun opened => ⟨?_, ?_, ?_⟩, o.carries_payload, fun _ _ tells => ?_⟩
  · rw [c.callOnce_of_closed built closed]
    exact ⟨rfl, rfl⟩
  · exact c.calls_callOnce built opened
  · exact c.closed_callOnce built opened
  · exact c.callOnce_classified built opened
  · exact tells.describes

/-- A client of a server from which every call comes back in one way. -/
def meeting (outcome : Outcome) : Client Unit Number where
  connection :=
    ⟨"localhost", 1, .zero, none, .zero, false, .zero, none, false, none, none, none, []⟩
  server := ⟨fun _ _ => (⟨none, false, outcome⟩, ()), fun _ => (false, ())⟩

/-- A call that did not reach the server. -/
def lostOnTheWay : RpcError :=
  ⟨none, some (.named "UNAVAILABLE"), some (.text "no route to host")⟩

/-- A response that tells of an error, and holds a value besides. -/
def withError : Response :=
  ⟨"BoolResponse",
    [("status", .message [("error_code", .int 4), ("reason", .text "not found")]),
     ("value", .truth true)]⟩

theorem perform_classified_unanswered :
    ((meeting (.failed lostOnTheWay)).perform 1 .hasCollection (CollectionTarget.mk "c")
        (World.initial ())).1 =
      .returned (.transportError
        "Failed to check collection 'c': UNAVAILABLE: no route to host") ∧
    ((meeting (.response withError)).perform 1 .hasCollection (CollectionTarget.mk "c")
        (World.initial ())).1 = .returned (.serverError 4 "not found") := by
  constructor
  · obtain ⟨-, opened, -, described⟩ := (meeting (.failed lostOnTheWay)).perform_classified 1
      (o := .hasCollection) (p := CollectionTarget.mk "c") rfl rfl (World.initial ())
    refine (opened rfl).2.2.eq_of_failed.trans ?_
    rw [described lostOnTheWay _ (.details rfl (by decide) rfl (by decide))]
    rfl
  · obtain ⟨-, opened, -⟩ := (meeting (.response withError)).perform_classified 1
      (o := .hasCollection) (p := CollectionTarget.mk "c") rfl rfl (World.initial ())
    have tells : withError.Tells 4 "not found" :=
      .nested (by decide) (.given rfl) (.given rfl) (.given rfl)
    exact (opened rfl).2.2.eq_of_faulty tells (by decide)

end Client

end VectorClient
