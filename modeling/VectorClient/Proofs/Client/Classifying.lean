/-
# VectorClient.Proofs.Client.Classifying — what becomes of a call

What becomes of a call is decided by two things alone: how it came back, and
whether the client is closed by then.  A response decides by the code it tells whatever
else it holds, and even if the client was closed meanwhile; a closed client
explains a failure and a refusal, and nothing else that is raised.

* `Classified` says so, case by case.
* `Client.invoke_classified`: every call that is made is classified, and changes
  nothing but what its exchange with the server does and one record at most.
* `invoke_of_closed`: a closed client makes no call.
-/
import VectorClient.Proofs.Client.Moves
import VectorClient.Proofs.Client.Telling

namespace VectorClient

set_option autoImplicit false

/-! ## Calls -/

/-- What becomes of a call that was made under a label: by how it came back, and by whether
the client is closed by then. -/
inductive Classified {ε α : Type} (raise : Raised → ε) (label : String)
    (payload : Response → α) (closed : Bool) : Outcome → Ending ε α → Prop
  | success {r : Response} {reason : String} (faultless : r.Tells 0 reason) :
      Classified raise label payload closed (.response r) (.returned (.success (payload r)))
  | rejected {r : Response} {code : Int} {reason : String} (tells : r.Tells code reason)
      (faulty : code ≠ 0) :
      Classified raise label payload closed (.response r) (.returned (.serverError code reason))
  /-- A call that failed, of a client that is closed. -/
  | lost {error : RpcError} (gone : closed = true) :
      Classified raise label payload closed (.failed error) (.returned .clientNotConnected)
  | failed {error : RpcError} (opened : closed = false) :
      Classified raise label payload closed (.failed error)
        (.returned (.transportError ("Failed to " ++ label ++ ": " ++ error.describe.display)))
  /-- A call that was refused, of a client that is closed. -/
  | lostRefusal {message : String} (gone : closed = true) :
      Classified raise label payload closed (.raised (.refusal message))
        (.returned .clientNotConnected)
  | refused {message : String} (opened : closed = false) :
      Classified raise label payload closed (.raised (.refusal message))
        (.raised (raise (.refusal message)))
  /-- Anything else that is raised, of any client. -/
  | raised {r : Raised} (other : ∀ message, r ≠ .refusal message) :
      Classified raise label payload closed (.raised r) (.raised (raise r))

namespace Classified

variable {ε ε' α : Type} {raise : Raised → ε} {label : String} {payload : Response → α}
  {closed : Bool} {outcome : Outcome}

/-- What is raised may be told in other words. -/
theorem mapError {ending : Ending ε α} (f : ε → ε')
    (classified : Classified raise label payload closed outcome ending) :
    Classified (fun r => f (raise r)) label payload closed outcome (ending.mapError f) := by
  cases classified with
  | success faultless => exact .success faultless
  | rejected tells faulty => exact .rejected tells faulty
  | lost gone => exact .lost gone
  | failed opened => exact .failed opened
  | lostRefusal gone => exact .lostRefusal gone
  | refused opened => exact .refused opened
  | raised other => exact .raised other

/-- Only a response without an error code is a success. -/
theorem response_of_ok {e : Envelope α}
    (classified : Classified raise label payload closed outcome (.returned e))
    (ok : e.ok = true) :
    ∃ r, outcome = .response r ∧ r.status.code = 0 ∧ e = .success (payload r) := by
  cases classified with
  | success faultless => exact ⟨_, rfl, (Response.tells_iff.mp faultless).1.symm, rfl⟩
  | rejected | lost | failed | lostRefusal => cases ok

/-- A call of an open client that failed is a transport error. -/
theorem eq_of_failed {error : RpcError} {ending : Ending ε α}
    (classified : Classified raise label payload false (.failed error) ending) :
    ending = .returned
      (.transportError ("Failed to " ++ label ++ ": " ++ error.describe.display)) := by
  cases classified with
  | lost gone => cases gone
  | failed => rfl

/-- A response that tells of an error is a server error. -/
theorem eq_of_faulty {r : Response} {code : Int} {reason : String} {ending : Ending ε α}
    (classified : Classified raise label payload closed (.response r) ending)
    (tells : r.Tells code reason) (faulty : code ≠ 0) :
    ending = .returned (.serverError code reason) := by
  cases classified with
  | success faultless => exact absurd (tells.unique faultless).1 faulty
  | rejected tells' =>
      obtain ⟨rfl, rfl⟩ := tells.unique tells'
      rfl

end Classified

/-- The ending is an envelope of a success. -/
def Ending.Succeeds {ε α : Type} (ending : Ending ε α) : Prop :=
  ∃ e, ending = .returned e ∧ e.ok = true

namespace Client

variable {σ τ α : Type} [Timeline τ] (c : Client σ τ)

theorem closed_exchange (call : Call) (w : World σ τ) :
    (c.exchange call w).2.closed = (w.closed || (c.server.answer w.server call).1.closes) := by
  rw [exchange_eq, closed_closeIf, closed_underWay]

/-- The call of a closed client is lost at once. -/
theorem invoke_of_closed (label : String) (call : Call) (payload : Response → α)
    {w : World σ τ} (closed : w.closed = true) :
    c.invoke label call payload w = (.ok .clientNotConnected, w.log (.skipping label)) := by
  simp [invoke, closed]

section Open

variable (label : String) (call : Call) (payload : Response → α) {w : World σ τ}
  (opened : w.closed = false)

include opened

/-- A call of an open client is handed to the server, and what comes of it is classified by
the server's reaction.  At most one record is written then. -/
theorem invoke_classified :
    ∃ (back : Except Raised (Envelope α)) (r? : Option (LogRecord τ)),
      c.invoke label call payload w =
        (back, Wait.note r? (c.exchange call (w.log (.calling call.operation label))).2) ∧
      Classified id label payload (c.server.answer w.server call).1.closes
        (c.server.answer w.server call).1.outcome (.ofExcept back) := by
  have closes : (c.exchange call (w.log (.calling call.operation label))).2.closed =
      (c.server.answer w.server call).1.closes := by
    rw [closed_exchange, World.closed_log, opened, World.server_log, Bool.false_or]
  have came : (c.exchange call (w.log (.calling call.operation label))).1 =
      (c.server.answer w.server call).1.outcome := rfl
  unfold invoke
  simp only [opened, Bool.false_eq_true, if_false]
  rw [← closes, ← came]
  generalize c.exchange call (w.log (.calling call.operation label)) = x
  obtain ⟨outcome, u⟩ := x
  cases outcome with
  | response r =>
      dsimp only [classify]
      split
      · rename_i faultless
        exact ⟨.ok (.success (payload r)), none, rfl, .success (faultless ▸ r.tells_status)⟩
      · rename_i faulty
        exact ⟨.ok (.serverError r.status.code r.status.reason), some (.rejected ..), rfl,
          .rejected r.tells_status faulty⟩
  | failed error =>
      cases closed : u.closed with
      | true => exact ⟨.ok .clientNotConnected, none, if_pos closed, .lost rfl⟩
      | false =>
          exact ⟨.ok (.transportError _), some (.failed ..), if_neg (by simp [closed]),
            .failed rfl⟩
  | raised r =>
      cases r with
      | refusal message =>
          cases closed : u.closed with
          | true => exact ⟨.ok .clientNotConnected, none, if_pos closed, .lostRefusal rfl⟩
          | false =>
              exact ⟨.error (.refusal message), none, if_neg (by simp [closed]), .refused rfl⟩
      | wrongType message => exact ⟨.error (.wrongType message), none, rfl, .raised (by simp)⟩
      | other kind message => exact ⟨.error (.other kind message), none, rfl, .raised (by simp)⟩

/-- After a call the client is closed exactly if the server closed it meanwhile. -/
theorem closed_invoke :
    (c.invoke label call payload w).2.closed = (c.server.answer w.server call).1.closes := by
  obtain ⟨back, r?, invoked, -⟩ := c.invoke_classified label call payload opened
  rw [invoked, Wait.closed_note, closed_exchange, World.closed_log, opened, World.server_log,
    Bool.false_or]

end Open

/-! ## Own calls -/

omit [Timeline τ] in
/-- Nothing is waited for after a call that does not succeed. -/
theorem thenWait_of_not_succeeds (waits : Bool) {first : Run σ τ} (failed : ¬ first.1.Succeeds)
    (next : Envelope Payload → World σ τ → Run σ τ) : thenWait waits first next = first := by
  obtain ⟨ending, v⟩ := first
  cases ending with
  | returned e =>
      have notOk : e.ok = false := by
        by_contra ok
        exact failed ⟨e, rfl, by simpa using ok⟩
      simp [thenWait, notOk]
  | raised error => rfl
  | unfinished => rfl

omit [Timeline τ] in
theorem thenWait_of_ok {waits : Bool} (asked : waits = true) {e : Envelope Payload}
    (ok : e.ok = true) (v : World σ τ) (next : Envelope Payload → World σ τ → Run σ τ) :
    thenWait waits (.returned e, v) next = next e v := by
  simp [thenWait, ok, asked]

section Own

variable {o : Operation} {p : o.Param} {m : Wire.Message} (built : o.request p = .ok m)

include built

theorem callOnce_of_closed {u : World σ τ} (closed : u.closed = true) :
    c.callOnce o p u = (.returned .clientNotConnected, u.log (.skipping (o.label p))) := by
  simp [callOnce, built, invoke, closed, Ending.ofExcept, Ending.mapError]

section Open

variable {w : World σ τ} (opened : w.closed = false)

include opened

/-- The own call of an operation of an open client is classified. -/
theorem callOnce_classified :
    Classified CallFault.raised (o.label p) o.payload (c.server.answer w.server ⟨o, m⟩).1.closes
      (c.server.answer w.server ⟨o, m⟩).1.outcome (c.callOnce o p w).1 := by
  obtain ⟨back, r?, invoked, classified⟩ :=
    c.invoke_classified (o.label p) ⟨o, m⟩ o.payload opened
  have called : (c.callOnce o p w).1 = (Ending.ofExcept back).mapError .raised := by
    simp [callOnce, built, invoked]
  rw [called]
  exact classified.mapError CallFault.raised

theorem closed_callOnce :
    (c.callOnce o p w).2.closed = (c.server.answer w.server ⟨o, m⟩).1.closes := by
  have closed := c.closed_invoke (o.label p) ⟨o, m⟩ o.payload opened
  simpa [callOnce, built] using closed

end Open

/-- An own call that succeeds was answered. -/
theorem response_of_callOnce {w v : World σ τ} {e : Envelope Payload}
    (called : c.callOnce o p w = (.returned e, v)) (ok : e.ok = true) :
    ∃ r, (c.server.answer w.server ⟨o, m⟩).1.outcome = .response r ∧
      e = .success (o.payload r) := by
  cases opened : w.closed with
  | true =>
      rw [c.callOnce_of_closed built opened] at called
      cases called
      cases ok
  | false =>
      have classified := c.callOnce_classified built opened
      rw [called] at classified
      obtain ⟨r, answered, -, success⟩ := classified.response_of_ok ok
      exact ⟨r, answered, success⟩

end Own

end Client

end VectorClient
