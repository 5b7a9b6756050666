/-
# VectorClient.Proofs.Client.Logging — the log is a faithful trace of every run

All that happened to a client, but for the closing of its channel, is its account
written out (`Client.Does.story_eq`): a call is told before it is made, a failure or a
rejection after it came back, a refused invocation instead of any call, and every
round of a wait before its sleep.  So each kind of record can be read off the
account, and the account off the log.

* `Invocation.failures_happened`: the failures told are the transport errors made.
* `Client.closings_of_reaches`: the closing is told once, if the client is closed.
* `Client.Faithful`: what the log says, against an account.
* `Client.session_faithful`: every session of every client has such an account.
-/
import VectorClient.Proofs.Client.Closing
import VectorClient.Proofs.Client.Connecting
import VectorClient.Proofs.Client.Deeds
import VectorClient.Proofs.Client.Extending

namespace VectorClient

set_option autoImplicit false

/-! ## Kinds of records -/

namespace LogRecord

variable {τ : Type}

def calling? : LogRecord τ → Option (Operation × String)
  | .calling operation label => some (operation, label)
  | _ => none

def skipping? : LogRecord τ → Option String
  | .skipping label => some label
  | _ => none

/-- The text of a record of a failed call. -/
def failure? [Timeline τ] : LogRecord τ → Option String
  | .failed label message => some (LogRecord.failed label message : LogRecord τ).message
  | _ => none

def closing? : LogRecord τ → Option String
  | .closed target => some target
  | _ => none

end LogRecord

namespace Happening

variable {τ : Type}

def record? : Happening τ → Option (LogRecord τ)
  | .logged r => some r
  | _ => none

def call? : Happening τ → Option Call
  | .called call _ => some call
  | _ => none

def sleep? : Happening τ → Option τ
  | .slept duration => some duration
  | _ => none

/-- Is it the closing of the channel? -/
def isClosing (h : Happening τ) : Bool := (h.record?.bind LogRecord.closing?).isSome

end Happening

namespace World

variable {σ τ : Type} (w : World σ τ)

/-- All that happened, in order, but for the closing of the channel. -/
def story : List (Happening τ) := w.trace.reverse.filter fun h => !h.isClosing

theorem logs_eq : w.logs = w.trace.reverse.filterMap Happening.record? := by
  unfold logs
  congr 1

/-- What the closing of the channel does not count among can be read off the story. -/
theorem filterMap_story {β : Type} (view : Happening τ → Option β)
    (blind : ∀ target, view (.logged (.closed target)) = none) :
    w.story.filterMap view = w.trace.reverse.filterMap view := by
  unfold story
  rw [List.filterMap_filter]
  congr 1
  funext h
  cases h with
  | logged r => cases r <;> simp [Happening.isClosing, Happening.record?, LogRecord.closing?, blind]
  | called | probed | slept => simp [Happening.isClosing, Happening.record?]

theorem story_record {h : Happening τ} (other : h.isClosing = false) :
    (w.record h).story = w.story ++ [h] := by
  simp [story, record, other]

theorem story_log {r : LogRecord τ} (plain : r.closing? = none) :
    (w.log r).story = w.story ++ [.logged r] :=
  w.story_record (by simp [Happening.isClosing, Happening.record?, plain])

theorem story_note {r? : Option (LogRecord τ)} (plain : ∀ r, r? = some r → r.closing? = none) :
    (Wait.note r? w).story = w.story ++ r?.toList.map .logged := by
  cases r? with
  | none => exact (List.append_nil _).symm
  | some r => exact w.story_log (plain r rfl)

theorem story_closeIf (c : Client σ τ) (closes : Bool) : (c.closeIf closes w).story = w.story := by
  unfold story
  rw [Client.trace_closeIf]
  split
  · simp [Happening.isClosing, Happening.record?, LogRecord.closing?]
  · rfl

end World

/-! ## The account written out -/

namespace Invocation

variable {τ : Type} (i : Invocation)

/-- What is told of a call when it is back. -/
def record? : Option (LogRecord τ) :=
  match i.outcome, i.closed with
  | .response r, _ =>
      if r.status.code = 0 then none else some (.rejected i.label r.status.reason r.status.code)
  | .failed error, false => some (.failed i.label error.describe.display)
  | _, _ => none

def happened (deadline : Option Number.Double) : List (Happening τ) :=
  if i.refused then [.logged (.skipping i.label)]
  else .logged (.calling i.call.operation i.label) :: .called i.call deadline ::
    i.record?.toList.map .logged

/-- The message of the transport error that was made of it, if one was. -/
def transportError? : Option String :=
  match i.back with
  | .ok e => if e.status = .transportError then some e.message else none
  | .error _ => none

end Invocation

namespace WaitRound

def happened {τ : Type} (deadline : Option Number.Double) (r : WaitRound τ) : List (Happening τ) :=
  r.invocations.flatMap (·.happened deadline) ++ r.record?.toList.map .logged ++
    r.sleep?.toList.map .slept

end WaitRound

namespace Deed

variable {τ : Type}

def happened (deadline : Option Number.Double) : Deed τ → List (Happening τ)
  | .invoked i => i.happened deadline
  | .waited w => w.rounds.flatMap (·.happened deadline)
  | .closed => []

def invocations : Deed τ → List Invocation
  | .invoked i => [i]
  | .waited w => w.rounds.flatMap WaitRound.invocations
  | .closed => []

def waiting? : Deed τ → Option (Waiting τ)
  | .waited w => some w
  | _ => none

end Deed

namespace Client

variable {σ τ α : Type} [Timeline τ] {c : Client σ τ}

open World

theorem story_exchange (c : Client σ τ) (call : Call) (w : World σ τ) :
    (c.exchange call w).2.story = w.story ++ [.called call c.connection.timeout] := by
  rw [exchange_eq, story_closeIf]
  have trace : (c.underWay call w).trace = (w.record (.called call c.connection.timeout)).trace :=
    trace_underWay c call w
  unfold story
  rw [trace]
  exact story_record w rfl

theorem story_pause (c : Client σ τ) (duration : τ) (w : World σ τ) :
    (c.pause duration w).story = w.story ++ [.slept duration] := by
  rw [pause_eq, story_closeIf]
  exact story_record w rfl

theorem story_invoke (c : Client σ τ) (label : String) (call : Call) (w : World σ τ) :
    (c.invoke label call (fun _ => ()) w).2.story =
      w.story ++ (c.invocation label call w).happened c.connection.timeout := by
  cases opened : w.closed with
  | true =>
      rw [c.invoke_of_closed label call _ opened, story_log w rfl]
      simp [Invocation.happened, invocation, opened]
  | false =>
      have told := c.story_exchange call (w.log (.calling call.operation label))
      have closes : (c.exchange call (w.log (.calling call.operation label))).2.closed =
          (c.server.answer w.server call).1.closes := by
        rw [closed_exchange, closed_log, opened, server_log, Bool.false_or]
      have came : (c.exchange call (w.log (.calling call.operation label))).1 =
          (c.server.answer w.server call).1.outcome := rfl
      rw [story_log w rfl, List.append_assoc] at told
      unfold invoke Invocation.happened Invocation.record? invocation
      simp only [opened, Bool.false_eq_true, if_false]
      rw [← closes, ← came]
      generalize c.exchange call (w.log (.calling call.operation label)) = x at told ⊢
      obtain ⟨outcome, v⟩ := x
      dsimp only at told ⊢
      cases outcome with
      | response r =>
          simp only [classify]
          split
          · simpa using told
          · rw [story_log v rfl, told]
            simp
      | failed error =>
          dsimp only
          cases lost : v.closed with
          | true => simpa using told
          | false =>
              simp only [Bool.false_eq_true, if_false]
              rw [story_log v rfl, told]
              simp
      | raised r =>
          cases r with
          | refusal message =>
              dsimp only
              cases v.closed <;> simpa using told
          | wrongType message => simpa using told
          | other kind message => simpa using told

theorem Invokes.story_eq {w v : World σ τ} {is : List Invocation} (made : c.Invokes w is v) :
    v.story = w.story ++ is.flatMap (·.happened c.connection.timeout) := by
  induction made with
  | none => simp
  | call label call _ ih =>
      rw [ih, story_invoke, List.flatMap_cons, List.append_assoc]

omit [Timeline τ] in
theorem closing?_of_ofWait {r : LogRecord τ} (belongs : r.ofWait = true) : r.closing? = none := by
  cases r <;> first | rfl | cases belongs

theorem Runs.story_eq {wait : Wait τ Raised α}
    {probe : World σ τ → Except Raised (Envelope α) × World σ τ} {start : τ} {n : Nat}
    {w v : World σ τ} {rounds : List (WaitRound τ)} {ending : Ending Raised α}
    (ran : c.Runs wait probe start n w rounds ending v) :
    v.story = w.story ++ rounds.flatMap (·.happened c.connection.timeout) := by
  induction ran with
  | unfinished => simp
  | raised probed made =>
      rw [made.story_eq]
      simp [WaitRound.happened]
  | @ends n w v result is ending probed made settled =>
      have plain := fun r noted =>
        closing?_of_ofWait (wait.ofWait_of_settle n (Timeline.sub v.clock start) result r noted)
      rw [story_note v plain, made.story_eq]
      simp [WaitRound.happened]
  | @sleeps n w v u result is rounds ending probed made settled later ih =>
      have plain := fun r noted =>
        closing?_of_ofWait (wait.ofWait_of_settle n (Timeline.sub v.clock start) result r noted)
      rw [ih, story_pause, story_note v plain, made.story_eq]
      simp [WaitRound.happened]

/-- The story of a run is its account, written out. -/
theorem Does.story_eq {w v : World σ τ} {deeds : List (Deed τ)} (does : c.Does w deeds v) :
    v.story = w.story ++ deeds.flatMap (Deed.happened c.connection.timeout) := by
  induction does with
  | nothing => simp
  | invokes label call _ ih =>
      rw [ih, story_invoke, List.flatMap_cons, List.append_assoc]
      rfl
  | waits prompts ran _ ih =>
      rw [ih, ran.story_eq, List.flatMap_cons, List.append_assoc]
      rfl
  | @closes w v deeds _ ih =>
      have same : (c.close w).story = w.story := story_closeIf w c true
      rw [ih, same]
      rfl

end Client

/-! ## What can be read off an account -/

/-- All invocations of an account, those of its waits among them. -/
def invocationsIn {τ : Type} (deeds : List (Deed τ)) : List Invocation :=
  deeds.flatMap Deed.invocations

/-- The invocations that were handed to the server. -/
def madeIn {τ : Type} (deeds : List (Deed τ)) : List Invocation :=
  (invocationsIn deeds).filter fun i => !i.refused

/-- The invocations that found the client closed. -/
def refusedIn {τ : Type} (deeds : List (Deed τ)) : List Invocation :=
  (invocationsIn deeds).filter (·.refused)

def waitsIn {τ : Type} (deeds : List (Deed τ)) : List (Waiting τ) := deeds.filterMap Deed.waiting?

section Views

variable {τ β : Type} (deadline : Option Number.Double)

/-- What waits have no part in can be read off the invocations. -/
theorem filterMap_happened_of_invocations {view : Happening τ → Option β}
    (waitless : ∀ r : LogRecord τ, r.ofWait = true → view (.logged r) = none)
    (sleepless : ∀ duration, view (.slept duration) = none) (deeds : List (Deed τ)) :
    (deeds.flatMap (Deed.happened deadline)).filterMap view =
      (invocationsIn deeds).flatMap fun i => (i.happened deadline).filterMap view := by
  have round : ∀ r : WaitRound τ, (r.happened deadline).filterMap view =
      r.invocations.flatMap fun i => (i.happened deadline).filterMap view := by
    intro r
    have noted : (r.record?.toList.map Happening.logged).filterMap view = [] := by
      cases told : r.record? with
      | none => rfl
      | some record => simp [waitless record (r.ofWait record told)]
    have slept : (r.sleep?.toList.map Happening.slept).filterMap view = [] := by
      cases r.sleep? <;> simp [sleepless]
    simp [WaitRound.happened, List.filterMap_append, noted, slept, List.filterMap_flatMap]
  rw [List.filterMap_flatMap, invocationsIn, List.flatMap_assoc]
  congr 1
  funext d
  cases d with
  | invoked i => simp [Deed.happened, Deed.invocations]
  | waited w =>
      simp only [Deed.happened, Deed.invocations, List.filterMap_flatMap, round, List.flatMap_assoc]
  | closed => rfl

/-- What invocations have no part in can be read off the rounds of the waits. -/
theorem filterMap_happened_of_waits {view : Happening τ → Option β}
    (silent : ∀ i : Invocation, (i.happened deadline).filterMap view = [])
    (deeds : List (Deed τ)) :
    (deeds.flatMap (Deed.happened deadline)).filterMap view =
      (waitsIn deeds).flatMap fun w => w.rounds.flatMap fun r =>
        (r.record?.toList.map Happening.logged).filterMap view ++
          (r.sleep?.toList.map Happening.slept).filterMap view := by
  have round : ∀ r : WaitRound τ, (r.happened deadline).filterMap view =
      (r.record?.toList.map Happening.logged).filterMap view ++
        (r.sleep?.toList.map Happening.slept).filterMap view := by
    intro r
    have quiet : (r.invocations.flatMap (·.happened deadline)).filterMap view = [] := by
      rw [List.filterMap_flatMap]
      exact List.flatMap_eq_nil_iff.mpr fun i _ => silent i
    rw [WaitRound.happened, List.filterMap_append, List.filterMap_append, quiet, List.nil_append]
  induction deeds with
  | nil => rfl
  | cons d deeds ih =>
      rw [List.flatMap_cons, List.filterMap_append, ih]
      cases d with
      | invoked i =>
          show (i.happened deadline).filterMap view ++ _ = _
          rw [silent, List.nil_append]
          rfl
      | waited w =>
          show (w.rounds.flatMap (·.happened deadline)).filterMap view ++ _ =
            (w :: waitsIn deeds).flatMap _
          rw [List.filterMap_flatMap, List.flatMap_cons]
          simp only [round]
      | closed => rfl

end Views

/-! ## Views of one invocation -/

/-- A list where each element that fails a test is left out. -/
theorem flatMap_ite_eq {α β : Type} (p : α → Bool) (f : α → β) (as : List α) :
    (as.flatMap fun a => if p a then [] else [f a]) = (as.filter fun a => !p a).map f := by
  induction as with
  | nil => rfl
  | cons a as ih =>
      rw [List.flatMap_cons, ih]
      cases h : p a <;> simp [h]

namespace Invocation

variable {τ : Type} (deadline : Option Number.Double) (i : Invocation)

/-- What is told when a call is back is a rejection or a failure. -/
theorem filterMap_record? {β : Type} {view : Happening τ → Option β}
    (rejected : ∀ label reason code, view (.logged (.rejected label reason code)) = none)
    (failed : ∀ label message, view (.logged (.failed label message)) = none) :
    (i.record?.toList.map Happening.logged).filterMap view = [] := by
  unfold record?
  split
  · split
    · rfl
    · simp [rejected]
  · simp [failed]
  · rfl

theorem filterMap_happened {β : Type} {view : Happening τ → Option β}
    (rejected : ∀ label reason code, view (.logged (.rejected label reason code)) = none)
    (failed : ∀ label message, view (.logged (.failed label message)) = none) :
    (i.happened deadline).filterMap view =
      (if i.refused then [.logged (.skipping i.label)]
        else [.logged (.calling i.call.operation i.label), .called i.call deadline]).filterMap
          view := by
  unfold happened
  split
  · rfl
  · have silent := i.filterMap_record? rejected failed
    rw [← List.append_nil (List.filterMap view [_, _]), ← silent, ← List.filterMap_append]
    rfl

theorem callings_happened :
    (i.happened deadline).filterMap (fun h : Happening τ => h.record?.bind LogRecord.calling?) =
      if i.refused then [] else [(i.call.operation, i.label)] := by
  rw [i.filterMap_happened deadline (fun _ _ _ => rfl) (fun _ _ => rfl)]
  cases i.refused <;> rfl

theorem calls_happened :
    (i.happened deadline : List (Happening τ)).filterMap Happening.call? =
      if i.refused then [] else [i.call] := by
  rw [i.filterMap_happened deadline (fun _ _ _ => rfl) (fun _ _ => rfl)]
  cases i.refused <;> rfl

theorem skippings_happened :
    (i.happened deadline).filterMap (fun h : Happening τ => h.record?.bind LogRecord.skipping?) =
      if !i.refused then [] else [i.label] := by
  rw [i.filterMap_happened deadline (fun _ _ _ => rfl) (fun _ _ => rfl)]
  cases i.refused <;> rfl

theorem waits_happened :
    (i.happened deadline).filterMap
      (fun h : Happening τ => h.record?.bind (Option.guard LogRecord.ofWait)) = [] := by
  rw [i.filterMap_happened deadline (fun _ _ _ => rfl) (fun _ _ => rfl)]
  cases i.refused <;> rfl

theorem sleeps_happened :
    (i.happened deadline : List (Happening τ)).filterMap Happening.sleep? = [] := by
  rw [i.filterMap_happened deadline (fun _ _ _ => rfl) (fun _ _ => rfl)]
  cases i.refused <;> rfl

/-- A call that failed, of a client that was closed by then, is lost. -/
theorem lost_of_closed {error : RpcError} (made : i.refused = false)
    (failed : i.outcome = .failed error) (gone : i.closed = true) :
    i.back = .ok .clientNotConnected := by
  obtain ⟨label, call, refused, outcome, closed, back, lost, classified⟩ := i
  have how := classified made
  dsimp only at failed gone how ⊢
  subst failed
  subst gone
  cases back with
  | error r => cases how
  | ok e =>
      cases how with
      | lost _ => rfl
      | failed opened => cases opened

/-- The failure told of an invocation is the transport error made of it. -/
theorem failures_happened [Timeline τ] :
    (i.happened deadline).filterMap (fun h : Happening τ => h.record?.bind LogRecord.failure?) =
      i.transportError?.toList := by
  obtain ⟨label, call, refused, outcome, closed, back, lost, classified⟩ := i
  cases refused with
  | true =>
      obtain rfl := lost rfl
      rfl
  | false =>
      have how := classified rfl
      cases back with
      | error r =>
          cases how with
          | refused opened => rfl
          | raised other => rfl
      | ok e =>
          cases how with
          | success tells =>
              have faultless := (Response.tells_iff.mp tells).1.symm
              simp [happened, record?, faultless, transportError?, Happening.record?,
                LogRecord.failure?, Envelope.success]
          | rejected tells faulty =>
              obtain ⟨rfl, rfl⟩ := Response.tells_iff.mp tells
              simp [happened, record?, faulty, transportError?, Happening.record?,
                LogRecord.failure?, Envelope.serverError]
          | lost gone =>
              subst gone
              rfl
          | failed opened =>
              subst opened
              rfl
          | lostRefusal gone => rfl

end Invocation

namespace WaitRound

variable {τ : Type} (r : WaitRound τ)

theorem waits_told :
    (r.record?.toList.map Happening.logged).filterMap
        (fun h => h.record?.bind (Option.guard LogRecord.ofWait)) ++
      (r.sleep?.toList.map Happening.slept).filterMap
        (fun h => h.record?.bind (Option.guard LogRecord.ofWait)) = r.record?.toList := by
  have slept : (r.sleep?.toList.map Happening.slept).filterMap
      (fun h => h.record?.bind (Option.guard LogRecord.ofWait)) = [] := by
    cases r.sleep? <;> rfl
  rw [slept, List.append_nil]
  cases told : r.record? with
  | none => rfl
  | some record => simp [Happening.record?, r.ofWait record told]

theorem sleeps_told :
    (r.record?.toList.map Happening.logged).filterMap Happening.sleep? ++
      (r.sleep?.toList.map Happening.slept).filterMap Happening.sleep? = r.sleep?.toList := by
  cases r.record? <;> cases r.sleep? <;> rfl

end WaitRound

/-! ## The closing -/

namespace Client

variable {σ τ : Type} [Timeline τ] {c : Client σ τ}

open World

/-- The closing of the channel is told once, if the client is closed. -/
def TellsClosing (c : Client σ τ) (w : World σ τ) : Prop :=
  w.logs.filterMap LogRecord.closing? = if w.closed then [c.connection.target] else []

omit [Timeline τ] in
theorem TellsClosing.of_silent {w v : World σ τ} (told : c.TellsClosing w) {h : Happening τ}
    (trace : v.trace = h :: w.trace) (other : h.isClosing = false) (closed : v.closed = w.closed) :
    c.TellsClosing v := by
  have quiet : h.record?.bind LogRecord.closing? = none := by
    simpa [Happening.isClosing, -Option.bind_eq_none_iff] using other
  unfold TellsClosing at told ⊢
  rw [closed, ← told, logs_eq, logs_eq, trace, List.filterMap_filterMap, List.filterMap_filterMap,
    List.reverse_cons, List.filterMap_append]
  simp [quiet]

omit [Timeline τ] in
theorem TellsClosing.closeIf {w : World σ τ} (told : c.TellsClosing w) (closes : Bool) :
    c.TellsClosing (c.closeIf closes w) := by
  unfold TellsClosing at told ⊢
  rw [closed_closeIf, logs_eq, trace_closeIf]
  rw [logs_eq] at told
  cases closed : w.closed with
  | true => simpa [closed] using told
  | false =>
      rw [closed] at told
      cases closes with
      | false => simpa using told
      | true => simpa [Happening.record?, LogRecord.closing?] using told

/-- Whatever is done with a client, its closing is told once and no more. -/
theorem closings_of_reaches {u v : World σ τ} (reaches : c.Reaches u v)
    (told : c.TellsClosing u) : c.TellsClosing v := by
  induction reaches with
  | refl => exact told
  | @tail w v _ change ih =>
      cases change with
      | close => exact ih.closeIf true
      | move move =>
          cases move with
          | log r plain =>
              refine ih.of_silent rfl ?_ rfl
              cases r with
              | closed target => exact absurd rfl (plain target)
              | _ => rfl
          | exchange call opened =>
              rw [exchange_eq]
              have silent := trace_underWay c call w
              exact (ih.of_silent silent rfl (closed_underWay c call w)).closeIf _
          | pause duration =>
              rw [pause_eq]
              have silent := trace_asleep c duration w
              exact (ih.of_silent silent rfl (closed_asleep c duration w)).closeIf _

/-! ## Runs -/

/-- What the log and the trace of a world say, against an account of how it came about. -/
structure Faithful (c : Client σ τ) (deeds : List (Deed τ)) (w : World σ τ) : Prop where
  /-- The calls told are the calls made, in order. -/
  callings : w.logs.filterMap LogRecord.calling? =
    (madeIn deeds).map fun i => (i.call.operation, i.label)
  calls : (callsIn w.trace).reverse = (madeIn deeds).map (·.call)
  /-- One skipping is told for each invocation that found the client closed. -/
  skippings : w.logs.filterMap LogRecord.skipping? = (refusedIn deeds).map (·.label)
  /-- One failure is told for each transport error made, in its words. -/
  failures : w.logs.filterMap LogRecord.failure? =
    (invocationsIn deeds).filterMap Invocation.transportError?
  /-- A call that failed of a client that was closed by then is no transport error. -/
  lost : ∀ i ∈ madeIn deeds, ∀ error, i.outcome = .failed error → i.closed = true →
    i.back = .ok .clientNotConnected
  /-- What waits tell is told of the waits, in order, and they sleep as often as they tell. -/
  waits : w.logs.filter LogRecord.ofWait = (waitsIn deeds).flatMap Waiting.records
  sleeps : (sleepsIn w.trace).reverse = (waitsIn deeds).flatMap Waiting.sleeps
  concluded : ∀ wait ∈ waitsIn deeds, ∀ ok, wait.succeeded? = some ok → wait.Concluded ok
  closings : w.logs.filterMap LogRecord.closing? =
    if w.closed then [c.connection.target] else []

theorem Does.concluded {w v : World σ τ} {deeds : List (Deed τ)} (does : c.Does w deeds v) :
    ∀ wait ∈ waitsIn deeds, ∀ ok, wait.succeeded? = some ok → wait.Concluded ok := by
  induction does with
  | nothing => exact nofun
  | invokes label call _ ih => exact ih
  | closes _ ih => exact ih
  | @waits _ wait _ prompts w u v rounds ending deeds ran _ ih =>
      intro waiting member ok returned
      rcases List.mem_cons.mp member with rfl | member
      · have concluded := ran.concluded prompts returned
        rwa [← returned] at concluded
      · exact ih waiting member ok returned

/-- What is in the log of a client that was just made is in no view of its runs. -/
def Greeting (r : LogRecord τ) : Prop :=
  r.calling? = none ∧ r.skipping? = none ∧ r.failure? = none ∧ r.ofWait = false ∧ r.closing? = none

theorem exists_greeting {t : Transport} {start : σ} {w : World σ τ}
    (connected : (c.connection.connect t start).2 = .ok w) :
    ∃ r, Greeting r ∧ w = (World.initial start).log r := by
  rw [Connection.snd_connect, map_eq_ok_iff] at connected
  obtain ⟨⟨⟩, -, rfl⟩ := connected
  refine ⟨_, ?_, rfl⟩
  split <;> exact ⟨rfl, rfl, rfl, rfl, rfl⟩

omit [Timeline τ] in
theorem callsIn_reverse (w : World σ τ) :
    (callsIn w.trace).reverse = w.trace.reverse.filterMap Happening.call? := by
  rw [List.filterMap_reverse]
  rfl

omit [Timeline τ] in
theorem sleepsIn_reverse (w : World σ τ) :
    (sleepsIn w.trace).reverse = w.trace.reverse.filterMap Happening.sleep? := by
  rw [List.filterMap_reverse]
  rfl

/-- A run from a client that was just made is told as its account has it. -/
theorem Does.faithful {start : σ} {r : LogRecord τ} (greeting : Greeting r) {v : World σ τ}
    {deeds : List (Deed τ)} (does : c.Does ((World.initial start).log r) deeds v)
    (reaches : c.Reaches ((World.initial start).log r) v) : c.Faithful deeds v := by
  obtain ⟨calling, skipping, failure, ofWait, closing⟩ := greeting
  have story : v.story = .logged r :: deeds.flatMap (Deed.happened c.connection.timeout) := by
    rw [does.story_eq, story_log _ closing]
    rfl
  -- A view of the log that is blind to the closing is one of the account.
  have seen : ∀ {β : Type} (view : LogRecord τ → Option β),
      (∀ target, view (.closed target) = none) → view r = none →
      v.logs.filterMap view = (deeds.flatMap (Deed.happened c.connection.timeout)).filterMap
        fun h => h.record?.bind view := by
    intro β view blind silent
    rw [logs_eq, List.filterMap_filterMap, ← filterMap_story v _ blind, story]
    simp [Happening.record?, silent]
  have happened : ∀ {β : Type} (view : Happening τ → Option β),
      (∀ target, view (.logged (.closed target)) = none) → view (.logged r) = none →
      v.trace.reverse.filterMap view =
        (deeds.flatMap (Deed.happened c.connection.timeout)).filterMap view := by
    intro β view blind silent
    rw [← filterMap_story v _ blind, story]
    simp [silent]
  constructor
  case callings =>
    rw [seen _ (fun _ => rfl) calling, filterMap_happened_of_invocations]
    · simp only [Invocation.callings_happened, flatMap_ite_eq]
      rfl
    · intro r belongs
      cases r <;> first | rfl | cases belongs
    · exact fun _ => rfl
  case calls =>
    rw [callsIn_reverse, happened _ (fun _ => rfl) rfl, filterMap_happened_of_invocations]
    · simp only [Invocation.calls_happened, flatMap_ite_eq]
      rfl
    · exact fun _ _ => rfl
    · exact fun _ => rfl
  case skippings =>
    rw [seen _ (fun _ => rfl) skipping, filterMap_happened_of_invocations]
    · simp only [Invocation.skippings_happened, flatMap_ite_eq, Bool.not_not]
      rfl
    · intro r belongs
      cases r <;> first | rfl | cases belongs
    · exact fun _ => rfl
  case failures =>
    rw [seen _ (fun _ => rfl) failure, filterMap_happened_of_invocations]
    · simp only [Invocation.failures_happened]
      exact (List.filterMap_eq_flatMap_toList _ _).symm
    · intro r belongs
      cases r <;> first | rfl | cases belongs
    · exact fun _ => rfl
  case lost =>
    intro i member error failed gone
    have made := (List.mem_filter.mp member).2
    exact i.lost_of_closed (by simpa using made) failed gone
  case waits =>
    rw [← List.filterMap_eq_filter, seen _ (fun _ => rfl) (by simp [ofWait]),
      filterMap_happened_of_waits]
    · simp only [WaitRound.waits_told, ← List.filterMap_eq_flatMap_toList]
      rfl
    · exact fun i => i.waits_happened _
  case sleeps =>
    rw [sleepsIn_reverse, happened _ (fun _ => rfl) rfl, filterMap_happened_of_waits]
    · simp only [WaitRound.sleeps_told, ← List.filterMap_eq_flatMap_toList]
      rfl
    · exact fun i => i.sleeps_happened _
  case concluded => exact does.concluded
  case closings =>
    refine closings_of_reaches reaches ?_
    show List.filterMap _ (World.logs _) = []
    simp [World.logs, World.initial, closing]

/-- **The log is a faithful trace of every run.**  Whatever is done with a client, at any
server, has an account in terms of the client's own invocations and waits, and the log says
what the account says (`Faithful`): the calls handed to the server, the invocations refused
to a closed client, the transport errors made, each wait with its sleeps, its probes and its
end, and the closing. -/
theorem session_faithful {t : Transport} {start : σ} {w₀ : World σ τ}
    (connected : (c.connection.connect t start).2 = .ok w₀) (fuel : Nat)
    (steps : List SessionStep) :
    ∃ deeds, c.Does w₀ deeds (c.session fuel steps w₀).2 ∧
      c.Faithful deeds (c.session fuel steps w₀).2 := by
  obtain ⟨r, greeting, rfl⟩ := exists_greeting connected
  obtain ⟨deeds, does⟩ := c.session_accounted fuel steps ((World.initial start).log r)
  exact ⟨deeds, does, does.faithful greeting (c.session_reaches fuel steps _)⟩

/-- A load that times out after one sleep, and a closing by hand. -/
def abandonedLoad : List SessionStep := [.perform .loadCollection impatientLoad, .close]

theorem session_faithful_abandonedLoad :
    let w₀ : World Unit Number := (World.initial ()).log (.connected unreporting.connection.target)
    ∃ deeds, unreporting.Does w₀ deeds (unreporting.session 2 abandonedLoad w₀).2 ∧
      unreporting.Faithful deeds (unreporting.session 2 abandonedLoad w₀).2 ∧
      (unreporting.session 2 abandonedLoad w₀).2.logs.filterMap LogRecord.closing? =
        [unreporting.connection.target] := by
  intro w₀
  have durations : unreporting.connection.channelOptions?.isSome = true := by decide +kernel
  obtain ⟨options, set⟩ := Option.isSome_iff_exists.mp durations
  have connected : (unreporting.connection.connect ⟨none, none, true⟩ ()).2 = .ok w₀ := by
    rw [Connection.snd_connect, Connection.openChannel_of_options set]
    rfl
  obtain ⟨deeds, does, faithful⟩ := session_faithful connected 2 abandonedLoad
  refine ⟨deeds, does, faithful, ?_⟩
  have last : ∀ s w, (unreporting.session 2 [s, .close] w).2 =
      unreporting.close (unreporting.step 2 s w).2 := fun _ _ => rfl
  have closed : (unreporting.session 2 abandonedLoad w₀).2.closed = true := by
    rw [abandonedLoad, last, closed_close]
  rw [faithful.closings, closed]
  rfl

end Client

end VectorClient
