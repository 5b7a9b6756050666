/-
# VectorClient.Client.Perform — the operations of a client

`Client.perform` runs an operation: it writes the request, makes the
operation's own call, and, if the call succeeded and the parameter asks for it,
waits for the end of what the call began.  A wait that ends well gives the
envelope of the call itself; any other ending is that of the wait.  Statistics
may be preceded by a flush that is waited for, and are read only after it.
-/
import VectorClient.Client.Progress

namespace VectorClient

set_option autoImplicit false

open Text

/-- What an operation answers with. -/
inductive Payload where
  | acknowledged (a : Acknowledgement)
  | flag (b : Bool)
  | message (r : Response)
  deriving Repr

/-- Why an operation ends without an envelope. -/
inductive CallFault where
  | request (fault : Request.Fault)
  | raised (r : Raised)
  deriving DecidableEq, Repr

/-- The payload of a successful response. -/
def Operation.payload (o : Operation) (r : Response) : Payload :=
  match o.answer with
  | .status =>
      .acknowledged (if r.status.reason.isEmpty then .silent else ⟨r.status.reason⟩)
  | .flag => .flag (r.fields.truth "value")
  | .message _ => .message r

/-- The title of the type of an operation's response. -/
def Operation.responseTitle (o : Operation) : String :=
  match o.answer with
  | .status => Response.statusTitle
  | .flag => "BoolResponse"
  | .message title => title

namespace Ending

variable {ε ε' α : Type}

def mapError (f : ε → ε') : Ending ε α → Ending ε' α
  | .returned e => .returned e
  | .raised error => .raised (f error)
  | .unfinished => .unfinished

/-- The ending of a call. -/
def ofExcept : Except ε (Envelope α) → Ending ε α
  | .ok e => .returned e
  | .error error => .raised error

end Ending

namespace Client

variable {σ τ α : Type} [Timeline τ]

/-- An ending of an operation, and the world after it. -/
abbrev Run (σ τ : Type) := Ending CallFault Payload × World σ τ

/-- A wait with the pace of a parameter. -/
def paced (pacing : Pacing) (description : String) (failureCode : Int)
    (judge : α → Judgement Raised) : Wait τ Raised α where
  description
  interval := Timeline.ofSeconds pacing.interval
  timeout := Timeline.ofSeconds pacing.timeout
  failureCode
  judge

/-- Waits, and gives `result` if the wait ends well. -/
def finish (c : Client σ τ) (fuel : Nat) (result : Envelope Payload) (wait : Wait τ Raised α)
    (probe : World σ τ → Except Raised (Envelope α) × World σ τ) (w : World σ τ) : Run σ τ :=
  match wait.run c.pause probe w.clock fuel 1 w with
  | (.returned e, w) => (.returned (if e.ok then result else e.withoutData), w)
  | (.raised r, w) => (.raised (.raised r), w)
  | (.unfinished, w) => (.unfinished, w)

/-- Goes on after a call that succeeded, if asked to wait. -/
def thenWait (waits : Bool) (first : Run σ τ)
    (next : Envelope Payload → World σ τ → Run σ τ) : Run σ τ :=
  match first with
  | (.returned e, w) => if e.ok && waits then next e w else first
  | _ => first

/-- The operation's own call. -/
def callOnce (c : Client σ τ) (o : Operation) (p : o.Param) (w : World σ τ) : Run σ τ :=
  match o.request p with
  | .error fault => (.raised (.request fault), w)
  | .ok request =>
      let (outcome, w) := c.invoke (o.label p) ⟨o, request⟩ o.payload w
      ((Ending.ofExcept outcome).mapError .raised, w)

/-- Repeats one call. -/
def probeBy (c : Client σ τ) (label : String) (call : Call) (w : World σ τ) :
    Except Raised (Envelope Response) × World σ τ := c.invoke label call id w

/-! ## Operations that may wait -/

def loadCollection (c : Client σ τ) (fuel : Nat) (p : CollectionLoad) (w : World σ τ) : Run σ τ :=
  thenWait p.pacing.waits (c.callOnce .loadCollection p w) fun result w =>
    c.finish fuel result
      (paced p.pacing ("collection " ++ between p.collection ++ " to load") unexpectedCode
        (judgeLoading [p.collection] "collection_names"))
      (c.probeBy ("check loading of " ++ between p.collection)
        ⟨.showCollections, p.lookRequest⟩) w

def loadPartitions (c : Client σ τ) (fuel : Nat) (p : PartitionLoad) (w : World σ τ) : Run σ τ :=
  let names := quotedNames p.partitions
  thenWait p.pacing.waits (c.callOnce .loadPartitions p w) fun result w =>
    c.finish fuel result
      (paced p.pacing ("partitions " ++ names ++ " of " ++ between p.collection ++ " to load")
        unexpectedCode (judgeLoading p.partitions "partition_names"))
      (c.probeBy ("check loading of partitions " ++ names)
        ⟨.showPartitions, p.lookRequest⟩) w

def createIndex (c : Client σ τ) (fuel : Nat) (p : IndexBuild) (w : World σ τ) : Run σ τ :=
  thenWait p.pacing.waits (c.callOnce .createIndex p w) fun result w =>
    c.finish fuel result
      (paced p.pacing ("index on " ++ p.target.label ++ " to build") indexFailureCode judgeIndex)
      (c.probeBy ("check index on " ++ p.target.label) ⟨.getIndexState, p.target.request⟩) w

def flush (c : Client σ τ) (fuel : Nat) (p : Flush) (w : World σ τ) : Run σ τ :=
  thenWait p.pacing.waits (c.callOnce .flush p w) fun result w =>
    let targets := match result.data with
      | some (.message r) => flushTargets r
      | _ => []
    c.finish fuel result
      (paced p.pacing ("collections " ++ quotedNames p.collections ++ " to flush") unexpectedCode
        judgeFlush)
      (c.segmentStates targets []) w

def collectionStatistics (c : Client σ τ) (fuel : Nat) (p : StatisticsQuery) (w : World σ τ) :
    Run σ τ :=
  if p.flushes then
    match c.flush fuel (Flush.waiting p.collection) w with
    | (.returned e, w) =>
        if e.ok then c.callOnce .getCollectionStatistics p w else (.returned e, w)
    | ending => ending
  else c.callOnce .getCollectionStatistics p w

/-- Runs an operation, with at most `fuel` rounds in a wait. -/
def perform (c : Client σ τ) (fuel : Nat) : (o : Operation) → o.Param → World σ τ → Run σ τ
  | .loadCollection, p, w => c.loadCollection fuel p w
  | .loadPartitions, p, w => c.loadPartitions fuel p w
  | .createIndex, p, w => c.createIndex fuel p w
  | .flush, p, w => c.flush fuel p w
  | .getCollectionStatistics, p, w => c.collectionStatistics fuel p w
  | o, p, w => c.callOnce o p w

end Client

end VectorClient
