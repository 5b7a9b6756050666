/-
# VectorClient.Client.Progress — how far the server has come

The looks that a waiting operation takes at the server.  Loading is judged by
percentages, of which the last one reported for a name counts; an index by its
state; a flush by the states of the segments that the server chose to flush.
-/
import VectorClient.Client.Basic
import VectorClient.Request.Basic

namespace VectorClient

set_option autoImplicit false

open Text

/-! ## Loading -/

/-- The percentage of what is fully loaded. -/
def fullyLoaded : Int := 100

/-- The last percentage reported for a name, where names and percentages are
reported side by side. -/
def lastReported {π : Type} (reported : List String) (percentages : List π) (name : String) :
    Option π :=
  ((reported.zip percentages).reverse.find? fun e => e.1 == name).map Prod.snd

/-- Is every name reported, with a last percentage that is `full`? -/
def allLoaded {π : Type} (full : π → Bool) (names reported : List String) (percentages : List π) :
    Bool :=
  names.all fun name => (lastReported reported percentages name).any full

/-- The judgement of a listing whose names are in the given field. -/
def judgeLoading {ε : Type} (names : List String) (field : String) (r : Response) : Judgement ε :=
  .ofPredicates (fun _ => none)
    (fun r : Response => allLoaded (fullyLoaded ≤ ·) names (r.fields.texts field)
      (r.fields.ints "inMemory_percentages")) r

/-! ## Indexes -/

/-- The state of an index that is built. -/
def indexFinished : Int := 3

/-- The state of an index whose build has failed. -/
def indexFailed : Int := 4

/-- The error code of a failed build. -/
def indexFailureCode : Int := 21

/-- The error code of any other failure that a wait reports. -/
def unexpectedCode : Int := 1

/-- Why a build has failed, if it has. -/
def indexFailure? (r : Response) : Option String :=
  if r.fields.int "state" = indexFailed then
    let reason := r.fields.text "fail_reason"
    some (if reason.isEmpty then "index build failed" else reason)
  else none

def judgeIndex {ε : Type} (r : Response) : Judgement ε :=
  .ofPredicates indexFailure? (fun r => r.fields.int "state" = indexFinished) r

/-! ## Segments -/

/-- The state of a segment that is flushed. -/
def segmentFlushed : Int := 4

/-- States of segments by their identifiers. -/
abbrev SegmentStates := List (Int × Int)

namespace SegmentStates

/-- Writes the state of a segment over an earlier one. -/
def insert (states : SegmentStates) (segment state : Int) : SegmentStates :=
  if states.any fun e => e.1 == segment then
    states.map fun e => if e.1 == segment then (segment, state) else e
  else states ++ [(segment, state)]

/-- Writes the reported states of the segments among `ids`, in order. -/
def update (states : SegmentStates) (ids : List Int) (r : Response) : SegmentStates :=
  ((r.fields.messages "infos").filter fun info => ids.contains (info.int "segmentID")).foldl
    (fun states info => states.insert (info.int "segmentID") (info.int "state")) states

end SegmentStates

/-- The segments that a flush names, by collection. -/
def flushTargets (r : Response) : List (String × List Int) :=
  (r.fields.entries "coll_segIDs").map fun (name, ids) => (name, ids.ints "data")

def judgeFlush {ε : Type} (states : SegmentStates) : Judgement ε :=
  .ofPredicates (fun _ => none)
    (fun states : SegmentStates => states.all fun e => e.2 == segmentFlushed) states

namespace Client

variable {σ τ : Type} [Timeline τ]

/-- Asks for the segments of each collection that has any, in order, and merges
their states into one map.  The first answer that is no success ends it. -/
def segmentStates (c : Client σ τ) :
    List (String × List Int) → SegmentStates → World σ τ →
      Except Raised (Envelope SegmentStates) × World σ τ
  | [], states, w => (.ok (.success states), w)
  | (name, ids) :: rest, states, w =>
      if ids.isEmpty then segmentStates c rest states w
      else
        let call : Call := ⟨.getPersistentSegmentInfo, (CollectionTarget.mk name).request⟩
        match c.invoke ("check flushing of " ++ between name) call id w with
        | (.error r, w) => (.error r, w)
        | (.ok e, w) => match e.payload? with
          | none => (.ok e.withoutData, w)
          | some r => segmentStates c rest (states.update ids r) w

end Client

end VectorClient
