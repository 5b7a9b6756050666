/-
# VectorClient.Failure — errors that leave the library

Every way in which a construction, a conversion, a check or a result can end
other than with a value, as a cause with its text.
-/
import VectorClient.Param.Catalog
import VectorClient.Request.Fault
import VectorClient.Result.Envelope

namespace VectorClient

set_option autoImplicit false

open Text

inductive Failure where
  /-- A parameter was refused. -/
  | refused (report : Report)
  /-- A result was refused. -/
  | malformed (report : Report)
  /-- Reading arguments was aborted. -/
  | aborted (cause : Abort)
  /-- Arguments cannot be bound to names. -/
  | binding (fault : BindingFault)
  /-- A request cannot be written. -/
  | request (fault : Request.Fault)
  /-- Values are no batch of vectors. -/
  | batch (fault : BatchFault)
  /-- A duration has no number of milliseconds. -/
  | endlessDuration
  | notAMember (vocabulary : String) (value : Value)
  | notHashable (typeName : String)
  | notOrdered (symbol : String) (left right : Value)
  | noLength (typeName : String)
  /-- A result that is no success, as an error. -/
  | api (error : ApiError)
  deriving Repr

namespace Failure

def message : Failure → String
  | .refused report => report.text
  | .malformed report => report.labelledText
  | .aborted .integerTooLarge => "int too large to convert to float"
  | .aborted .keywordNotText => "keywords must be strings"
  | .aborted .receiverNamed =>
      (BindingFault.boundTwice "ParamBase.__init__" Blueprint.receiver).message
  | .binding fault => fault.message
  | .request fault => fault.message
  | .batch fault => fault.message
  | .endlessDuration => "cannot convert float infinity to integer"
  | .notAMember vocabulary value =>
      value.inMessage fun shown => shown ++ " is not a valid " ++ vocabulary
  | .notHashable typeName => "unhashable type: " ++ quoted typeName
  | .notOrdered symbol left right =>
      quoted symbol ++ " not supported between instances of " ++ quoted left.typeName ++ " and " ++
        quoted right.typeName
  | .noLength typeName => "object of type " ++ quoted typeName ++ " has no len()"
  | .api error => error.text

end Failure

/-- The value of a verdict, or the failure that it stands for. -/
def Verdict.require {α : Type} (refused : List Entry → Failure) : Verdict α → Except Failure α
  | .accepted a => .ok a
  | .rejected entries => .error (refused entries)
  | .aborted cause => .error (.aborted cause)

namespace Parameter

/-- Builds a parameter of a class, or tells why not. -/
def require (c : ParamClass) (kw : Keywords) : Except Failure Parameter :=
  (build c kw).require fun entries => .refused (c.blueprint.report entries)

/-- Two parameters that are the same have the same hash, if they have one. -/
def hashed (p q : Parameter) : Except Failure Unit :=
  match p.unhashable?.or q.unhashable? with
  | some typeName => .error (.notHashable typeName)
  | none => .ok ()

end Parameter

namespace Connection

def channelOptions (p : Connection) : Except Failure (List (String × Value)) :=
  match p.channelOptions? with
  | some options => .ok options
  | none => .error .endlessDuration

end Connection

namespace Envelope

/-- Builds an envelope that a caller wrote. -/
def build (kw : Keywords) : Except Failure (Envelope Value) :=
  (blueprint.build kw).require fun entries => .malformed (blueprint.report entries)

end Envelope

def Acknowledgement.build (kw : Keywords) : Except Failure Acknowledgement :=
  (blueprint.build kw).require fun entries => .malformed (blueprint.report entries)

/-- The member of a vocabulary that a value names. -/
def Member.ofValue (vocabulary : String) (v : Value) : Except Failure Member :=
  match v.asText?.bind (Member.find? vocabulary) with
  | some m => .ok m
  | none => .error (.notAMember vocabulary v)

/-- The four-byte components of any sequence of numbers. -/
def Request.components (v : Value) : Except Failure (List UInt8) :=
  match v.elements? with
  | none => .error (.noLength v.typeName)
  | some items =>
      let bytes := Request.each (fun item => match item.asNumber? with
        | some n => Request.component n
        | none => .error .componentNotNumber) items
      (bytes.map List.flatten).mapError .request

end VectorClient
