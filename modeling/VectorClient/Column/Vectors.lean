/-
# VectorClient.Column.Vectors — batches of vectors from values

A vector is a non-empty byte string or a non-empty row of numbers; a truth value
is no number.  A batch is a non-empty list of vectors that agree with the first
one in kind and length.  The fault of a list that is no batch is the fault of
the first element, in order, that is no vector or disagrees with the first; a
different kind is noticed before a different length.
-/
import VectorClient.Value.Basic

namespace VectorClient

set_option autoImplicit false

/-- Why a value is no vector. -/
inductive VectorFault where
  | emptyBinary
  | emptyFloat
  | notNumbers
  | unsupported (typeName : String)
  deriving DecidableEq, Repr

def VectorFault.message : VectorFault → String
  | .emptyBinary => "binary vector must not be empty"
  | .emptyFloat => "float vector must not be empty"
  | .notNumbers => "float vector must contain only numbers"
  | .unsupported typeName =>
      "unsupported vector type " ++ typeName ++ ", expected a list of floats or bytes"

/-- Why a list of values is no batch. -/
inductive BatchFault where
  | empty
  /-- A value of this type has no elements to take. -/
  | notASequence (typeName : String)
  | vector (fault : VectorFault)
  | mixedKinds
  | mixedLengths (first other : Nat)
  deriving DecidableEq, Repr

def BatchFault.message : BatchFault → String
  | .empty => "vector batch must not be empty"
  | .notASequence typeName => "'" ++ typeName ++ "' object is not subscriptable"
  | .vector fault => fault.message
  | .mixedKinds => "all vectors in a batch must be of the same type"
  | .mixedLengths first other =>
      "all vectors in a batch must have the same dimension, got " ++ toString first ++ " and " ++
        toString other

/-- One vector of either kind. -/
inductive VectorRow where
  | binary (row : List UInt8)
  | float (row : List Number)
  deriving DecidableEq, Repr

namespace VectorRow

def kind : VectorRow → VectorKind
  | .binary _ => .binary
  | .float _ => .float

def length : VectorRow → Nat
  | .binary row => row.length
  | .float row => row.length

/-- The numbers of a row, if it holds nothing else. -/
def numbers? : List Value → Option (List Number)
  | [] => some []
  | .number n :: rest => (numbers? rest).map (n :: ·)
  | _ => none

/-- A non-empty byte string. -/
def ofBytes : List UInt8 → Except VectorFault VectorRow
  | [] => .error .emptyBinary
  | row => .ok (.binary row)

/-- A non-empty row of numbers. -/
def ofItems : List Value → Except VectorFault VectorRow
  | [] => .error .emptyFloat
  | items => match numbers? items with
    | some row => .ok (.float row)
    | none => .error .notNumbers

def ofValue : Value → Except VectorFault VectorRow
  | .bytes bs => ofBytes bs
  | .byteArray bs => ofBytes bs
  | .list items => ofItems items
  | .tuple items => ofItems items
  | v => .error (.unsupported v.typeName)

/-- The vector of a value, if it agrees with the first vector of its batch. -/
def ofValueLike (first : VectorRow) (v : Value) : Except BatchFault VectorRow :=
  match ofValue v with
  | .error fault => .error (.vector fault)
  | .ok row =>
      if row.kind ≠ first.kind then .error .mixedKinds
      else if row.length ≠ first.length then .error (.mixedLengths first.length row.length)
      else .ok row

/-- The vectors of further values, up to the first fault. -/
def ofValuesLike (first : VectorRow) : List Value → Except BatchFault (List VectorRow)
  | [] => .ok []
  | v :: rest =>
      match ofValueLike first v with
      | .error fault => .error fault
      | .ok row => (ofValuesLike first rest).map (row :: ·)

def binary? : VectorRow → Option (List UInt8)
  | .binary row => some row
  | .float _ => none

def float? : VectorRow → Option (List Number)
  | .binary _ => none
  | .float row => some row

end VectorRow

namespace Batch

/-- The batch of rows that share the kind of the first. -/
def ofRows : VectorRow → List VectorRow → Batch
  | .binary row, rest => .binary (row :: rest.filterMap VectorRow.binary?)
  | .float row, rest => .float (row :: rest.filterMap VectorRow.float?)

def ofValues : List Value → Except BatchFault Batch
  | [] => .error .empty
  | v :: rest =>
      match VectorRow.ofValue v with
      | .error fault => .error (.vector fault)
      | .ok first => (VectorRow.ofValuesLike first rest).map (ofRows first)

/-- The batch of a value that may be any sequence.  An empty value of any type is
an empty batch. -/
def ofValue (v : Value) : Except BatchFault Batch :=
  if v.isTruthy then
    match v.elements? with
    | some items => ofValues items
    | none => .error (.notASequence v.typeName)
  else .error .empty

end Batch

end VectorClient
