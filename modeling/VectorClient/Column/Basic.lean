/-
# VectorClient.Column.Basic — typed columns and batches of vectors

A `Batch` holds vectors of one kind.  A `Column` holds the rows of one field,
all of the field's type: the type is read off the column (`Column.dataType`),
so a column cannot disagree with its type.
-/
import VectorClient.Number.Basic
import VectorClient.Vocabulary

namespace VectorClient

set_option autoImplicit false

/-- Vectors of one kind: packed bits, or lists of numbers. -/
inductive Batch where
  | binary (rows : List (List UInt8))
  | float (rows : List (List Number))
  deriving DecidableEq, Repr

namespace Batch

def kind : Batch → VectorKind
  | .binary _ => .binary
  | .float _ => .float

def size : Batch → Nat
  | .binary rows => rows.length
  | .float rows => rows.length

/-- The dimension of the first vector, in bits for packed vectors. -/
def dimension : Batch → Nat
  | .binary rows => 8 * (rows.head?.map List.length).getD 0
  | .float rows => (rows.head?.map List.length).getD 0

end Batch

/-- The widths of integer columns. -/
inductive IntWidth where
  | bits8 | bits16 | bits32 | bits64
  deriving DecidableEq, Repr

namespace IntWidth

def dataType : IntWidth → DataType
  | .bits8 => .int8 | .bits16 => .int16 | .bits32 => .int32 | .bits64 => .int64

/-- The first integer past the width: two to the number of bits below the sign. -/
def limit : IntWidth → Int
  | .bits8 => 0x80 | .bits16 => 0x8000 | .bits32 => 0x80000000 | .bits64 => 0x8000000000000000

/-- Does the integer fit the signed width? -/
def Fits (w : IntWidth) (n : Int) : Prop := -w.limit ≤ n ∧ n < w.limit

instance (w : IntWidth) (n : Int) : Decidable (w.Fits n) := by unfold Fits; infer_instance

end IntWidth

/-- The precisions of columns of numbers. -/
inductive Precision where
  | single | double
  deriving DecidableEq, Repr

def Precision.dataType : Precision → DataType
  | .single => .float
  | .double => .double

/-- The two names of columns of text. -/
inductive TextKind where
  | string | varchar
  deriving DecidableEq, Repr

def TextKind.dataType : TextKind → DataType
  | .string => .string
  | .varchar => .varchar

/-- The rows of one field. -/
inductive Column where
  | bools (rows : List Bool)
  | ints (width : IntWidth) (rows : List Int)
  | numbers (precision : Precision) (rows : List Number)
  | texts (kind : TextKind) (rows : List String)
  | vectors (batch : Batch)
  deriving DecidableEq, Repr

namespace Column

def dataType : Column → DataType
  | .bools _ => .bool
  | .ints width _ => width.dataType
  | .numbers precision _ => precision.dataType
  | .texts kind _ => kind.dataType
  | .vectors batch => batch.kind.dataType

def rowCount : Column → Nat
  | .bools rows => rows.length
  | .ints _ rows => rows.length
  | .numbers _ rows => rows.length
  | .texts _ rows => rows.length
  | .vectors batch => batch.size

/-- The dimension of a column of vectors. -/
def dimension? : Column → Option Nat
  | .vectors batch => some batch.dimension
  | _ => none

end Column

/-- One named column of rows to insert. -/
structure NamedColumn where
  name : String
  column : Column
  deriving DecidableEq, Repr

/-- The schema of one field of a collection. -/
structure FieldSchema where
  name : String
  dataType : DataType
  description : String
  primaryKey : Bool
  autoId : Bool
  dimension : Option Int
  typeParams : List (String × String)
  deriving DecidableEq, Repr

end VectorClient
