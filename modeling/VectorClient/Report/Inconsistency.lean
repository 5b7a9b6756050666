/-
# VectorClient.Report.Inconsistency — fields that do not fit together

What the cross-field check of a parameter can find once every field is well
formed by itself.
-/
import VectorClient.Column.Vectors
import VectorClient.Value.Printed

namespace VectorClient

set_option autoImplicit false

open Text

/-- A contradiction between fields of one parameter. -/
inductive Inconsistency where
  /-- A field schema without a type. -/
  | typeUnset
  /-- A vector field without a dimension. -/
  | dimensionMissing (field : String)
  /-- A packed vector field whose dimension is no whole number of bytes. -/
  | dimensionUneven (field : String)
  /-- A column without a type. -/
  | columnUntyped (field : String)
  /-- A vector column whose rows are no batch. -/
  | columnBatch (field : String) (fault : BatchFault)
  /-- A vector column whose rows are of the other kind. -/
  | columnKind (field : String) (declared : DataType) (held : VectorKind)
  /-- A scalar column with a row that is not of its type. -/
  | columnRow (field : String) (row : Nat) (value : Value) (declared : DataType)
  /-- Columns of different lengths; the lengths in increasing order. -/
  | rowCounts (counts : List Nat)
  /-- Two columns of one name. -/
  | duplicateNames
  /-- Target vectors that are no batch. -/
  | batch (fault : BatchFault)
  | leftBatch (fault : BatchFault)
  | rightBatch (fault : BatchFault)
  | sideKinds
  | sideDimensions (left right : Nat)
  /-- A metric that does not compare vectors of the kind. -/
  | metricKind (metric : MetricType) (kind : VectorKind)
  /-- A result whose payload does not match its status. -/
  | payload
  deriving Repr

namespace Inconsistency

def message : Inconsistency → String
  | .typeUnset => "data_type must be set"
  | .dimensionMissing field => "vector field '" ++ field ++ "' requires a dimension"
  | .dimensionUneven field =>
      "binary vector field '" ++ field ++ "' needs a dimension divisible by 8"
  | .columnUntyped field => "field '" ++ field ++ "' has no data type"
  | .columnBatch field fault => "field '" ++ field ++ "': " ++ fault.message
  | .columnKind field declared held =>
      "field '" ++ field ++ "' is " ++ Vocabulary.word declared ++ " but holds " ++
        Vocabulary.word held.dataType ++ " data"
  | .columnRow field row value declared =>
      value.inMessage fun shown =>
        "field '" ++ field ++ "' row " ++ toString row ++ ": " ++ shown ++
          " is not a valid " ++ Vocabulary.word declared ++ " value"
  | .rowCounts counts =>
      "row count differs between fields: " ++ bracketed "[" (counts.map toString) "]"
  | .duplicateNames => "duplicate field names"
  | .batch fault => fault.message
  | .leftBatch fault => "left vectors: " ++ fault.message
  | .rightBatch fault => "right vectors: " ++ fault.message
  | .sideKinds => "left and right vectors must be of the same type"
  | .sideDimensions left right =>
      "left and right vectors differ in dimension: " ++ toString left ++ " vs " ++ toString right
  | .metricKind metric kind =>
      "metric type " ++ Vocabulary.word metric ++ " cannot be used with " ++
        Vocabulary.word kind.dataType ++ " data"
  | .payload => "payload must be present if and only if status is SUCCESS"

end Inconsistency

end VectorClient
