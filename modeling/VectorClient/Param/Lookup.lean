/-
# VectorClient.Param.Lookup — searches, queries and distances

Target vectors form one batch, and the metric has to compare vectors of its
kind.  The two sides of a distance are batches of one kind and one dimension.
-/
import VectorClient.Param.Targets

namespace VectorClient

set_option autoImplicit false

/-- The timestamps are natural numbers. -/
def Codec.timestamp : Codec Int := .integer ⟨none, some 0, none⟩

/-- The fault of a metric that does not compare vectors of a batch's kind. -/
def MetricType.mismatch? (m : MetricType) (batch : Batch) : Option Inconsistency :=
  if m.kind = batch.kind then none else some (.metricKind m batch.kind)

/-- Find the nearest neighbours of target vectors. -/
structure Search where
  collection : String
  partitions : List String
  metric : MetricType
  field : String
  topK : Int
  expr : String
  outFields : List String
  vectors : Batch
  roundDecimal : Int
  /-- Index-specific parameters, passed on verbatim. -/
  params : String
  travelTimestamp : Int
  guaranteeTimestamp : Int
  deriving DecidableEq, Repr

namespace Search

def blueprint (title : String) : Blueprint Search where
  title
  Raw := String × List String × MetricType × String × Int × String × List String × List Value ×
    Int × String × Int × Int × Unit
  fields :=
    .name "collection_name"
      (.anyNames "partition_names"
        (.cons "metric_type" .metric (some .l2)
          (.name "vector_field_name"
            (.cons "top_k" (.integer ⟨some 0, none, none⟩) none
              (.cons "expr" .text (some "")
                (.anyNames "out_fields"
                  (.cons "vectors" (.rows 0) none
                    (.cons "round_decimal"
                        (.integer ⟨none, some Defaults.roundDecimal, some Defaults.maxRoundDecimal⟩)
                        (some Defaults.roundDecimal)
                      (.cons "params" .name (some Defaults.emptyObject)
                        (.cons "travel_timestamp" .timestamp (some 0)
                          (.cons "guarantee_timestamp" .timestamp (some 0) .nil)))))))))))
  pack := fun (collection, partitions, metric, field, topK, expr, outFields, rows, roundDecimal,
      params, travelTimestamp, guaranteeTimestamp, ()) =>
    match Batch.ofValues rows with
    | .error fault => .error (.batch fault)
    | .ok vectors => match metric.mismatch? vectors with
      | some cause => .error cause
      | none => .ok ⟨collection, partitions, metric, field, topK, expr, outFields, vectors,
          roundDecimal, params, travelTimestamp, guaranteeTimestamp⟩
  unpack p := (p.collection, p.partitions, p.metric, p.field, p.topK, p.expr, p.outFields,
    p.vectors.toValues, p.roundDecimal, p.params, p.travelTimestamp, p.guaranteeTimestamp, ())

end Search

/-- Fetch the rows that match an expression. -/
structure Query where
  collection : String
  partitions : List String
  outFields : List String
  expr : String
  travelTimestamp : Int
  guaranteeTimestamp : Int
  deriving DecidableEq, Repr

namespace Query

def blueprint (title : String) : Blueprint Query :=
  .plain title
    (.name "collection_name"
      (.anyNames "partition_names"
        (.anyNames "out_fields"
          (.name "expr"
            (.cons "travel_timestamp" .timestamp (some 0)
              (.cons "guarantee_timestamp" .timestamp (some 0) .nil))))))
    (fun (collection, partitions, outFields, expr, travelTimestamp, guaranteeTimestamp, ()) =>
      ⟨collection, partitions, outFields, expr, travelTimestamp, guaranteeTimestamp⟩)
    (fun p => (p.collection, p.partitions, p.outFields, p.expr, p.travelTimestamp,
      p.guaranteeTimestamp, ()))

end Query

/-- The distances between the vectors of two batches. -/
structure Distance where
  left : Batch
  right : Batch
  metric : MetricType
  deriving DecidableEq, Repr

namespace Distance

/-- The first rule that two sides and a metric break. -/
def inconsistency? (p : Distance) : Option Inconsistency :=
  if p.left.kind ≠ p.right.kind then some .sideKinds
  else if p.left.dimension ≠ p.right.dimension then
    some (.sideDimensions p.left.dimension p.right.dimension)
  else p.metric.mismatch? p.left

def blueprint (title : String) : Blueprint Distance where
  title
  Raw := List Value × List Value × MetricType × Unit
  fields :=
    .cons "vectors_left" (.rows 0) none
      (.cons "vectors_right" (.rows 0) none
        (.cons "metric_type" .metric (some .l2) .nil))
  pack := fun (leftRows, rightRows, metric, ()) =>
    match Batch.ofValues leftRows, Batch.ofValues rightRows with
    | .error fault, _ => .error (.leftBatch fault)
    | .ok _, .error fault => .error (.rightBatch fault)
    | .ok left, .ok right =>
        let p : Distance := ⟨left, right, metric⟩
        match p.inconsistency? with
        | some cause => .error cause
        | none => .ok p
  unpack p := (p.left.toValues, p.right.toValues, p.metric, ())

end Distance

end VectorClient
