/-
# VectorClient.Param.Pacing — operations that may wait

Loading, flushing and building an index go on after the server has answered.
Their parameters say whether to wait for the end, how long to sleep between two
looks, and when to give up (`Pacing`).
-/
import VectorClient.Param.Targets

namespace VectorClient

set_option autoImplicit false

open Number

/-- Whether to wait, how long between two probes, and how long at most. -/
structure Pacing where
  waits : Bool
  interval : Double
  timeout : Double
  deriving DecidableEq, Repr

/-- The longest interval and time-out, and the time-out unless given. -/
structure Pacing.Limits where
  maxInterval : Int
  maxTimeout : Int
  timeout : Double

namespace Pacing.Limits

def load : Limits := ⟨Defaults.maxLoadInterval, Defaults.maxLoadTimeout, Defaults.loadTimeout⟩

def flush : Limits :=
  ⟨Defaults.maxFlushInterval, Defaults.maxFlushTimeout, Defaults.flushTimeout⟩

def index : Limits :=
  ⟨Defaults.maxIndexInterval, Defaults.maxIndexTimeout, Defaults.indexTimeout⟩

end Pacing.Limits

/-- The three fields of a pacing, under the given labels. -/
def Fields.pacing (limits : Pacing.Limits) (waits interval timeout : String) :
    Fields (Bool × Double × Double × Unit) :=
  .switch waits false
    (.cons interval (.seconds (some limits.maxInterval)) (some Defaults.waitInterval)
      (.cons timeout (.seconds (some limits.maxTimeout)) (some limits.timeout) .nil))

namespace Pacing

def ofFields : Bool × Double × Double × Unit → Pacing
  | (waits, interval, timeout, ()) => ⟨waits, interval, timeout⟩

def toFields (p : Pacing) : Bool × Double × Double × Unit :=
  (p.waits, p.interval, p.timeout, ())

end Pacing

/-- Load a collection into memory. -/
structure CollectionLoad where
  collection : String
  pacing : Pacing
  deriving DecidableEq, Repr

/-- Load partitions into memory. -/
structure PartitionLoad where
  collection : String
  partitions : List String
  pacing : Pacing
  deriving DecidableEq, Repr

/-- Seal and persist the growing segments of collections. -/
structure Flush where
  collections : List String
  pacing : Pacing
  deriving DecidableEq, Repr

/-- Read the statistics of a collection, after a flush if asked. -/
structure StatisticsQuery where
  collection : String
  flushes : Bool
  deriving DecidableEq, Repr

/-- Build an index on a vector field. -/
structure IndexBuild where
  collection : String
  field : String
  index : IndexType
  metric : MetricType
  /-- Index-specific parameters, passed on verbatim. -/
  extra : String
  pacing : Pacing
  deriving DecidableEq, Repr

namespace CollectionLoad

def blueprint (title : String) : Blueprint CollectionLoad :=
  .plain title
    (.name "collection_name"
      (.pacing .load "sync_load" "sync_load_waiting_interval" "sync_load_waiting_timeout"))
    (fun (collection, pacing) => ⟨collection, .ofFields pacing⟩)
    (fun p => (p.collection, p.pacing.toFields))

end CollectionLoad

namespace PartitionLoad

def blueprint (title : String) : Blueprint PartitionLoad :=
  .plain title
    (.name "collection_name" (.someNames "partition_names"
      (.pacing .load "sync_load" "sync_load_waiting_interval" "sync_load_waiting_timeout")))
    (fun (collection, partitions, pacing) => ⟨collection, partitions, .ofFields pacing⟩)
    (fun p => (p.collection, p.partitions, p.pacing.toFields))

end PartitionLoad

namespace Flush

def blueprint (title : String) : Blueprint Flush :=
  .plain title
    (.someNames "collection_names"
      (.pacing .flush "sync_flush" "sync_flush_waiting_interval" "sync_flush_waiting_timeout"))
    (fun (collections, pacing) => ⟨collections, .ofFields pacing⟩)
    (fun p => (p.collections, p.pacing.toFields))

/-- A flush of one collection that waits, paced by default. -/
def waiting (collection : String) : Flush :=
  ⟨[collection], true, Defaults.waitInterval, Defaults.flushTimeout⟩

end Flush

namespace StatisticsQuery

def blueprint (title : String) : Blueprint StatisticsQuery :=
  .plain title (.name "collection_name" (.switch "flush_collection" true .nil))
    (fun (collection, flushes, ()) => ⟨collection, flushes⟩)
    (fun p => (p.collection, p.flushes, ()))

end StatisticsQuery

namespace IndexBuild

def blueprint (title : String) : Blueprint IndexBuild :=
  .plain title
    (.name "collection_name" (.name "field_name"
      (.cons "index_type" .index none
        (.cons "metric_type" .metric none
          (.cons "extra_param" .name (some Defaults.emptyObject)
            (.pacing .index "sync_mode" "sync_waiting_interval" "sync_waiting_timeout"))))))
    (fun (collection, field, index, metric, extra, pacing) =>
      ⟨collection, field, index, metric, extra, .ofFields pacing⟩)
    (fun p => (p.collection, p.field, p.index, p.metric, p.extra, p.pacing.toFields))

end IndexBuild

end VectorClient
