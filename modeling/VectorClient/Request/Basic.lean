/-
# VectorClient.Request.Basic — the request of every operation

`Operation.request` gives the message that an operation sends.  The listings
that a wait repeats are requests of their own: they name what is waited for, and
ask for what is in memory.
-/
import VectorClient.Operation
import VectorClient.Request.Rows
import VectorClient.Request.Schema

namespace VectorClient

set_option autoImplicit false

open Wire.Message

namespace CollectionTarget

def request (p : CollectionTarget) : Wire.Message := text 3 p.collection

end CollectionTarget

def PartitionTarget.request (p : PartitionTarget) : Wire.Message :=
  text 3 p.collection ++ text 4 p.partitionName

def PartitionSet.request (p : PartitionSet) : Wire.Message :=
  text 3 p.collection ++ texts 4 p.partitions

namespace Request

/-- The request for a listing of partitions. -/
def partitionListing (type : ShowType) (collection : String) (names : List String) :
    Wire.Message :=
  text 3 collection ++ texts 5 names ++ natural 6 type.number

/-- The request for a listing of collections. -/
def collectionListing (type : ShowType) (names : List String) : Wire.Message :=
  natural 4 type.number ++ texts 5 names

end Request

def PartitionSet.listingRequest (p : PartitionSet) : Wire.Message :=
  Request.partitionListing p.showType p.collection p.partitions

def CollectionSet.listingRequest (p : CollectionSet) : Wire.Message :=
  Request.collectionListing p.showType p.collections

def AliasTarget.request (p : AliasTarget) : Wire.Message := text 3 p.aliasName

def AliasBinding.request (p : AliasBinding) : Wire.Message :=
  text 3 p.collection ++ text 4 p.aliasName

def FieldTarget.request (p : FieldTarget) : Wire.Message := text 3 p.collection ++ text 4 p.field

def MetricsQuery.request (p : MetricsQuery) : Wire.Message := text 2 p.body

def CollectionLoad.request (p : CollectionLoad) : Wire.Message := text 3 p.collection

/-- The listing that a load of a collection waits by. -/
def CollectionLoad.lookRequest (p : CollectionLoad) : Wire.Message :=
  Request.collectionListing .inMemory [p.collection]

def PartitionLoad.request (p : PartitionLoad) : Wire.Message :=
  text 3 p.collection ++ texts 4 p.partitions

/-- The listing that a load of partitions waits by. -/
def PartitionLoad.lookRequest (p : PartitionLoad) : Wire.Message :=
  Request.partitionListing .inMemory p.collection p.partitions

def Flush.request (p : Flush) : Wire.Message := texts 3 p.collections

def StatisticsQuery.request (p : StatisticsQuery) : Wire.Message := text 3 p.collection

def Deletion.request (p : Deletion) : Wire.Message :=
  text 3 p.collection ++ text 4 p.partitionName ++ text 5 p.expr

namespace IndexBuild

/-- What the server is told by name. -/
def pairs (p : IndexBuild) : Text.Pairs :=
  [(Defaults.indexTypeKey, Vocabulary.word p.index),
   (Defaults.metricTypeKey, Vocabulary.word p.metric), (Defaults.paramsKey, p.extra)]

def request (p : IndexBuild) : Wire.Message :=
  text 3 p.collection ++ text 4 p.field ++ Request.pairs 5 p.pairs

end IndexBuild

namespace Operation

/-- The message of an operation's own remote call. -/
def request : (o : Operation) → o.Param → Except Request.Fault Wire.Message
  | .createCollection, p => CollectionSchema.request p
  | .describeCollection, p => .ok (CollectionTarget.request p)
  | .dropCollection, p => .ok (CollectionTarget.request p)
  | .hasCollection, p => .ok (CollectionTarget.request p)
  | .loadCollection, p => .ok (CollectionLoad.request p)
  | .releaseCollection, p => .ok (CollectionTarget.request p)
  | .getCollectionStatistics, p => .ok (StatisticsQuery.request p)
  | .showCollections, p => .ok (CollectionSet.listingRequest p)
  | .flush, p => .ok (Flush.request p)
  | .createPartition, p => .ok (PartitionTarget.request p)
  | .dropPartition, p => .ok (PartitionTarget.request p)
  | .hasPartition, p => .ok (PartitionTarget.request p)
  | .loadPartitions, p => .ok (PartitionLoad.request p)
  | .releasePartitions, p => .ok (PartitionSet.request p)
  | .getPartitionStatistics, p => .ok (PartitionTarget.request p)
  | .showPartitions, p => .ok (PartitionSet.listingRequest p)
  | .createAlias, p => .ok (AliasBinding.request p)
  | .dropAlias, p => .ok (AliasTarget.request p)
  | .alterAlias, p => .ok (AliasBinding.request p)
  | .createIndex, p => .ok (IndexBuild.request p)
  | .describeIndex, p => .ok (FieldTarget.request p)
  | .getIndexState, p => .ok (FieldTarget.request p)
  | .getIndexBuildProgress, p => .ok (CollectionTarget.request p)
  | .dropIndex, p => .ok (FieldTarget.request p)
  | .insert, p => Insertion.request p
  | .delete, p => .ok (Deletion.request p)
  | .search, p => Search.request p
  | .query, p => Query.request p
  | .calcDistance, p => Distance.request p
  | .getMetrics, p => .ok (MetricsQuery.request p)
  | .getPersistentSegmentInfo, p => .ok (CollectionTarget.request p)
  | .getQuerySegmentInfo, p => .ok (CollectionTarget.request p)

/-- The type of the message on the wire. -/
def requestName (o : Operation) : String := o.callName ++ "Request"

end Operation

end VectorClient
