/-
# VectorClient.Client.Label — what an operation is called in messages

The wording under which an operation is logged and reported, and the type of
the message that answers its call.
-/
import VectorClient.Operation
import VectorClient.Text.Quoted

namespace VectorClient

set_option autoImplicit false

open Text

/-- A field with its collection, between single quotes. -/
def FieldTarget.label (p : FieldTarget) : String := between (p.collection ++ "." ++ p.field)

def IndexBuild.target (p : IndexBuild) : FieldTarget := ⟨p.collection, p.field⟩

namespace Operation

/-- What the operation does, in words. -/
def label : (o : Operation) → o.Param → String
  | .createCollection, p => "create collection " ++ between (CollectionSchema.collection p)
  | .describeCollection, p => "describe collection " ++ between (CollectionTarget.collection p)
  | .dropCollection, p => "drop collection " ++ between (CollectionTarget.collection p)
  | .hasCollection, p => "check collection " ++ between (CollectionTarget.collection p)
  | .loadCollection, p => "load collection " ++ between (CollectionLoad.collection p)
  | .releaseCollection, p => "release collection " ++ between (CollectionTarget.collection p)
  | .getCollectionStatistics, p =>
      "get statistics of collection " ++ between (StatisticsQuery.collection p)
  | .showCollections, _ => "show collections"
  | .flush, p => "flush collections " ++ quotedNames (Flush.collections p)
  | .createPartition, p => "create partition " ++ between (PartitionTarget.partitionName p)
  | .dropPartition, p => "drop partition " ++ between (PartitionTarget.partitionName p)
  | .hasPartition, p => "check partition " ++ between (PartitionTarget.partitionName p)
  | .loadPartitions, p => "load partitions " ++ quotedNames (PartitionLoad.partitions p)
  | .releasePartitions, p => "release partitions " ++ quotedNames (PartitionSet.partitions p)
  | .getPartitionStatistics, p =>
      "get statistics of partition " ++ between (PartitionTarget.partitionName p)
  | .showPartitions, p => "show partitions of " ++ between (PartitionSet.collection p)
  | .createAlias, p => "create alias " ++ between (AliasBinding.aliasName p)
  | .dropAlias, p => "drop alias " ++ between (AliasTarget.aliasName p)
  | .alterAlias, p => "alter alias " ++ between (AliasBinding.aliasName p)
  | .createIndex, p => "create index on " ++ (IndexBuild.target p).label
  | .describeIndex, p => "describe index on " ++ FieldTarget.label p
  | .getIndexState, p => "get index state of " ++ FieldTarget.label p
  | .getIndexBuildProgress, p =>
      "get index build progress of " ++ between (CollectionTarget.collection p)
  | .dropIndex, p => "drop index on " ++ FieldTarget.label p
  | .insert, p =>
      "insert " ++ toString (Insertion.rowCount p) ++ " rows into " ++
        between (Insertion.collection p)
  | .delete, p => "delete from " ++ between (Deletion.collection p)
  | .search, p => "search collection " ++ between (Search.collection p)
  | .query, p => "query collection " ++ between (Query.collection p)
  | .calcDistance, _ => "calculate distance"
  | .getMetrics, _ => "get metrics"
  | .getPersistentSegmentInfo, p =>
      "get persistent segments of " ++ between (CollectionTarget.collection p)
  | .getQuerySegmentInfo, p => "get query segments of " ++ between (CollectionTarget.collection p)

/-- What answers a call. -/
inductive Answer where
  /-- A status and nothing else. -/
  | status
  | flag
  /-- A message of the given type. -/
  | message (title : String)
  deriving DecidableEq, Repr

def answer : Operation → Answer
  | .createCollection | .dropCollection | .loadCollection | .releaseCollection | .createPartition
  | .dropPartition | .loadPartitions | .releasePartitions | .createAlias | .dropAlias
  | .alterAlias | .createIndex | .dropIndex => .status
  | .hasCollection | .hasPartition => .flag
  | .insert | .delete => .message "MutationResult"
  | .search => .message "SearchResults"
  | .query => .message "QueryResults"
  | .calcDistance => .message "CalcDistanceResults"
  | o => .message (o.callName ++ "Response")

end Operation

end VectorClient
