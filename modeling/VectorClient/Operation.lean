/-
# VectorClient.Operation — the operations of a client

Every operation makes one remote call of the same name and takes one parameter.
`Operation.Param` is the type of the parameter and `Operation.blueprint` its
class.  The same enumeration names the remote calls, since a client calls
nothing else.
-/
import VectorClient.Param.Connection
import VectorClient.Param.Lookup
import VectorClient.Param.Pacing
import VectorClient.Param.Rows
import VectorClient.Param.Schema

namespace VectorClient

set_option autoImplicit false

/-- An operation, and the remote call of the same name. -/
inductive Operation where
  | createCollection | describeCollection | dropCollection | hasCollection | loadCollection
  | releaseCollection | getCollectionStatistics | showCollections | flush | createPartition
  | dropPartition | hasPartition | loadPartitions | releasePartitions | getPartitionStatistics
  | showPartitions | createAlias | dropAlias | alterAlias | createIndex | describeIndex
  | getIndexState | getIndexBuildProgress | dropIndex | insert | delete | search | query
  | calcDistance | getMetrics | getPersistentSegmentInfo | getQuerySegmentInfo
  deriving DecidableEq, Repr

namespace Operation

def all : List Operation :=
  [.createCollection, .describeCollection, .dropCollection, .hasCollection, .loadCollection,
   .releaseCollection, .getCollectionStatistics, .showCollections, .flush, .createPartition,
   .dropPartition, .hasPartition, .loadPartitions, .releasePartitions, .getPartitionStatistics,
   .showPartitions, .createAlias, .dropAlias, .alterAlias, .createIndex, .describeIndex,
   .getIndexState, .getIndexBuildProgress, .dropIndex, .insert, .delete, .search, .query,
   .calcDistance, .getMetrics, .getPersistentSegmentInfo, .getQuerySegmentInfo]

theorem mem_all (o : Operation) : o ∈ all := by cases o <;> decide

/-- The name by which a caller asks for the operation. -/
def name : Operation → String
  | .createCollection => "create_collection"
  | .describeCollection => "describe_collection"
  | .dropCollection => "drop_collection"
  | .hasCollection => "has_collection"
  | .loadCollection => "load_collection"
  | .releaseCollection => "release_collection"
  | .getCollectionStatistics => "get_collection_statistics"
  | .showCollections => "show_collections"
  | .flush => "flush"
  | .createPartition => "create_partition"
  | .dropPartition => "drop_partition"
  | .hasPartition => "has_partition"
  | .loadPartitions => "load_partitions"
  | .releasePartitions => "release_partitions"
  | .getPartitionStatistics => "get_partition_statistics"
  | .showPartitions => "show_partitions"
  | .createAlias => "create_alias"
  | .dropAlias => "drop_alias"
  | .alterAlias => "alter_alias"
  | .createIndex => "create_index"
  | .describeIndex => "describe_index"
  | .getIndexState => "get_index_state"
  | .getIndexBuildProgress => "get_index_build_progress"
  | .dropIndex => "drop_index"
  | .insert => "insert"
  | .delete => "delete"
  | .search => "search"
  | .query => "query"
  | .calcDistance => "calc_distance"
  | .getMetrics => "get_metrics"
  | .getPersistentSegmentInfo => "get_persistent_segment_info"
  | .getQuerySegmentInfo => "get_query_segment_info"

/-- The name of the remote call. -/
def callName : Operation → String
  | .createCollection => "CreateCollection"
  | .describeCollection => "DescribeCollection"
  | .dropCollection => "DropCollection"
  | .hasCollection => "HasCollection"
  | .loadCollection => "LoadCollection"
  | .releaseCollection => "ReleaseCollection"
  | .getCollectionStatistics => "GetCollectionStatistics"
  | .showCollections => "ShowCollections"
  | .flush => "Flush"
  | .createPartition => "CreatePartition"
  | .dropPartition => "DropPartition"
  | .hasPartition => "HasPartition"
  | .loadPartitions => "LoadPartitions"
  | .releasePartitions => "ReleasePartitions"
  | .getPartitionStatistics => "GetPartitionStatistics"
  | .showPartitions => "ShowPartitions"
  | .createAlias => "CreateAlias"
  | .dropAlias => "DropAlias"
  | .alterAlias => "AlterAlias"
  | .createIndex => "CreateIndex"
  | .describeIndex => "DescribeIndex"
  | .getIndexState => "GetIndexState"
  | .getIndexBuildProgress => "GetIndexBuildProgress"
  | .dropIndex => "DropIndex"
  | .insert => "Insert"
  | .delete => "Delete"
  | .search => "Search"
  | .query => "Query"
  | .calcDistance => "CalcDistance"
  | .getMetrics => "GetMetrics"
  | .getPersistentSegmentInfo => "GetPersistentSegmentInfo"
  | .getQuerySegmentInfo => "GetQuerySegmentInfo"

def ofName? (name : String) : Option Operation := all.find? fun o => o.name == name

def ofCallName? (name : String) : Option Operation := all.find? fun o => o.callName == name

theorem ofName?_name (o : Operation) : ofName? o.name = some o := by cases o <;> rfl

theorem ofCallName?_callName (o : Operation) : ofCallName? o.callName = some o := by
  cases o <;> rfl

/-- The title of the class of the operation's parameter. -/
def paramTitle (o : Operation) : String := o.callName ++ "Param"

/-- The type of the operation's parameter. -/
def Param : Operation → Type
  | .createCollection => CollectionSchema
  | .describeCollection | .dropCollection | .hasCollection | .releaseCollection
  | .getIndexBuildProgress | .getPersistentSegmentInfo | .getQuerySegmentInfo => CollectionTarget
  | .loadCollection => CollectionLoad
  | .getCollectionStatistics => StatisticsQuery
  | .showCollections => CollectionSet
  | .flush => Flush
  | .createPartition | .dropPartition | .hasPartition | .getPartitionStatistics => PartitionTarget
  | .loadPartitions => PartitionLoad
  | .releasePartitions | .showPartitions => PartitionSet
  | .createAlias | .alterAlias => AliasBinding
  | .dropAlias => AliasTarget
  | .createIndex => IndexBuild
  | .describeIndex | .getIndexState | .dropIndex => FieldTarget
  | .insert => Insertion
  | .delete => Deletion
  | .search => Search
  | .query => Query
  | .calcDistance => Distance
  | .getMetrics => MetricsQuery

/-- The class of the operation's parameter. -/
def blueprint : (o : Operation) → Blueprint o.Param
  | .createCollection => CollectionSchema.blueprint (paramTitle .createCollection)
  | .describeCollection => CollectionTarget.blueprint (paramTitle .describeCollection)
  | .dropCollection => CollectionTarget.blueprint (paramTitle .dropCollection)
  | .hasCollection => CollectionTarget.blueprint (paramTitle .hasCollection)
  | .loadCollection => CollectionLoad.blueprint (paramTitle .loadCollection)
  | .releaseCollection => CollectionTarget.blueprint (paramTitle .releaseCollection)
  | .getCollectionStatistics => StatisticsQuery.blueprint (paramTitle .getCollectionStatistics)
  | .showCollections => CollectionSet.listing (paramTitle .showCollections)
  | .flush => Flush.blueprint (paramTitle .flush)
  | .createPartition => PartitionTarget.blueprint (paramTitle .createPartition)
  | .dropPartition => PartitionTarget.blueprint (paramTitle .dropPartition)
  | .hasPartition => PartitionTarget.blueprint (paramTitle .hasPartition)
  | .loadPartitions => PartitionLoad.blueprint (paramTitle .loadPartitions)
  | .releasePartitions => PartitionSet.blueprint (paramTitle .releasePartitions)
  | .getPartitionStatistics => PartitionTarget.blueprint (paramTitle .getPartitionStatistics)
  | .showPartitions => PartitionSet.listing (paramTitle .showPartitions)
  | .createAlias => AliasBinding.blueprint (paramTitle .createAlias)
  | .dropAlias => AliasTarget.blueprint (paramTitle .dropAlias)
  | .alterAlias => AliasBinding.blueprint (paramTitle .alterAlias)
  | .createIndex => IndexBuild.blueprint (paramTitle .createIndex)
  | .describeIndex => FieldTarget.blueprint (paramTitle .describeIndex)
  | .getIndexState => FieldTarget.blueprint (paramTitle .getIndexState)
  | .getIndexBuildProgress => CollectionTarget.blueprint (paramTitle .getIndexBuildProgress)
  | .dropIndex => FieldTarget.blueprint (paramTitle .dropIndex)
  | .insert => Insertion.blueprint (paramTitle .insert)
  | .delete => Deletion.blueprint (paramTitle .delete)
  | .search => Search.blueprint (paramTitle .search)
  | .query => Query.blueprint (paramTitle .query)
  | .calcDistance => Distance.blueprint (paramTitle .calcDistance)
  | .getMetrics => MetricsQuery.blueprint (paramTitle .getMetrics)
  | .getPersistentSegmentInfo => CollectionTarget.blueprint (paramTitle .getPersistentSegmentInfo)
  | .getQuerySegmentInfo => CollectionTarget.blueprint (paramTitle .getQuerySegmentInfo)

end Operation

end VectorClient
