/-
# VectorClient.Param.Targets — parameters that only name things

What most operations take: the collection, partition, alias or field they act
on.  Operations that name the same things share one type; each has a class of
its own, with its own title.
-/
import VectorClient.Defaults
import VectorClient.Form.Blueprint

namespace VectorClient

set_option autoImplicit false

/-- A collection. -/
structure CollectionTarget where
  collection : String
  deriving DecidableEq, Repr

/-- A partition of a collection. -/
structure PartitionTarget where
  collection : String
  partitionName : String
  deriving DecidableEq, Repr

/-- Some partitions of a collection. -/
structure PartitionSet where
  collection : String
  partitions : List String
  deriving DecidableEq, Repr

/-- Some collections. -/
structure CollectionSet where
  collections : List String
  deriving DecidableEq, Repr

/-- An alias. -/
structure AliasTarget where
  aliasName : String
  deriving DecidableEq, Repr

/-- An alias and the collection that it stands for. -/
structure AliasBinding where
  collection : String
  aliasName : String
  deriving DecidableEq, Repr

/-- A field of a collection. -/
structure FieldTarget where
  collection : String
  field : String
  deriving DecidableEq, Repr

/-- A request for metrics, in the server's notation. -/
structure MetricsQuery where
  body : String
  deriving DecidableEq, Repr

/-- The listing that a set of names asks for: all, or the named ones in memory. -/
def ShowType.ofNames (names : List String) : ShowType :=
  if names.isEmpty then .all else .inMemory

namespace Fields

/-- A name without a default. -/
def name {β : Type} (label : String) (rest : Fields β) : Fields (String × β) :=
  .cons label .name none rest

/-- A list of names that is empty unless given. -/
def anyNames {β : Type} (label : String) (rest : Fields β) : Fields (List String × β) :=
  .cons label (.names 0) (some []) rest

/-- A list of at least one name. -/
def someNames {β : Type} (label : String) (rest : Fields β) : Fields (List String × β) :=
  .cons label (.names 1) none rest

/-- A switch that has a position unless given. -/
def switch {β : Type} (label : String) (position : Bool) (rest : Fields β) : Fields (Bool × β) :=
  .cons label .truth (some position) rest

end Fields

namespace CollectionTarget

def blueprint (title : String) : Blueprint CollectionTarget :=
  .plain title (.name "collection_name" .nil)
    (fun (collection, ()) => ⟨collection⟩) (fun p => (p.collection, ()))

end CollectionTarget

namespace PartitionTarget

def blueprint (title : String) : Blueprint PartitionTarget :=
  .plain title (.name "collection_name" (.name "partition_name" .nil))
    (fun (collection, partitionName, ()) => ⟨collection, partitionName⟩)
    (fun p => (p.collection, p.partitionName, ()))

end PartitionTarget

namespace PartitionSet

/-- At least one partition has to be named. -/
def blueprint (title : String) : Blueprint PartitionSet :=
  .plain title (.name "collection_name" (.someNames "partition_names" .nil))
    (fun (collection, partitions, ()) => ⟨collection, partitions⟩)
    (fun p => (p.collection, p.partitions, ()))

/-- Naming no partition is allowed, and means all of them. -/
def listing (title : String) : Blueprint PartitionSet :=
  .plain title (.name "collection_name" (.anyNames "partition_names" .nil))
    (fun (collection, partitions, ()) => ⟨collection, partitions⟩)
    (fun p => (p.collection, p.partitions, ()))

def showType (p : PartitionSet) : ShowType := .ofNames p.partitions

end PartitionSet

namespace CollectionSet

/-- Naming no collection is allowed, and means all of them. -/
def listing (title : String) : Blueprint CollectionSet :=
  .plain title (.anyNames "collection_names" .nil)
    (fun (collections, ()) => ⟨collections⟩) (fun p => (p.collections, ()))

def showType (p : CollectionSet) : ShowType := .ofNames p.collections

end CollectionSet

namespace AliasTarget

def blueprint (title : String) : Blueprint AliasTarget :=
  .plain title (.name "alias" .nil) (fun (aliasName, ()) => ⟨aliasName⟩)
    (fun p => (p.aliasName, ()))

end AliasTarget

namespace AliasBinding

def blueprint (title : String) : Blueprint AliasBinding :=
  .plain title (.name "collection_name" (.name "alias" .nil))
    (fun (collection, aliasName, ()) => ⟨collection, aliasName⟩)
    (fun p => (p.collection, p.aliasName, ()))

end AliasBinding

namespace FieldTarget

def blueprint (title : String) : Blueprint FieldTarget :=
  .plain title (.name "collection_name" (.name "field_name" .nil))
    (fun (collection, field, ()) => ⟨collection, field⟩)
    (fun p => (p.collection, p.field, ()))

end FieldTarget

namespace MetricsQuery

def blueprint (title : String) : Blueprint MetricsQuery :=
  .plain title (.name "request" .nil) (fun (body, ()) => ⟨body⟩) (fun p => (p.body, ()))

end MetricsQuery

end VectorClient
