/-
# VectorClient.Param.Schema — schemas of fields and collections

A vector field needs a dimension, and a packed one a whole number of bytes.
-/
import VectorClient.Param.Targets

namespace VectorClient

set_option autoImplicit false

namespace FieldSchema

/-- The first rule that a schema breaks. -/
def inconsistency? (f : FieldSchema) : Option Inconsistency :=
  if f.dataType = .unset then some .typeUnset
  else match f.dataType.vectorKind?, f.dimension with
    | some _, none => some (.dimensionMissing f.name)
    | some .binary, some n => if n % 8 = 0 then none else some (.dimensionUneven f.name)
    | _, _ => none

def blueprint : Blueprint FieldSchema where
  title := Value.fieldTitle
  Raw := String × DataType × String × Bool × Bool × Option Int × List (String × String) × Unit
  fields :=
    .name "name"
      (.cons "data_type" .dataType none
        (.cons "description" .text (some "")
          (.switch "primary_key" false
            (.switch "auto_id" false
              (.cons "dimension" (Codec.integer ⟨some 0, none, none⟩).optional (some none)
                (.cons "type_params" .texts (some []) .nil))))))
  pack := fun (name, dataType, description, primaryKey, autoId, dimension, typeParams, ()) =>
    let f : FieldSchema := ⟨name, dataType, description, primaryKey, autoId, dimension, typeParams⟩
    match f.inconsistency? with
    | some cause => .error cause
    | none => .ok f
  unpack f :=
    (f.name, f.dataType, f.description, f.primaryKey, f.autoId, f.dimension, f.typeParams, ())

/-- Reads a schema that was built before, or builds one. -/
def codec : Codec FieldSchema :=
  .parameter blueprint .field fun
    | .field f => some f
    | _ => none

end FieldSchema

/-- Create a collection from the schemas of its fields. -/
structure CollectionSchema where
  collection : String
  shards : Int
  description : String
  fields : List FieldSchema
  deriving DecidableEq, Repr

namespace CollectionSchema

def blueprint (title : String) : Blueprint CollectionSchema :=
  .plain title
    (.name "collection_name"
      (.cons "shards_num" (Codec.integer ⟨some 0, none, none⟩) (some Defaults.shards)
        (.cons "description" .text (some "")
          (.cons "field_types" (Codec.many 1 FieldSchema.codec) none .nil))))
    (fun (collection, shards, description, fields, ()) =>
      ⟨collection, shards, description, fields⟩)
    (fun p => (p.collection, p.shards, p.description, p.fields, ()))

end CollectionSchema

end VectorClient
