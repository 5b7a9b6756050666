/-
# VectorClient.Request.Schema — the schema of a new collection

The schema of the fields is a message of its own that travels as bytes.  The
dimension of a vector field is one of its pairs, in place of any that the
caller wrote under the same key.
-/
import VectorClient.Param.Schema
import VectorClient.Request.Fault
import VectorClient.Request.Pairs

namespace VectorClient

set_option autoImplicit false

open Wire.Message

namespace FieldSchema

/-- The pairs of a field with its dimension, if it holds vectors. -/
def pairs (f : FieldSchema) : Except Request.Fault Text.Pairs :=
  match f.dataType.vectorKind?, f.dimension with
  | some _, some n =>
      (Request.decimal n).map fun digits =>
        Text.Pairs.insert f.typeParams Defaults.dimensionKey digits
  | _, _ => .ok f.typeParams

def toMessage (f : FieldSchema) : Except Request.Fault Wire.Message :=
  f.pairs.map fun settings =>
    text 2 f.name ++ truth 3 f.primaryKey ++ text 4 f.description ++
      natural 5 f.dataType.number ++ Request.pairs 6 settings ++ truth 8 f.autoId

end FieldSchema

namespace CollectionSchema

/-- The schema alone: it numbers its rows by itself if one of its fields does. -/
def schemaMessage (p : CollectionSchema) : Except Request.Fault Wire.Message :=
  (Request.each FieldSchema.toMessage p.fields).map fun fields =>
    text 1 p.collection ++ text 2 p.description ++ truth 3 (p.fields.any FieldSchema.autoId) ++
      messages 4 fields

def request (p : CollectionSchema) : Except Request.Fault Wire.Message :=
  p.schemaMessage.bind fun schema =>
    (Request.signed .bits32 5 p.shards).map fun shards =>
      text 3 p.collection ++ bytes 4 schema.encode ++ shards

end CollectionSchema

end VectorClient
