/-
# VectorClient.Proofs.Request.Schema — a new collection read off the wire

A reader for requests of new collections by the rules of the wire.  The schema travels
as bytes inside the request, so it is read in two steps, and with it the settings of
each field.  The dimension of a vector field is one of those settings: it stands
there once, in place of any that the caller wrote, and no key stands there twice.

* `FieldSchema.Accepted.sound`: what acceptance promises of a field.
* `FieldSchema.pairs_read`: the settings of a field, beside what the caller gave.
* `FieldSchema.toMessage_reads`: one field, whatever its type.
* `collection_request_reads`: every accepted schema whose request can be written is read
  back, field by field.
-/
import VectorClient.Proofs.Param.Bounds
import VectorClient.Proofs.Request.Numbers
import VectorClient.Proofs.Request.Pairs
import VectorClient.Request.Schema
import Mathlib

namespace VectorClient

set_option autoImplicit false

open Wire Wire.Message

/-! ## Reading a request -/

/-- A field of a schema as it stands on the wire. -/
structure ReadField where
  name : String
  primaryKey : Bool
  description : String
  typeNumber : Nat
  typeParams : Text.Pairs
  autoId : Bool

def ReadField.ofMessage? (m : Message) : Option ReadField :=
  (m.textOf? 2).bind fun name =>
    (m.textOf? 4).bind fun description =>
      ((m.messagesOf? 6).bind fun ms => ms.mapM readPair?).map fun typeParams =>
        ⟨name, m.truthOf 3, description, m.numberOf 5, typeParams, m.truthOf 8⟩

/-- A schema as it stands on the wire. -/
structure ReadSchema where
  name : String
  description : String
  autoId : Bool
  fields : List ReadField

def ReadSchema.ofBytes? (bytes : List UInt8) : Option ReadSchema :=
  (Message.decode? bytes).bind fun m =>
    (m.textOf? 1).bind fun name =>
      (m.textOf? 2).bind fun description =>
        ((m.messagesOf? 4).bind fun ms => ms.mapM ReadField.ofMessage?).map fun fields =>
          ⟨name, description, m.truthOf 3, fields⟩

/-- A request for a new collection as it stands on the wire. -/
structure ReadCollection where
  collection : String
  schema : ReadSchema
  shards : Int

def ReadCollection.ofBytes? (bytes : List UInt8) : Option ReadCollection :=
  (Message.decode? bytes).bind fun m =>
    (m.textOf? 3).bind fun collection =>
      (ReadSchema.ofBytes? (m.bytesOf 4)).map fun schema =>
        ⟨collection, schema, signed 32 (m.numberOf 5)⟩

/-! ## What is read beside what was written -/

/-- The types of fields that hold vectors. -/
def DataType.ofVectors : List DataType := [.binaryVector, .floatVector]

namespace FieldSchema

/-- The settings of a field come back.  Those of a scalar field are its own.  Those of a
vector field are its own but for one, which is its dimension. -/
structure PairsReadAs (f : FieldSchema) (pairs : Text.Pairs) : Prop where
  distinct : pairs.keys.Nodup
  scalar : f.dataType ∉ DataType.ofVectors → pairs = f.typeParams
  vector : f.dataType ∈ DataType.ofVectors → ∃ n digits, f.dimension = some n ∧
    pairs.filter (fun e => e.1 == "dim") = [("dim", digits)] ∧ digits.toInt? = some n ∧ 0 < n ∧
    (f.dataType = .binaryVector → n % 8 = 0) ∧
    pairs.filter (fun e => e.1 != "dim") = f.typeParams.filter fun e => e.1 != "dim"

/-- A field comes back. -/
structure ReadsAs (f : FieldSchema) (read : ReadField) : Prop where
  name : read.name = f.name
  description : read.description = f.description
  dataType : DataType.ofNumber? read.typeNumber = some f.dataType
  primaryKey : read.primaryKey = f.primaryKey
  autoId : read.autoId = f.autoId
  typeParams : f.PairsReadAs read.typeParams

end FieldSchema

/-- A new collection comes back: its name in both places, and its fields in order. -/
structure CollectionSchema.ReadsAs (p : CollectionSchema) (read : ReadCollection) : Prop where
  collection : read.collection = p.collection
  name : read.schema.name = p.collection
  shards : read.shards = p.shards
  description : read.schema.description = p.description
  autoId : read.schema.autoId = true ↔ ∃ f ∈ p.fields, f.autoId = true
  fields : List.Forall₂ FieldSchema.ReadsAs p.fields read.schema.fields

/-! ## What acceptance promises -/

namespace Codec

/-- A dictionary of texts is read with distinct keys. -/
theorem nodup_keys_of_texts {v : Value} {pairs : Text.Pairs}
    (read : texts.read v = .accepted pairs) : pairs.keys.Nodup := by
  cases v with
  | dict entries =>
      obtain ⟨listed, -, rfl⟩ := Verdict.map_eq_accepted_iff.mp read
      exact Text.Pairs.nodup_keys_ofList listed
  | _ => cases read

end Codec

namespace FieldSchema

/-- A field that can have been built. -/
def Accepted (f : FieldSchema) : Prop := ∃ kw, blueprint.build kw = .accepted f

/-- What a field promises: its own settings have distinct keys, and a vector field has a
positive dimension, of whole bytes if it is packed. -/
structure Sound (f : FieldSchema) : Prop where
  distinct : Text.Pairs.keys f.typeParams |>.Nodup
  vector : ∀ kind, f.dataType.vectorKind? = some kind → ∃ n, f.dimension = some n ∧ 0 < n ∧
    (kind = .binary → n % 8 = 0)

theorem dimension_of_consistent {f : FieldSchema} (consistent : f.inconsistency? = none)
    {kind : VectorKind} (vectors : f.dataType.vectorKind? = some kind) :
    ∃ n, f.dimension = some n ∧ (kind = .binary → n % 8 = 0) := by
  unfold inconsistency? at consistent
  split at consistent
  · cases consistent
  · cases dimension : f.dimension with
    | none => simp [vectors, dimension] at consistent
    | some n =>
        refine ⟨n, rfl, ?_⟩
        rintro rfl
        simpa [vectors, dimension] using consistent

theorem Accepted.sound {f : FieldSchema} (accepted : f.Accepted) : f.Sound := by
  obtain ⟨kw, built⟩ := accepted
  obtain ⟨-, -, ⟨name, dataType, description, primaryKey, autoId, dimension, typeParams, ⟨⟩⟩,
    read, packed⟩ := Blueprint.build_eq_accepted_iff.mp built
  obtain ⟨-, -, -, -, -, dimensionRead, typeParamsRead, -⟩ :
      _ ∧ _ ∧ _ ∧ _ ∧ _ ∧ _ ∧ _ ∧ _ := by
    simpa only [blueprint, Fields.name, Fields.switch, Fields.read_cons_eq_accepted_iff] using read
  have positive : ∀ n, dimension = some n → 0 < n := by
    refine Fields.readField_ensures (fun d => ∀ n, d = some n → 0 < n) (fun v d read => ?_)
      (fun d same => ?_) dimensionRead
    · exact Codec.forall_of_optional (fun v n read => (Codec.between_of_integer read).2.2 0 rfl) read
    · cases same
      simp
  have distinct : Text.Pairs.keys typeParams |>.Nodup := by
    refine Fields.readField_ensures (fun pairs => (Text.Pairs.keys pairs).Nodup)
      (fun v pairs => Codec.nodup_keys_of_texts) (fun pairs same => ?_) typeParamsRead
    cases same
    exact List.nodup_nil
  simp only [blueprint] at packed
  split at packed
  · cases packed
  · rename_i consistent
    cases packed
    refine ⟨distinct, fun kind vectors => ?_⟩
    obtain ⟨n, given, whole⟩ := dimension_of_consistent consistent vectors
    exact ⟨n, given, positive n given, whole⟩

end FieldSchema

/-- A new collection that can have been built, from fields that can have been built. -/
structure CollectionSchema.Accepted (p : CollectionSchema) : Prop where
  built : ∃ title kw, (blueprint title).build kw = .accepted p
  fields : ∀ f ∈ p.fields, f.Accepted

/-! ## Fields -/

theorem DataType.mem_ofVectors_iff (t : DataType) :
    t ∈ ofVectors ↔ ∃ kind, t.vectorKind? = some kind := by
  cases t <;> simp [ofVectors, vectorKind?]

namespace FieldSchema

variable {f : FieldSchema} (sound : f.Sound)

include sound

/-- The settings of a field hold its dimension once, and everything else as it was given. -/
theorem pairs_read {settings : Text.Pairs} (listed : f.pairs = .ok settings) :
    f.PairsReadAs settings := by
  unfold pairs at listed
  cases vectors : f.dataType.vectorKind? with
  | none =>
      have scalar : f.dataType ∉ DataType.ofVectors := by
        simp [DataType.mem_ofVectors_iff, vectors]
      simp only [vectors] at listed
      cases listed
      exact ⟨sound.distinct, fun _ => rfl, fun vector => absurd vector scalar⟩
  | some kind =>
      obtain ⟨n, given, positive, whole⟩ := sound.vector kind vectors
      simp only [vectors, given] at listed
      obtain ⟨digits, shown, rfl⟩ := map_eq_ok_iff.mp listed
      obtain ⟨-, rfl⟩ := Request.decimal_eq_ok_iff.mp shown
      refine ⟨Text.Pairs.nodup_keys_insert sound.distinct _ _, fun scalar => ?_, fun _ => ?_⟩
      · exact absurd ((DataType.mem_ofVectors_iff _).mpr ⟨kind, vectors⟩) scalar
      · refine ⟨n, toString n, given, ?_, Int.toInt?_repr n, positive, fun binary => ?_, ?_⟩
        · exact Text.Pairs.filter_eq_insert sound.distinct _ _
        · refine whole ?_
          rw [binary] at vectors
          exact (Option.some.inj vectors).symm
        · exact Text.Pairs.filter_ne_insert _ _ _

/-- A field is read back from its message. -/
theorem toMessage_reads {m : Message} (written : f.toMessage = .ok m) :
    ∃ read, ReadField.ofMessage? m = some read ∧ f.ReadsAs read := by
  obtain ⟨settings, listed, laid⟩ := map_eq_ok_iff.mp written
  have name : m.textOf? 2 = some f.name := textOf?_eq (by simp [← laid, Request.pairs])
  have primaryKey : m.truthOf 3 = f.primaryKey := truthOf_eq (by simp [← laid, Request.pairs])
  have description : m.textOf? 4 = some f.description :=
    textOf?_eq (by simp [← laid, Request.pairs])
  have number : m.numberOf 5 = f.dataType.number := numberOf_eq (by simp [← laid, Request.pairs])
  have pairs : m.messagesOf? 6 = some (settings.map Request.pair) :=
    messagesOf?_eq (by simp [← laid, Request.pairs])
  have autoId : m.truthOf 8 = f.autoId := truthOf_eq (by simp [← laid, Request.pairs])
  refine ⟨⟨f.name, f.primaryKey, f.description, f.dataType.number, settings, f.autoId⟩, ?_, rfl,
    rfl, DataType.ofNumber?_number f.dataType, rfl, rfl, pairs_read sound listed⟩
  simp only [ReadField.ofMessage?, name, primaryKey, description, number, pairs, autoId,
    mapM_map_eq_some readPair?_pair, Option.bind_some, Option.map_some]

end FieldSchema

/-! ## The request -/

namespace CollectionSchema

variable {p : CollectionSchema}

/-- The schema is read back from its bytes. -/
theorem schema_reads (accepted : p.Accepted) {m : Message} (written : p.schemaMessage = .ok m) :
    ∃ fields, List.Forall₂ FieldSchema.ReadsAs p.fields fields ∧
      ReadSchema.ofBytes? m.encode =
        some ⟨p.collection, p.description, p.fields.any FieldSchema.autoId, fields⟩ := by
  obtain ⟨messages, each, laid⟩ := map_eq_ok_iff.mp written
  obtain ⟨fields, fieldsRead, same⟩ := Request.exists_mapM_of_each
    (fun f member _ message => FieldSchema.toMessage_reads (accepted.fields f member).sound message)
    each
  have name : m.textOf? 1 = some p.collection := textOf?_eq (by simp [← laid])
  have description : m.textOf? 2 = some p.description := textOf?_eq (by simp [← laid])
  have autoId : m.truthOf 3 = p.fields.any FieldSchema.autoId := truthOf_eq (by simp [← laid])
  have nested : m.messagesOf? 4 = some messages := messagesOf?_eq (by simp [← laid])
  refine ⟨fields, same, ?_⟩
  simp only [ReadSchema.ofBytes?, decode?_encode, name, description, autoId, nested, fieldsRead,
    Option.bind_some, Option.map_some]

end CollectionSchema

/-- **A new collection is read back from its request.**  Its name comes back from both
places, its fields in order, each with its settings, and the schema numbers its rows by
itself exactly if one of its fields does. -/
theorem collection_request_reads {p : CollectionSchema} (accepted : p.Accepted) {m : Message}
    (written : p.request = .ok m) :
    ∃ read, ReadCollection.ofBytes? m.encode = some read ∧ p.ReadsAs read := by
  obtain ⟨schema, schemed, told⟩ := bind_eq_ok_iff.mp written
  obtain ⟨shards, signed, laid⟩ := map_eq_ok_iff.mp told
  obtain ⟨fits, rfl⟩ := Request.signed_eq_ok_iff.mp signed
  obtain ⟨fields, same, schemaRead⟩ := CollectionSchema.schema_reads accepted schemed
  have collection : m.textOf? 3 = some p.collection := textOf?_eq (by simp [← laid])
  have bytes : m.bytesOf 4 = schema.encode := bytesOf_eq (.inl (by simp [← laid]))
  have number : m.numberOf 5 = complement p.shards := numberOf_eq (by simp [← laid])
  refine ⟨⟨p.collection, ⟨p.collection, p.description, _, fields⟩, p.shards⟩, ?_, rfl, rfl, rfl,
    rfl, List.any_eq_true, same⟩
  simp only [ReadCollection.ofBytes?, decode?_encode, collection, bytes, number, schemaRead,
    signed_complement_bits32 fits, Option.bind_some, Option.map_some]

/-- A number for every row, and vectors of sixteen bits; the settings of those already have
an entry for the dimension. -/
def CollectionSchema.redimensioned : CollectionSchema :=
  ⟨"c", 2, "", [⟨"id", .int64, "", true, true, none, []⟩,
    ⟨"v", .binaryVector, "", false, false, some 16, [("a", "1"), ("dim", "7"), ("b", "2")]⟩]⟩

theorem CollectionSchema.accepted_redimensioned : redimensioned.Accepted where
  built :=
    ⟨"CreateCollectionParam", [("collection_name", .text "c"),
      ("field_types", .list (redimensioned.fields.map .field))],
      Verdict.accepted?_eq_some_iff.mp (by decide)⟩
  fields := by
    intro f member
    simp only [redimensioned, List.mem_cons, List.not_mem_nil, or_false] at member
    rcases member with rfl | rfl
    · exact ⟨[("name", .text "id"), ("data_type", .text "INT64"), ("primary_key", .bool true),
        ("auto_id", .bool true)], rfl⟩
    · exact ⟨[("name", .text "v"), ("data_type", .text "BINARY_VECTOR"),
        ("dimension", Value.int 16), ("type_params", .dict [(.text "a", .text "1"),
          (.text "dim", .text "7"), (.text "b", .text "2")])],
        Verdict.accepted?_eq_some_iff.mp (by decide +kernel)⟩

theorem CollectionSchema.request_redimensioned : ∃ m, redimensioned.request = .ok m :=
  exists_eq_ok_of_toBool (by decide +kernel)

theorem collection_request_reads_redimensioned :
    ∃ m read, CollectionSchema.redimensioned.request = .ok m ∧
      ReadCollection.ofBytes? m.encode = some read ∧
      CollectionSchema.redimensioned.ReadsAs read := by
  obtain ⟨m, written⟩ := CollectionSchema.request_redimensioned
  obtain ⟨read, back, reads⟩ :=
    collection_request_reads CollectionSchema.accepted_redimensioned written
  exact ⟨m, read, written, back, reads⟩

end VectorClient
