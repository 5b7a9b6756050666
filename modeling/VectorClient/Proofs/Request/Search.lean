/-
# VectorClient.Proofs.Request.Search — a search read off the wire

A reader for search requests by the rules of the wire.  The target vectors are a
message of their own inside the bytes of one field, so they are read in two steps:
first the request, then the groups inside that field.

* `Batch.targets_read`: the bytes of each target vector give the vector back.
* `Search.pairs_read`: the settings the server knows by name, read as numbers and words.
* `search_request_reads`: every accepted search whose request can be written is read
  back, with exactly one group of targets whose type agrees with the metric.
-/
import VectorClient.Proofs.Request.Numbers
import VectorClient.Proofs.Request.Pairs
import VectorClient.Proofs.Wire.Messages
import Mathlib

namespace VectorClient

set_option autoImplicit false

open Number Wire Wire.Message

/-! ## Reading a request -/

/-- A group of target vectors as it stands on the wire. -/
structure ReadTargets where
  tag : String
  typeNumber : Nat
  values : List (List UInt8)

namespace ReadTargets

def ofMessage? (m : Message) : Option ReadTargets :=
  (m.textOf? 1).map fun tag => ⟨tag, m.numberOf 2, m.runs 3⟩

/-- All groups in the bytes of a message of groups. -/
def ofBytes? (bytes : List UInt8) : Option (List ReadTargets) :=
  (Message.decode? bytes).bind fun m =>
    (m.messagesOf? 1).bind fun groups => groups.mapM ofMessage?

end ReadTargets

/-- A search as it stands on the wire. -/
structure ReadSearch where
  collection : String
  partitions : List String
  expr : String
  targets : List ReadTargets
  outFields : List String
  pairs : Text.Pairs
  travelTimestamp : Nat
  guaranteeTimestamp : Nat

def ReadSearch.ofBytes? (bytes : List UInt8) : Option ReadSearch :=
  (Message.decode? bytes).bind fun m =>
    (m.textOf? 3).bind fun collection =>
      (m.textsOf? 4).bind fun partitions =>
        (m.textOf? 5).bind fun expr =>
          (ReadTargets.ofBytes? (m.bytesOf 6)).bind fun targets =>
            (m.textsOf? 8).bind fun outFields =>
              ((m.messagesOf? 9).bind fun ms => ms.mapM readPair?).map fun pairs =>
                ⟨collection, partitions, expr, targets, outFields, pairs,
                  m.numberOf 10 % 2 ^ 64, m.numberOf 11 % 2 ^ 64⟩

/-! ## What is read beside what was written -/

/-- The metrics that compare vectors of bits. -/
def MetricType.ofBits : List MetricType :=
  [.hamming, .jaccard, .tanimoto, .substructure, .superstructure]

theorem MetricType.mem_ofBits_iff (m : MetricType) : m ∈ ofBits ↔ m.kind = .binary := by
  cases m <;> decide

/-- The values that stand for target vectors: the bytes of a binary vector, and four
bytes for each component of a float vector. -/
def Batch.TargetsReadAs : Batch → List (List UInt8) → Prop
  | .binary rows, values => values = rows
  | .float rows, values =>
      List.Forall₂ (fun row value => ∃ xs, readAll? (readFloat? .single) value = some xs ∧
        List.Forall₂ Number.RoundsToSingle row xs) rows values

/-- How many bytes stand for one target vector. -/
def Batch.targetLength : Batch → Nat
  | .binary rows => rowLength rows
  | .float rows => 4 * rowLength rows

/-- The targets of a search come back: one value for each vector, all of one length, under
the type that the metric compares. -/
structure Search.TargetsReadAs (p : Search) (group : ReadTargets) : Prop where
  tag : group.tag = "$0"
  dataType : DataType.ofNumber? group.typeNumber = some p.vectors.kind.dataType
  binary : DataType.ofNumber? group.typeNumber = some .binaryVector ↔
    p.metric ∈ MetricType.ofBits
  values : p.vectors.TargetsReadAs group.values
  lengths : ∀ value ∈ group.values, value.length = p.vectors.targetLength

/-- The settings of a search come back: five of them in a fixed order, numbers and words
as what they are read as. -/
structure Search.PairsReadAs (p : Search) (pairs : Text.Pairs) : Prop where
  keys : pairs.map Prod.fst = ["anns_field", "topk", "metric_type", "round_decimal", "params"]
  field : pairs.lookup "anns_field" = some p.field
  topK : (pairs.lookup "topk").bind String.toInt? = some p.topK
  metric : (pairs.lookup "metric_type").bind Vocabulary.ofWord? = some p.metric
  roundDecimal : (pairs.lookup "round_decimal").bind String.toInt? = some p.roundDecimal
  params : pairs.lookup "params" = some p.params

/-- A search comes back. -/
structure Search.ReadsAs (p : Search) (read : ReadSearch) : Prop where
  collection : read.collection = p.collection
  partitions : read.partitions = p.partitions
  expr : read.expr = p.expr
  outFields : read.outFields = p.outFields
  travelTimestamp : (read.travelTimestamp : Int) = p.travelTimestamp
  guaranteeTimestamp : (read.guaranteeTimestamp : Int) = p.guaranteeTimestamp
  pairs : p.PairsReadAs read.pairs
  targets : ∃ group, read.targets = [group] ∧ p.TargetsReadAs group

/-! ## Target vectors -/

namespace Batch

/-- A row of components is written as four bytes each, which give the components back. -/
theorem reads_of_components {row : List Number} {value : List UInt8}
    (written : (Request.each Request.component row).map List.flatten = .ok value) :
    value.length = 4 * row.length ∧ ∃ xs, readAll? (readFloat? .single) value = some xs ∧
      List.Forall₂ Number.RoundsToSingle row xs := by
  obtain ⟨elements, components, rfl⟩ := map_eq_ok_iff.mp written
  obtain ⟨xs, rounds, rfl⟩ :=
    Request.exists_of_each (fun _ _ here => Request.exists_of_component here) components
  have same : xs.length = row.length := rounds.length_eq.symm
  have four : ∀ x : Single, (floatBytes x).length = 4 := fun x => length_littleEndian _ _
  refine ⟨?_, xs, readFloats_flatten BinaryFormat.fillsBytes_single xs, rounds⟩
  simp [List.length_flatten, Function.comp_def, four, same, Nat.mul_comm]

/-- The bytes of each target vector give the vector back, and all have one length. -/
theorem targets_read {batch : Batch} (uniform : batch.Uniform) {values : List (List UInt8)}
    (written : batch.targets = .ok values) :
    batch.TargetsReadAs values ∧ ∀ value ∈ values, value.length = batch.targetLength := by
  cases batch with
  | binary rows =>
      cases written
      exact ⟨rfl, uniform.uniform⟩
  | float rows =>
      have along : List.Forall₂ (fun value row => value.length = 4 * rowLength rows ∧
          ∃ xs, readAll? (readFloat? .single) value = some xs ∧
            List.Forall₂ Number.RoundsToSingle row xs) values rows := by
        refine List.Forall₂.flip (Request.forall₂_of_each (fun row member value here => ?_) written)
        obtain ⟨length, reads⟩ := reads_of_components here
        exact ⟨by rw [length, uniform.uniform row member], reads⟩
      obtain ⟨lengths, reads⟩ := (List.forall₂_and_left _ _).mp along
      exact ⟨reads.flip, lengths⟩

end Batch

/-- The groups of target vectors are read back from the bytes of their message: there is
one, and its type agrees with the metric. -/
theorem Search.targets_read {p : Search} (uniform : p.vectors.Uniform)
    (agrees : p.metric.kind = p.vectors.kind) {m : Message}
    (written : p.vectors.placeholderGroup = .ok m) :
    ∃ group, ReadTargets.ofBytes? m.encode = some [group] ∧ p.TargetsReadAs group := by
  obtain ⟨values, targets, rfl⟩ := map_eq_ok_iff.mp written
  obtain ⟨reads, lengths⟩ := Batch.targets_read uniform targets
  set inner : Message := text 1 Defaults.placeholderTag ++
    natural 2 p.vectors.kind.dataType.number ++ repeated 3 values with laid
  have groups : (nested 1 inner).messagesOf? 1 = some [inner] := messagesOf?_eq (by simp)
  have tag : inner.textOf? 1 = some Defaults.placeholderTag := textOf?_eq (by simp [laid])
  have number : inner.numberOf 2 = p.vectors.kind.dataType.number :=
    numberOf_eq (by simp [laid])
  have runs : inner.runs 3 = values := runs_eq (by simp [laid])
  have dataType := DataType.ofNumber?_number p.vectors.kind.dataType
  have binary : DataType.ofNumber? p.vectors.kind.dataType.number = some .binaryVector ↔
      p.metric ∈ MetricType.ofBits := by
    rw [dataType, MetricType.mem_ofBits_iff, agrees]
    cases p.vectors.kind <;> simp [VectorKind.dataType]
  refine ⟨⟨Defaults.placeholderTag, p.vectors.kind.dataType.number, values⟩, ?_, rfl, dataType,
    binary, reads, lengths⟩
  simp [ReadTargets.ofBytes?, ReadTargets.ofMessage?, groups, tag, number, runs]

/-! ## Settings -/

/-- The settings of a search are what they were, numbers included. -/
theorem Search.pairs_read {p : Search} {settings : Text.Pairs} (listed : p.pairs = .ok settings) :
    p.PairsReadAs settings := by
  obtain ⟨topK, shown, roundedTo⟩ := bind_eq_ok_iff.mp listed
  obtain ⟨roundDecimal, rounded, rfl⟩ := map_eq_ok_iff.mp roundedTo
  obtain ⟨-, rfl⟩ := Request.decimal_eq_ok_iff.mp shown
  obtain ⟨-, rfl⟩ := Request.decimal_eq_ok_iff.mp rounded
  exact ⟨rfl, rfl, Int.toInt?_repr p.topK, Vocabulary.ofWord?_word p.metric,
    Int.toInt?_repr p.roundDecimal, rfl⟩

/-! ## The request -/

/-- **A search is read back from its request.** -/
theorem search_request_reads {title : String} {kw : Keywords} {p : Search}
    (built : (Search.blueprint title).build kw = .accepted p) {m : Message}
    (written : p.request = .ok m) :
    ∃ read, ReadSearch.ofBytes? m.encode = some read ∧ p.ReadsAs read := by
  obtain ⟨uniform, agrees⟩ := Search.uniform_and_kind_of_build built
  obtain ⟨inner, grouped, told⟩ := bind_eq_ok_iff.mp written
  obtain ⟨settings, listed, timed⟩ := bind_eq_ok_iff.mp told
  obtain ⟨travel, travels, guarded⟩ := bind_eq_ok_iff.mp timed
  obtain ⟨guarantee, guarantees, laid⟩ := map_eq_ok_iff.mp guarded
  obtain ⟨rfl, travelExact, travelBound⟩ := Request.eq_integer_of_unsigned (by decide) travels
  obtain ⟨rfl, guaranteeExact, guaranteeBound⟩ :=
    Request.eq_integer_of_unsigned (by decide) guarantees
  obtain ⟨group, groupRead, targets⟩ := Search.targets_read uniform agrees grouped
  have collection : m.textOf? 3 = some p.collection :=
    textOf?_eq (by simp [← laid, Request.pairs])
  have partitions : m.textsOf? 4 = some p.partitions :=
    textsOf?_eq (by simp [← laid, Request.pairs])
  have expr : m.textOf? 5 = some p.expr :=
    textOf?_eq (by simp [← laid, Request.pairs])
  have groups : m.bytesOf 6 = inner.encode :=
    bytesOf_eq (.inl (by simp [← laid, Request.pairs]))
  have outFields : m.textsOf? 8 = some p.outFields :=
    textsOf?_eq (by simp [← laid, Request.pairs])
  have pairs : m.messagesOf? 9 = some (settings.map Request.pair) :=
    messagesOf?_eq (by simp [← laid, Request.pairs])
  have travel : m.numberOf 10 = complement p.travelTimestamp :=
    numberOf_eq (by simp [← laid, Request.pairs])
  have guarantee : m.numberOf 11 = complement p.guaranteeTimestamp :=
    numberOf_eq (by simp [← laid, Request.pairs])
  refine ⟨⟨p.collection, p.partitions, p.expr, [group], p.outFields, settings,
    complement p.travelTimestamp, complement p.guaranteeTimestamp⟩, ?_, rfl, rfl, rfl, rfl,
    travelExact, guaranteeExact, Search.pairs_read listed, group, rfl, targets⟩
  simp only [ReadSearch.ofBytes?, decode?_encode, collection, partitions, expr, groups, groupRead,
    outFields, pairs, mapM_map_eq_some readPair?_pair, travel, guarantee,
    Nat.mod_eq_of_lt travelBound, Nat.mod_eq_of_lt guaranteeBound, Option.bind_some,
    Option.map_some]

/-- Two target vectors of two components, the integers of which are rounded. -/
def Search.twoTargets : Search :=
  ⟨"c", [], .l2, "v", 12, "", [], .float [[.int 1, .int (-2)], [.int 3, .int 4]], -1, "\x7b\x7d",
    0, 7⟩

def Search.twoTargetsKeywords : Keywords :=
  [("collection_name", .text "c"), ("vector_field_name", .text "v"), ("top_k", Value.int 12),
    ("guarantee_timestamp", Value.int 7),
    ("vectors", .list [.list [Value.int 1, Value.int (-2)], .list [Value.int 3, Value.int 4]])]

theorem Search.build_twoTargets :
    (blueprint "SearchParam").build twoTargetsKeywords = .accepted twoTargets :=
  Verdict.accepted?_eq_some_iff.mp (by decide +kernel)

theorem Search.request_twoTargets : ∃ m, twoTargets.request = .ok m :=
  exists_eq_ok_of_toBool (by decide +kernel)

theorem search_request_reads_twoTargets :
    ∃ m read, Search.twoTargets.request = .ok m ∧ ReadSearch.ofBytes? m.encode = some read ∧
      Search.twoTargets.ReadsAs read := by
  obtain ⟨m, written⟩ := Search.request_twoTargets
  obtain ⟨read, back, reads⟩ := search_request_reads Search.build_twoTargets written
  exact ⟨m, read, written, back, reads⟩

end VectorClient
