/-
# VectorClient.Proofs.Request.Unique — what a request says of its parameter

Two parameters that become the same bytes are the same, but for what no request
carries: whether and how long to wait, and whether a flush comes first.  Fields that are
left out at their default do no harm, since nothing else is written under their numbers.

* `Message.encode_inj`: bytes determine the message.
* `bytesPayloads_inj`, `naturalPayloads_inj`: what is left out at its default is known.
* `Message.eq_of_texts`, `Message.eq_of_names`: the fields that most requests consist of.
* `Operation.repaced`: a parameter with another pace.
* `Operation.exists_repaced_of_encode_eq`: all operations whose requests hold no batches of
  rows or vectors and no schema.
-/
import VectorClient.Proofs.Request.Numbers
import VectorClient.Proofs.Request.Pairs
import VectorClient.Request.Basic

namespace VectorClient

set_option autoImplicit false

open Wire Message

/-! ## Pieces of a message -/

@[simp]
theorem Text.utf8_inj {s t : String} : Text.utf8 s = Text.utf8 t ↔ s = t := by
  constructor
  · intro same
    have back := congrArg Text.ofUtf8? same
    rw [Text.ofUtf8?_utf8, Text.ofUtf8?_utf8] at back
    exact Option.some.inj back
  · exact congrArg Text.utf8

theorem Vocabulary.word_inj {α : Type} [Vocabulary α] {a b : α} :
    Vocabulary.word a = Vocabulary.word b ↔ a = b := by
  constructor
  · intro same
    have back : Vocabulary.ofWord? (Vocabulary.word b) = some a :=
      Vocabulary.ofWord?_eq_some_iff.mpr same
    rw [Vocabulary.ofWord?_word] at back
    exact (Option.some.inj back).symm
  · exact congrArg Vocabulary.word

@[simp]
theorem Request.pair_inj {e e' : String × String} : Request.pair e = Request.pair e' ↔ e = e' := by
  constructor
  · intro same
    have back := congrArg readPair? same
    rw [readPair?_pair, readPair?_pair] at back
    exact Option.some.inj back
  · exact congrArg Request.pair

namespace Wire.Message

/-- Bytes determine the message. -/
@[simp]
theorem encode_inj {m m' : Message} : m.encode = m'.encode ↔ m = m' := by
  constructor
  · intro same
    have back := congrArg decode? same
    rw [decode?_encode, decode?_encode] at back
    exact Option.some.inj back
  · exact congrArg encode

@[simp]
theorem bytesPayloads_inj {bs bs' : List UInt8} :
    bytesPayloads bs = bytesPayloads bs' ↔ bs = bs' := by
  unfold bytesPayloads
  cases bs <;> cases bs' <;> simp

@[simp]
theorem naturalPayloads_inj {n n' : Nat} : naturalPayloads n = naturalPayloads n' ↔ n = n' := by
  unfold naturalPayloads
  by_cases zero : n = 0 <;> by_cases zero' : n' = 0 <;> simp [zero, zero', eq_comm]

/-! ## Messages of a few fields -/

section

variable {field other : Nat} {s s' t t' : String} {ss ss' : List String}

theorem eq_of_text (same : text field s = text field s') : s = s' := by
  have payloads := congrArg (payloads · field) same
  simpa using payloads

theorem eq_of_list (same : texts field ss = texts field ss') : ss = ss' := by
  have payloads := congrArg (payloads · field) same
  simpa [List.map_inj_right] using payloads

theorem eq_of_texts (distinct : field ≠ other)
    (same : text field s ++ text other t = text field s' ++ text other t') : s = s' ∧ t = t' := by
  have first := congrArg (payloads · field) same
  have second := congrArg (payloads · other) same
  constructor
  · simpa [distinct.symm] using first
  · simpa [distinct] using second

theorem eq_of_names (distinct : field ≠ other)
    (same : text field s ++ texts other ss = text field s' ++ texts other ss') :
    s = s' ∧ ss = ss' := by
  have first := congrArg (payloads · field) same
  have second := congrArg (payloads · other) same
  constructor
  · simpa [distinct.symm] using first
  · simpa [distinct, List.map_inj_right] using second

end

end Wire.Message

/-! ## Requests -/

theorem CollectionTarget.eq_of_request {p q : CollectionTarget} (same : p.request = q.request) :
    p = q :=
  congrArg CollectionTarget.mk (eq_of_text same)

theorem AliasTarget.eq_of_request {p q : AliasTarget} (same : p.request = q.request) : p = q :=
  congrArg AliasTarget.mk (eq_of_text same)

theorem MetricsQuery.eq_of_request {p q : MetricsQuery} (same : p.request = q.request) : p = q :=
  congrArg MetricsQuery.mk (eq_of_text same)

theorem PartitionTarget.eq_of_request {p q : PartitionTarget} (same : p.request = q.request) :
    p = q :=
  have ⟨collection, partitionName⟩ := eq_of_texts (by decide) same
  congrArg₂ PartitionTarget.mk collection partitionName

theorem AliasBinding.eq_of_request {p q : AliasBinding} (same : p.request = q.request) : p = q :=
  have ⟨collection, aliasName⟩ := eq_of_texts (by decide) same
  congrArg₂ AliasBinding.mk collection aliasName

theorem FieldTarget.eq_of_request {p q : FieldTarget} (same : p.request = q.request) : p = q :=
  have ⟨collection, field⟩ := eq_of_texts (by decide) same
  congrArg₂ FieldTarget.mk collection field

theorem PartitionSet.eq_of_request {p q : PartitionSet} (same : p.request = q.request) : p = q :=
  have ⟨collection, partitions⟩ := eq_of_names (by decide) same
  congrArg₂ PartitionSet.mk collection partitions

namespace CollectionSet

theorem eq_of_listingRequest {p q : CollectionSet} (same : p.listingRequest = q.listingRequest) :
    p = q := by
  have names := congrArg (payloads · 5) same
  obtain ⟨collections⟩ := p
  obtain ⟨collections'⟩ := q
  obtain rfl : collections = collections' := by
    simpa [listingRequest, Request.collectionListing, List.map_inj_right] using names
  rfl

end CollectionSet

namespace PartitionSet

theorem eq_of_listingRequest {p q : PartitionSet} (same : p.listingRequest = q.listingRequest) :
    p = q := by
  have first := congrArg (payloads · 3) same
  have names := congrArg (payloads · 5) same
  obtain ⟨collection, partitions⟩ := p
  obtain ⟨collection', partitions'⟩ := q
  obtain rfl : collection = collection' := by
    simpa [listingRequest, Request.partitionListing] using first
  obtain rfl : partitions = partitions' := by
    simpa [listingRequest, Request.partitionListing, List.map_inj_right] using names
  rfl

end PartitionSet

theorem Deletion.eq_of_request {p q : Deletion} (same : p.request = q.request) : p = q := by
  have first := congrArg (payloads · 3) same
  have second := congrArg (payloads · 4) same
  have third := congrArg (payloads · 5) same
  obtain ⟨collection, partitionName, expr⟩ := p
  obtain ⟨collection', partitionName', expr'⟩ := q
  obtain rfl : collection = collection' := by simpa [request] using first
  obtain rfl : partitionName = partitionName' := by simpa [request] using second
  obtain rfl : expr = expr' := by simpa [request] using third
  rfl

/-- Two builds of indexes with one request differ in their pace alone. -/
theorem IndexBuild.eq_of_request {p q : IndexBuild} (same : p.request = q.request) :
    q = { p with pacing := q.pacing } := by
  have first := congrArg (payloads · 3) same
  have second := congrArg (payloads · 4) same
  have third := congrArg (payloads · 5) same
  obtain ⟨collection, field, index, metric, extra, pacing⟩ := p
  obtain ⟨collection', field', index', metric', extra', pacing'⟩ := q
  obtain rfl : collection = collection' := by simpa [request, Request.pairs] using first
  obtain rfl : field = field' := by simpa [request, Request.pairs] using second
  obtain ⟨rfl, rfl, rfl⟩ : index = index' ∧ metric = metric' ∧ extra = extra' := by
    simpa [request, Request.pairs, pairs, Vocabulary.word_inj] using third
  rfl

/-- A natural number that was written is known from its complement. -/
theorem Request.eq_of_unsigned {width field : Nat} (word : width ≤ 64) {n n' : Int}
    {m m' : Message} (written : Request.unsigned width field n = .ok m)
    (written' : Request.unsigned width field n' = .ok m')
    (same : complement n = complement n') : n = n' := by
  obtain ⟨-, exact, -⟩ := eq_integer_of_unsigned word written
  obtain ⟨-, exact', -⟩ := eq_integer_of_unsigned word written'
  rw [← exact, ← exact', same]

theorem Query.eq_of_request {p q : Query} {m : Message} (written : p.request = .ok m)
    (written' : q.request = .ok m) : p = q := by
  obtain ⟨travel, travels, guarded⟩ := bind_eq_ok_iff.mp written
  obtain ⟨guarantee, guarantees, laid⟩ := map_eq_ok_iff.mp guarded
  obtain ⟨travel', travels', guarded'⟩ := bind_eq_ok_iff.mp written'
  obtain ⟨guarantee', guarantees', laid'⟩ := map_eq_ok_iff.mp guarded'
  obtain ⟨rfl, -⟩ := Request.eq_integer_of_unsigned (by decide) travels
  obtain ⟨rfl, -⟩ := Request.eq_integer_of_unsigned (by decide) guarantees
  obtain ⟨rfl, -⟩ := Request.eq_integer_of_unsigned (by decide) travels'
  obtain ⟨rfl, -⟩ := Request.eq_integer_of_unsigned (by decide) guarantees'
  have same := laid.trans laid'.symm
  have payloads : ∀ field, _ := fun field => congrArg (payloads · field) same
  obtain ⟨collection, partitions, outFields, expr, travelTimestamp, guaranteeTimestamp⟩ := p
  obtain ⟨collection', partitions', outFields', expr', travelTimestamp', guaranteeTimestamp'⟩ := q
  obtain rfl : collection = collection' := by simpa using payloads 3
  obtain rfl : expr = expr' := by simpa using payloads 4
  obtain rfl : outFields = outFields' := by simpa [List.map_inj_right] using payloads 5
  obtain rfl : partitions = partitions' := by simpa [List.map_inj_right] using payloads 6
  obtain rfl : travelTimestamp = travelTimestamp' :=
    Request.eq_of_unsigned (by decide) travels travels' (by simpa using payloads 7)
  obtain rfl : guaranteeTimestamp = guaranteeTimestamp' :=
    Request.eq_of_unsigned (by decide) guarantees guarantees' (by simpa using payloads 8)
  rfl

/-! ## All operations -/

namespace Operation

/-- The parameter with another pace: whether and how long it waits, and whether a flush
comes first. -/
def repaced (pacing : Pacing) (flushes : Bool) : (o : Operation) → o.Param → o.Param
  | .loadCollection, p => CollectionLoad.mk (CollectionLoad.collection p) pacing
  | .loadPartitions, p =>
      PartitionLoad.mk (PartitionLoad.collection p) (PartitionLoad.partitions p) pacing
  | .flush, p => Flush.mk (Flush.collections p) pacing
  | .createIndex, p => { (p : IndexBuild) with pacing }
  | .getCollectionStatistics, p => StatisticsQuery.mk (StatisticsQuery.collection p) flushes
  | _, p => p

/-- Parameters that become the same request differ in their pace alone. -/
theorem exists_repaced_of_encode_eq {o : Operation}
    (plain : o ∉ [createCollection, insert, search, calcDistance]) {p q : o.Param}
    {m m' : Message} (written : o.request p = .ok m) (written' : o.request q = .ok m')
    (same : m.encode = m'.encode) : ∃ pacing flushes, q = o.repaced pacing flushes p := by
  obtain rfl := encode_inj.mp same
  -- Any pace will do for a parameter that has none.
  let still : Pacing := ⟨false, .zero, .zero⟩
  have sent : o.request q = o.request p := written'.trans written.symm
  cases o with
  | createCollection | insert | search | calcDistance => exact absurd (by decide) plain
  | describeCollection | dropCollection | hasCollection | releaseCollection
  | getIndexBuildProgress | getPersistentSegmentInfo | getQuerySegmentInfo =>
      exact ⟨still, false, CollectionTarget.eq_of_request (Except.ok.inj sent)⟩
  | createPartition | dropPartition | hasPartition | getPartitionStatistics =>
      exact ⟨still, false, PartitionTarget.eq_of_request (Except.ok.inj sent)⟩
  | createAlias | alterAlias => exact ⟨still, false, AliasBinding.eq_of_request (Except.ok.inj sent)⟩
  | dropAlias => exact ⟨still, false, AliasTarget.eq_of_request (Except.ok.inj sent)⟩
  | describeIndex | getIndexState | dropIndex =>
      exact ⟨still, false, FieldTarget.eq_of_request (Except.ok.inj sent)⟩
  | getMetrics => exact ⟨still, false, MetricsQuery.eq_of_request (Except.ok.inj sent)⟩
  | releasePartitions => exact ⟨still, false, PartitionSet.eq_of_request (Except.ok.inj sent)⟩
  | showPartitions => exact ⟨still, false, PartitionSet.eq_of_listingRequest (Except.ok.inj sent)⟩
  | showCollections => exact ⟨still, false, CollectionSet.eq_of_listingRequest (Except.ok.inj sent)⟩
  | delete => exact ⟨still, false, Deletion.eq_of_request (Except.ok.inj sent)⟩
  | query => exact ⟨still, false, Query.eq_of_request written' written⟩
  | loadCollection =>
      exact ⟨CollectionLoad.pacing q, false,
        congrArg (CollectionLoad.mk · (CollectionLoad.pacing q)) (eq_of_text (Except.ok.inj sent))⟩
  | loadPartitions =>
      have ⟨collection, partitions⟩ := eq_of_names (by decide) (Except.ok.inj sent)
      exact ⟨PartitionLoad.pacing q, false,
        congrArg₂ (PartitionLoad.mk · · (PartitionLoad.pacing q)) collection partitions⟩
  | flush =>
      exact ⟨Flush.pacing q, false,
        congrArg (Flush.mk · (Flush.pacing q)) (eq_of_list (Except.ok.inj sent))⟩
  | createIndex => exact ⟨IndexBuild.pacing q, false, IndexBuild.eq_of_request (Except.ok.inj sent).symm⟩
  | getCollectionStatistics =>
      exact ⟨still, StatisticsQuery.flushes q,
        congrArg (StatisticsQuery.mk · (StatisticsQuery.flushes q)) (eq_of_text (Except.ok.inj sent))⟩

end Operation

end VectorClient
