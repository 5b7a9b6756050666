/-
# VectorClient.Proofs.Request.Metrics — metrics fit the vectors they compare

A search and a distance are accepted exactly if their vectors are a batch, or two of
one kind and dimension, and the metric compares vectors of that kind
(`Search.accepts_iff`, `Distance.accepts_iff`).  Of an accepted one, whatever is
said of the kind agrees: the batch as it is stored, the type derived from it, the
metric, and both as they are sent (`Search.Agreed`, `Distance.Agreed`).

What is wrong with other fields is left aside (`Blueprint.OtherwiseValid`).
-/
import VectorClient.Proofs.Form.Reports
import VectorClient.Proofs.Param.Columns
import VectorClient.Proofs.Request.Distance
import VectorClient.Proofs.Request.Search
import VectorClient.Param.Catalog

namespace VectorClient

set_option autoImplicit false

open Wire Wire.Message

/-! ## The metric and the vectors as they are given -/

namespace MetricType

/-- A keyword gives the metric: by its word, however that is written, or, for the one that
stands in for others, not at all. -/
inductive GivenBy (m : MetricType) : Option Value → Prop
  | omitted (standard : m = .l2) : GivenBy m none
  | written {v : Value} (word : Codec.readText v = .accepted (Vocabulary.word m)) :
      GivenBy m (some v)

/-- A metric that was given is read as what it is, and refused if it is none. -/
theorem readField_iff {m m' : MetricType} {v? : Option Value} (given : m.GivenBy v?) :
    Fields.readField "metric_type" .metric (some .l2) v? = .accepted m' ↔ m' = m ∧ m ≠ .invalid := by
  cases given with
  | omitted standard =>
      rw [standard, Fields.readField, Verdict.under_eq_accepted_iff, Verdict.accepted.injEq,
        and_iff_left nofun, eq_comm]
  | written word =>
      rw [Fields.readField_some_iff, Codec.metric, Codec.checked_eq_accepted_iff,
        Codec.choice_eq_accepted_iff]
      simp only [word, Verdict.accepted.injEq, exists_eq_left', Vocabulary.ofWord?_word,
        Option.some.injEq, ite_eq_right_iff, reduceCtorEq, imp_false, ne_eq]
      constructor
      · rintro ⟨rfl, set⟩
        exact ⟨rfl, set⟩
      · rintro ⟨rfl, set⟩
        exact ⟨rfl, set⟩

/-- A metric compares vectors of a kind exactly if both are of bits or neither is. -/
theorem kind_eq_iff {m : MetricType} {kind : VectorKind} :
    m.kind = kind ↔ (m ∈ ofBits ↔ kind = .binary) := by
  rw [mem_ofBits_iff]
  cases m.kind <;> cases kind <;> decide

theorem mismatch?_eq_none_iff {m : MetricType} {batch : Batch} :
    m.mismatch? batch = none ↔ m.kind = batch.kind := by
  unfold mismatch?
  split
  · exact iff_of_true rfl ‹_›
  · exact iff_of_false nofun ‹_›

end MetricType

/-- The elements of the list or tuple that a keyword gives. -/
def Keywords.row? (kw : Keywords) (name : String) : Option (List Value) :=
  (kw.find? name).bind Value.asRow?

namespace Batch

/-- Rows are read where a list or tuple is given, and kept as they are stored. -/
theorem readField_rows_iff {kw : Keywords} {name : String} {kept : List Value} :
    Fields.readField name (.rows 0) none (kw.find? name) = .accepted kept ↔
      ∃ items, kw.row? name = some items ∧ items.map Value.freezeRow = kept := by
  unfold Keywords.row?
  cases kw.find? name with
  | none => exact iff_of_false nofun nofun
  | some v =>
      rw [Fields.readField_some_iff, Codec.rows_eq_accepted_iff]
      simp only [Nat.zero_le, and_true, Option.bind_some]

/-- Rows pass the check as they are stored exactly if they do as they are given. -/
theorem check_map_freezeRow_iff {items : List Value} {kind : VectorKind} {dimension : Nat} :
    check (items.map Value.freezeRow) = .ok (kind, dimension) ↔
      check items = .ok (kind, dimension) := by
  simp only [check_eq_ok_iff, ne_eq, List.map_eq_nil_iff, List.forall_mem_map,
    Value.isVector_freezeRow]

/-- What is read as a batch was given as rows that pass the check. -/
theorem given_of_sideReads {kw : Keywords} {name : String} {b : Batch}
    (reads : Distance.SideReads kw name b) :
    ∃ items, kw.row? name = some items ∧ check items = .ok (b.kind, b.dimension) := by
  obtain ⟨kept, readRows, made⟩ := reads
  obtain ⟨items, given, rfl⟩ := readField_rows_iff.mp readRows
  refine ⟨items, given, check_map_freezeRow_iff.mp ?_⟩
  rw [check_eq, made]
  rfl

/-- Rows that pass the check are read as a batch. -/
theorem exists_sideReads {kw : Keywords} {name : String} {items : List Value}
    (given : kw.row? name = some items) {kind : VectorKind} {dimension : Nat}
    (passed : check items = .ok (kind, dimension)) :
    ∃ b, Distance.SideReads kw name b ∧ b.kind = kind ∧ b.dimension = dimension := by
  rw [← check_map_freezeRow_iff, check_eq, map_eq_ok_iff] at passed
  obtain ⟨b, made, same⟩ := passed
  obtain ⟨rfl, rfl⟩ := Prod.mk.inj same
  exact ⟨b, ⟨_, readField_rows_iff.mpr ⟨items, given, rfl⟩, made⟩, rfl, rfl⟩

/-- A batch that was read passes the check as it is stored. -/
theorem check_toValues {rows : List Value} {b : Batch} (read : ofValues rows = .ok b) :
    check b.toValues = .ok (b.kind, b.dimension) := by
  rw [check_eq, ofValues_toValues read]
  rfl

end Batch

/-! ## Searches -/

namespace Search

variable {title : String} {kw : Keywords} {p : Search}

/-- The cross-field check of a search passes a batch that the metric compares. -/
theorem pack_eq_ok_iff {collection : String} {partitions : List String} {metric : MetricType}
    {field : String} {topK : Int} {expr : String} {outFields : List String} {rows : List Value}
    {roundDecimal : Int} {params : String} {travel guarantee : Int} :
    (blueprint title).pack (collection, partitions, metric, field, topK, expr, outFields, rows,
        roundDecimal, params, travel, guarantee, ()) = .ok p ↔
      ∃ batch, Batch.ofValues rows = .ok batch ∧ metric.kind = batch.kind ∧
        ⟨collection, partitions, metric, field, topK, expr, outFields, batch, roundDecimal, params,
          travel, guarantee⟩ = p := by
  simp only [blueprint]
  cases Batch.ofValues rows with
  | error fault => simp
  | ok batch =>
      simp only [Except.ok.injEq, exists_eq_left']
      rw [← MetricType.mismatch?_eq_none_iff]
      cases metric.mismatch? batch <;> simp

/-- The vectors of a search are what was given as such, and so is its metric. -/
theorem reads_of_build (built : (blueprint title).build kw = .accepted p) :
    Distance.SideReads kw "vectors" p.vectors ∧
      Fields.readField "metric_type" .metric (some .l2) (kw.find? "metric_type") =
        .accepted p.metric ∧ p.metric.kind = p.vectors.kind := by
  obtain ⟨-, -, ⟨collection, partitions, metric, field, topK, expr, outFields, rows, more⟩, read,
    packed⟩ := Blueprint.build_eq_accepted_iff.mp built
  obtain ⟨-, -, metricRead, -, -, -, -, rowsRead, -⟩ : _ ∧ _ ∧ _ ∧ _ ∧ _ ∧ _ ∧ _ ∧ _ ∧ _ := by
    simpa only [blueprint, Fields.name, Fields.anyNames, Fields.read_cons_eq_accepted_iff]
      using read
  obtain ⟨batch, made, fits, rfl⟩ := pack_eq_ok_iff.mp packed
  exact ⟨⟨rows, rowsRead, made⟩, metricRead, fits⟩

/-- **A search is accepted exactly if its metric is one, its vectors are a batch, and the metric
compares vectors of their kind.** -/
theorem accepts_iff (valid : (blueprint title).OtherwiseValid ["metric_type", "vectors"] kw)
    {m : MetricType} (given : m.GivenBy (kw.find? "metric_type")) :
    (∃ p, (blueprint title).build kw = .accepted p) ↔ m ≠ .invalid ∧
      ∃ items kind dimension, kw.row? "vectors" = some items ∧
        Batch.check items = .ok (kind, dimension) ∧ (m ∈ MetricType.ofBits ↔ kind = .binary) := by
  constructor
  · rintro ⟨p, built⟩
    obtain ⟨reads, metricRead, fits⟩ := reads_of_build built
    obtain ⟨rfl, set⟩ := (MetricType.readField_iff given).mp metricRead
    obtain ⟨items, givenRows, passed⟩ := Batch.given_of_sideReads reads
    exact ⟨set, items, _, _, givenRows, passed, MetricType.kind_eq_iff.mp fits⟩
  · rintro ⟨set, items, kind, dimension, givenRows, passed, fits⟩
    obtain ⟨batch, ⟨rows, rowsRead, made⟩, rfl, rfl⟩ := Batch.exists_sideReads givenRows passed
    obtain ⟨⟨collection, collectionRead⟩, ⟨partitions, partitionsRead⟩, ⟨field, fieldRead⟩,
        ⟨topK, topKRead⟩, ⟨expr, exprRead⟩, ⟨outFields, outFieldsRead⟩,
        ⟨roundDecimal, roundDecimalRead⟩, ⟨params, paramsRead⟩, ⟨travel, travelRead⟩,
        ⟨guarantee, guaranteeRead⟩, -⟩ : _ ∧ _ ∧ _ ∧ _ ∧ _ ∧ _ ∧ _ ∧ _ ∧ _ ∧ _ ∧ _ := by
      simpa [blueprint, Fields.name, Fields.anyNames, Fields.acceptsBut_cons_iff, Fields.names]
        using valid.read
    have metricRead := (MetricType.readField_iff given).mpr ⟨rfl, set⟩
    have read : (blueprint title).fields.read kw = .accepted (collection, partitions, m, field, topK,
        expr, outFields, rows, roundDecimal, params, travel, guarantee, ()) := by
      simp only [blueprint, Fields.name, Fields.anyNames, Fields.read_cons_eq_accepted_iff]
      exact ⟨collectionRead, partitionsRead, metricRead, fieldRead, topKRead, exprRead,
        outFieldsRead, rowsRead, roundDecimalRead, paramsRead, travelRead, guaranteeRead, rfl⟩
    have unreserved : Blueprint.receiver ∉ (blueprint title).fields.names := by
      simp [blueprint, Fields.name, Fields.anyNames, Fields.names, Blueprint.receiver]
    exact ⟨_, Blueprint.build_eq_accepted_iff.mpr ⟨valid.namesReceiver unreserved, valid.unknown, _,
      read, pack_eq_ok_iff.mpr ⟨batch, made, MetricType.kind_eq_iff.mpr fits, rfl⟩⟩⟩

/-- Whatever is said of the vectors of a search agrees: the check of what was given, and of the
field as it is stored; the type derived from that; the metric; and what of both is sent. -/
structure Agreed (kw : Keywords) (p : Search) (kind : VectorKind) (dimension : Nat) : Prop where
  given : ∃ items, kw.row? "vectors" = some items ∧ Batch.check items = .ok (kind, dimension)
  stored : ∃ items, (Parameter.fields ⟨.operation .search, p⟩).row? "vectors" = some items ∧
    Batch.check items = .ok (kind, dimension)
  derived : Parameter.derived ⟨.operation .search, p⟩ =
    [("vector_type", .member (.dataType kind.dataType))]
  metricGiven : ∀ m : MetricType, m.GivenBy (kw.find? "metric_type") → p.metric = m
  metric : p.metric ∈ MetricType.ofBits ↔ kind = .binary
  sent : ∀ m, p.request = .ok m → ∃ (settings : Text.Pairs) (group : ReadTargets),
    m.messagesOf? 9 = some (settings.map Request.pair) ∧
    (settings.lookup "metric_type").bind Vocabulary.ofWord? = some p.metric ∧
    ReadTargets.ofBytes? (m.bytesOf 6) = some [group] ∧
    DataType.ofNumber? group.typeNumber = some kind.dataType

/-- The settings and the target vectors stand in a request. -/
theorem parts_of_request {m : Message} (written : p.request = .ok m) :
    ∃ settings inner, p.pairs = .ok settings ∧ p.vectors.placeholderGroup = .ok inner ∧
      m.messagesOf? 9 = some (settings.map Request.pair) ∧ m.bytesOf 6 = inner.encode := by
  obtain ⟨inner, grouped, told⟩ := bind_eq_ok_iff.mp written
  obtain ⟨settings, listed, timed⟩ := bind_eq_ok_iff.mp told
  obtain ⟨travel, travels, guarded⟩ := bind_eq_ok_iff.mp timed
  obtain ⟨guarantee, guarantees, laid⟩ := map_eq_ok_iff.mp guarded
  obtain ⟨rfl, -, -⟩ := Request.eq_integer_of_unsigned (by decide) travels
  obtain ⟨rfl, -, -⟩ := Request.eq_integer_of_unsigned (by decide) guarantees
  exact ⟨settings, inner, listed, grouped, messagesOf?_eq (by simp [← laid, Request.pairs]),
    bytesOf_eq (.inl (by simp [← laid, Request.pairs]))⟩

theorem agreed_of_build (built : (blueprint title).build kw = .accepted p) :
    p.Agreed kw p.vectors.kind p.vectors.dimension := by
  obtain ⟨reads, metricRead, fits⟩ := reads_of_build built
  have ⟨rows, _, made⟩ := reads
  constructor
  case given => exact Batch.given_of_sideReads reads
  case stored => exact ⟨_, congrArg some (List.map_id _), Batch.check_toValues made⟩
  case derived => rfl
  case metricGiven => exact fun m given => ((MetricType.readField_iff given).mp metricRead).1
  case metric => exact MetricType.kind_eq_iff.mp fits
  case sent =>
    intro m written
    obtain ⟨settings, inner, listed, grouped, pairs, groups⟩ := parts_of_request written
    obtain ⟨group, groupRead, targets⟩ :=
      targets_read (Batch.uniform_of_ofValues made) fits grouped
    exact ⟨settings, group, pairs, (pairs_read listed).metric, groups ▸ groupRead, targets.dataType⟩

end Search

/-! ## Distances -/

namespace Distance

variable {title : String} {kw : Keywords} {p : Distance}

/-- **A distance is accepted exactly if its metric is one, its sides are batches of one kind and
one dimension, and the metric compares vectors of that kind.** -/
theorem accepts_iff (valid : (blueprint title).OtherwiseValid
      ["vectors_left", "vectors_right", "metric_type"] kw)
    {m : MetricType} (given : m.GivenBy (kw.find? "metric_type")) :
    (∃ p, (blueprint title).build kw = .accepted p) ↔ m ≠ .invalid ∧
      ∃ left right kind dimension, kw.row? "vectors_left" = some left ∧
        kw.row? "vectors_right" = some right ∧ Batch.check left = .ok (kind, dimension) ∧
        Batch.check right = .ok (kind, dimension) ∧
        (m ∈ MetricType.ofBits ↔ kind = .binary) := by
  constructor
  · rintro ⟨p, built⟩
    obtain ⟨-, leftReads, rightReads, metricRead, agrees⟩ := build_eq_accepted_iff.mp built
    obtain ⟨rfl, set⟩ := (MetricType.readField_iff given).mp metricRead
    obtain ⟨left, leftGiven, leftPassed⟩ := Batch.given_of_sideReads leftReads
    obtain ⟨right, rightGiven, rightPassed⟩ := Batch.given_of_sideReads rightReads
    rw [← agrees.kinds, ← agrees.dimensions] at rightPassed
    exact ⟨set, left, right, _, _, leftGiven, rightGiven, leftPassed, rightPassed,
      MetricType.kind_eq_iff.mp agrees.metric⟩
  · rintro ⟨set, left, right, kind, dimension, leftGiven, rightGiven, leftPassed, rightPassed, fits⟩
    obtain ⟨leftBatch, leftReads, rfl, rfl⟩ := Batch.exists_sideReads leftGiven leftPassed
    obtain ⟨rightBatch, rightReads, kinds, dimensions⟩ :=
      Batch.exists_sideReads rightGiven rightPassed
    have unreserved : Blueprint.receiver ∉ (blueprint title).fields.names := by
      simp [blueprint, Fields.names, Blueprint.receiver]
    exact ⟨⟨leftBatch, rightBatch, m⟩, build_eq_accepted_iff.mpr
      ⟨⟨valid.find?_receiver unreserved, valid.known⟩, leftReads, rightReads,
        (MetricType.readField_iff given).mpr ⟨rfl, set⟩,
        ⟨kinds.symm, dimensions.symm, MetricType.kind_eq_iff.mpr fits⟩⟩⟩

/-- Whatever is said of one side of a distance: the check of what was given, and of the field as it
is stored. -/
structure SideAgreed (kw : Keywords) (p : Distance) (name : String) (kind : VectorKind)
    (dimension : Nat) : Prop where
  given : ∃ items, kw.row? name = some items ∧ Batch.check items = .ok (kind, dimension)
  stored : ∃ items, (Parameter.fields ⟨.operation .calcDistance, p⟩).row? name = some items ∧
    Batch.check items = .ok (kind, dimension)

/-- Whatever is said of the vectors of a distance agrees: the two sides, the type derived from
them, the metric, and what of all these is sent. -/
structure Agreed (kw : Keywords) (p : Distance) (kind : VectorKind) (dimension : Nat) : Prop where
  left : p.SideAgreed kw "vectors_left" kind dimension
  right : p.SideAgreed kw "vectors_right" kind dimension
  derived : Parameter.derived ⟨.operation .calcDistance, p⟩ =
    [("vector_type", .member (.dataType kind.dataType))]
  metricGiven : ∀ m : MetricType, m.GivenBy (kw.find? "metric_type") → p.metric = m
  metric : p.metric ∈ MetricType.ofBits ↔ kind = .binary
  sent : ∀ m, p.request = .ok m → ∃ read, ReadDistance.ofBytes? m.encode = some read ∧
    p.ReadsAs read

theorem agreed_of_build (built : (blueprint title).build kw = .accepted p) :
    p.Agreed kw p.left.kind p.left.dimension := by
  obtain ⟨-, leftReads, rightReads, metricRead, agrees⟩ := build_eq_accepted_iff.mp built
  have ⟨leftRows, _, left⟩ := leftReads
  have ⟨rightRows, _, right⟩ := rightReads
  have rightGiven := Batch.given_of_sideReads rightReads
  have rightCheck := Batch.check_toValues right
  rw [← agrees.kinds, ← agrees.dimensions] at rightGiven rightCheck
  constructor
  case left =>
    exact ⟨Batch.given_of_sideReads leftReads, _, congrArg some (List.map_id _),
      Batch.check_toValues left⟩
  case right => exact ⟨rightGiven, _, congrArg some (List.map_id _), rightCheck⟩
  case derived => rfl
  case metricGiven => exact fun m given => ((MetricType.readField_iff given).mp metricRead).1
  case metric => exact MetricType.kind_eq_iff.mp agrees.metric
  case sent =>
    exact fun m => reads_of_request agrees (Batch.uniform_of_ofValues left)
      (Batch.uniform_of_ofValues right)

end Distance

/-- **Metrics fit the vectors they compare.**  With other fields as they should be, a search is
accepted exactly if its metric is one and compares the kind of vectors that its batch holds; and a
distance, exactly if this is so for two batches of one kind and dimension.  What is said later
of the vectors of an accepted one agrees, up to the request. -/
theorem metrics_fit_vectors :
    (∀ (title : String) (kw : Keywords) (m : MetricType),
      (Search.blueprint title).OtherwiseValid ["metric_type", "vectors"] kw →
      m.GivenBy (kw.find? "metric_type") →
      ((∃ p, (Search.blueprint title).build kw = .accepted p) ↔ m ≠ .invalid ∧
        ∃ items kind dimension, kw.row? "vectors" = some items ∧
          Batch.check items = .ok (kind, dimension) ∧
          (m ∈ MetricType.ofBits ↔ kind = .binary))) ∧
    (∀ (title : String) (kw : Keywords) (m : MetricType),
      (Distance.blueprint title).OtherwiseValid
        ["vectors_left", "vectors_right", "metric_type"] kw →
      m.GivenBy (kw.find? "metric_type") →
      ((∃ p, (Distance.blueprint title).build kw = .accepted p) ↔ m ≠ .invalid ∧
        ∃ left right kind dimension, kw.row? "vectors_left" = some left ∧
          kw.row? "vectors_right" = some right ∧ Batch.check left = .ok (kind, dimension) ∧
          Batch.check right = .ok (kind, dimension) ∧
          (m ∈ MetricType.ofBits ↔ kind = .binary))) ∧
    (∀ (title : String) (kw : Keywords) (p : Search),
      (Search.blueprint title).build kw = .accepted p →
      p.Agreed kw p.vectors.kind p.vectors.dimension) ∧
    ∀ (title : String) (kw : Keywords) (p : Distance),
      (Distance.blueprint title).build kw = .accepted p →
      p.Agreed kw p.left.kind p.left.dimension :=
  ⟨fun _ _ _ valid given => Search.accepts_iff valid given,
    fun _ _ _ valid given => Distance.accepts_iff valid given,
    fun _ _ _ built => Search.agreed_of_build built,
    fun _ _ _ built => Distance.agreed_of_build built⟩

/-- A search among vectors of bits. -/
def bitSearch : Keywords :=
  [("collection_name", .text "films"), ("vector_field_name", .text "poster"), ("top_k", .int 3),
    ("vectors", .list [.bytes [7, 1], .byteArray [9, 0]]), ("metric_type", .text "JACCARD")]

/-- The same search by the metric that stands in for others, which is not for bits. -/
def bitSearchByDefault : Keywords := bitSearch.take 4

/-- Two rows of numbers of one length, compared by a metric that is not for bits. -/
def numberDistance : Keywords :=
  [("vectors_left", .list [.list [.int 1, .int 2]]), ("metric_type", .text "IP"),
    ("vectors_right", .tuple [.tuple [.int 3, .int 4]])]

theorem metrics_fit_vectors_bitSearch :
    (∃ p, (Search.blueprint "SearchParam").build bitSearch = .accepted p ∧
      p.Agreed bitSearch p.vectors.kind p.vectors.dimension) ∧
    (¬ ∃ p, (Search.blueprint "SearchParam").build bitSearchByDefault = .accepted p) ∧
    ∃ p, (Distance.blueprint "CalcDistanceParam").build numberDistance = .accepted p ∧
      p.Agreed numberDistance p.left.kind p.left.dimension := by
  obtain ⟨searches, distances, searched, compared⟩ := metrics_fit_vectors
  have packed : Batch.check [.bytes [7, 1], .byteArray [9, 0]] = .ok (.binary, 16) := by
    decide +kernel
  refine ⟨?_, ?_, ?_⟩
  · obtain ⟨p, built⟩ := (searches "SearchParam" bitSearch .jaccard
      ⟨by decide +kernel, by decide +kernel⟩ (.written rfl)).mpr
      ⟨nofun, _, _, _, rfl, packed, by decide⟩
    exact ⟨p, built, searched _ _ p built⟩
  · intro built
    obtain ⟨-, items, kind, dimension, given, passed, fits⟩ :=
      (searches "SearchParam" bitSearchByDefault .l2
        ⟨by decide +kernel, by decide +kernel⟩ (.omitted rfl)).mp built
    cases given
    cases packed.symm.trans passed
    exact absurd (fits.mpr rfl) (by decide)
  · have left : Batch.check [.list [.int 1, .int 2]] = .ok (.float, 2) := by decide +kernel
    have right : Batch.check [.tuple [.int 3, .int 4]] = .ok (.float, 2) := by decide +kernel
    obtain ⟨p, built⟩ := (distances "CalcDistanceParam" numberDistance .innerProduct
      ⟨by decide +kernel, by decide +kernel⟩ (.written rfl)).mpr
      ⟨nofun, _, _, _, _, rfl, rfl, left, right, by decide⟩
    exact ⟨p, built, compared _ _ p built⟩

end VectorClient
