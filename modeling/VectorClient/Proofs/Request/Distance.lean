/-
# VectorClient.Proofs.Request.Distance — a distance and its two sides

Nothing in a distance tells its sides apart but their place.  A reader that knows
the numbers of the fields alone finds both sides, of one kind and one dimension, and the
metric as the only pair.  A distance with its sides exchanged is accepted exactly if
the distance is, and its request is the same one with the operands exchanged: also in
what cannot be written, which is the fault of either side.

* `Distance.reads_of_request`: a request is read back.
* `Distance.build_eq_accepted_iff`: acceptance, said of the sides one by one.
* `Batch.fault_of_toOperand`: the fault of a side depends on its dimension alone.
* `distance_request_exchanges`: the round trip and the exchange together.
-/
import VectorClient.Proofs.Request.Insertion
import VectorClient.Proofs.Request.Pairs

namespace VectorClient

set_option autoImplicit false

open Number Wire Message

/-! ## Reading a request -/

/-- A distance as it stands on the wire. -/
structure ReadDistance where
  left : ReadRows
  right : ReadRows
  pairs : Text.Pairs

namespace ReadDistance

/-- The vectors of an operand: identifiers of stored vectors, or vectors themselves. -/
def operand? (m : Message) : Option ReadRows :=
  match m.member? [1, 2] with
  | some 2 => (m.messageOf? 2).bind ReadRows.ofVectors?
  | _ => none

def ofBytes? (bytes : List UInt8) : Option ReadDistance :=
  (decode? bytes).bind fun m =>
    ((m.messageOf? 2).bind operand?).bind fun left =>
      ((m.messageOf? 3).bind operand?).bind fun right =>
        ((m.messagesOf? 4).bind fun ms => ms.mapM readPair?).map fun pairs => ⟨left, right, pairs⟩

end ReadDistance

/-- Both sides are vectors of one kind and one dimension. -/
inductive ReadRows.Alike : ReadRows → ReadRows → Prop
  | binary (dimension : Int) (left right : List UInt8) :
      Alike (.binaryVectors dimension left) (.binaryVectors dimension right)
  | float (dimension : Int) (left right : List Single) :
      Alike (.floatVectors dimension left) (.floatVectors dimension right)

/-- A distance comes back. -/
structure Distance.ReadsAs (p : Distance) (read : ReadDistance) : Prop where
  alike : read.left.Alike read.right
  left : (Column.vectors p.left).ReadsAs read.left
  right : (Column.vectors p.right).ReadsAs read.right
  pairs : read.pairs = [("metric_type", Vocabulary.word p.metric)]
  metric : Vocabulary.ofWord? (Vocabulary.word p.metric) = some p.metric

/-- A list that is not converted has an element that is not. -/
theorem Request.exists_of_each_error {α β : Type} {f : α → Except Fault β} {as : List α}
    {fault : Fault} (unconverted : each f as = .error fault) : ∃ a ∈ as, f a = .error fault := by
  induction as with
  | nil => cases unconverted
  | cons a as ih =>
      simp only [each] at unconverted
      split at unconverted
      · rename_i fault' here
        cases unconverted
        exact ⟨a, by simp, here⟩
      · obtain ⟨a', member, there⟩ := ih (map_eq_error_iff.mp unconverted)
        exact ⟨a', by simp [member], there⟩

/-! ## Sides of one batch each -/

namespace Batch

/-- What is written of a batch as an operand is read back. -/
theorem toOperand_reads {b : Batch} (uniform : b.Uniform) {m : Message}
    (written : b.toOperand = .ok m) :
    ∃ rows, ReadDistance.operand? m = some rows ∧ (Column.vectors b).ReadsAs rows := by
  obtain ⟨inner, message, rfl⟩ := map_eq_ok_iff.mp written
  obtain ⟨rows, read, reads⟩ := toMessage_reads uniform message
  have set : (nested 2 inner).member? [1, 2] = some 2 :=
    member?_append_present [] _ (by decide)
  have content : (nested 2 inner).messageOf? 2 = some inner := messageOf?_eq (by simp)
  refine ⟨rows, ?_, reads⟩
  simp only [ReadDistance.operand?, set, content, Option.bind_some, read]

/-- Batches of one kind and one dimension are alike on the wire. -/
theorem alike_of_reads {left right : Batch} (kinds : left.kind = right.kind)
    (dimensions : left.dimension = right.dimension) {left' right' : ReadRows}
    (leftReads : (Column.vectors left).ReadsAs left')
    (rightReads : (Column.vectors right).ReadsAs right') : left'.Alike right' := by
  cases left with
  | binary rows =>
      cases right with
      | binary others =>
          cases left' <;> first | exact leftReads.elim | skip
          cases right' <;> first | exact rightReads.elim | skip
          obtain ⟨rfl, -⟩ := leftReads
          obtain ⟨rfl, -⟩ := rightReads
          rw [dimensions]
          exact .binary _ _ _
      | float others => cases kinds
  | float rows =>
      cases right with
      | binary others => cases kinds
      | float others =>
          cases left' <;> first | exact leftReads.elim | skip
          cases right' <;> first | exact rightReads.elim | skip
          obtain ⟨rfl, -⟩ := leftReads
          obtain ⟨rfl, -⟩ := rightReads
          rw [dimensions]
          exact .float _ _ _

/-- The fault of a batch that cannot be written. -/
def fault (b : Batch) : Request.Fault :=
  if IntWidth.bits64.Fits b.dimension then .integerTooLarge else .outOfRange b.dimension

/-- The components of a batch have one fault. -/
theorem fault_of_array {b : Batch} {fault : Request.Fault} (unwritten : b.array = .error fault) :
    fault = .integerTooLarge := by
  cases b with
  | binary rows => cases unwritten
  | float rows =>
      have singles : Request.singles rows.flatten = .error fault := map_eq_error_iff.mp unwritten
      obtain ⟨n, -, single⟩ := Request.exists_of_each_error singles
      have double : Request.double n = .error fault := map_eq_error_iff.mp single
      unfold Request.double at double
      split at double
      · cases double
      · cases double
        rfl

/-- Whether a batch can be written depends on its components as well, the fault on its
dimension alone. -/
theorem fault_of_toOperand {b : Batch} {fault : Request.Fault}
    (unwritten : b.toOperand = .error fault) : fault = b.fault := by
  have message : b.toMessage = .error fault := map_eq_error_iff.mp unwritten
  unfold Batch.fault
  rcases bind_eq_error_iff.mp message with outside | ⟨dimension, inside, arrayed⟩
  · unfold Request.signed at outside
    split at outside
    · cases outside
    · rename_i wide
      cases outside
      rw [if_neg wide]
  · rw [if_pos (Request.signed_eq_ok_iff.mp inside).1]
    exact fault_of_array (map_eq_error_iff.mp arrayed)

end Batch

namespace Distance

/-! ## Acceptance -/

/-- The sides agree, and the metric compares vectors of their kind. -/
structure Agrees (p : Distance) : Prop where
  kinds : p.left.kind = p.right.kind
  dimensions : p.left.dimension = p.right.dimension
  metric : p.metric.kind = p.left.kind

theorem inconsistency?_eq_none_iff {p : Distance} : p.inconsistency? = none ↔ p.Agrees := by
  unfold inconsistency?
  split
  · rename_i differ
    exact ⟨nofun, fun agrees => absurd agrees.kinds differ⟩
  · rename_i kinds
    split
    · rename_i differ
      exact ⟨nofun, fun agrees => absurd agrees.dimensions differ⟩
    · rename_i dimensions
      unfold MetricType.mismatch?
      split
      · rename_i metric
        exact iff_of_true rfl ⟨Decidable.not_not.mp kinds, Decidable.not_not.mp dimensions, metric⟩
      · rename_i differ
        exact ⟨nofun, fun agrees => absurd agrees.metric differ⟩

/-- The name of a side for that of the other one. -/
def otherSide (name : String) : String :=
  if name = "vectors_left" then "vectors_right"
  else if name = "vectors_right" then "vectors_left"
  else name

theorem mem_names_otherSide {name : String}
    (among : name ∈ ["vectors_left", "vectors_right", "metric_type"]) :
    otherSide name ∈ ["vectors_left", "vectors_right", "metric_type"] := by
  simp only [List.mem_cons, List.not_mem_nil, or_false] at among
  rcases among with rfl | rfl | rfl <;> decide

/-- The arguments of the one side given for the other. -/
def exchangedKeywords (kw : Keywords) : Keywords := kw.map fun e => (otherSide e.1, e.2)

/-- The distance with its sides exchanged. -/
def exchanged (p : Distance) : Distance := ⟨p.right, p.left, p.metric⟩

@[simp]
theorem otherSide_otherSide (name : String) : otherSide (otherSide name) = name := by
  unfold otherSide
  split_ifs <;> simp_all

@[simp]
theorem exchangedKeywords_exchangedKeywords (kw : Keywords) :
    exchangedKeywords (exchangedKeywords kw) = kw := by
  simp [exchangedKeywords, Function.comp_def]

@[simp]
theorem exchanged_exchanged (p : Distance) : p.exchanged.exchanged = p := rfl

/-- The one side is found under the name of the other. -/
theorem find?_exchangedKeywords (kw : Keywords) (name : String) :
    (exchangedKeywords kw).find? name = kw.find? (otherSide name) := by
  have same : ∀ e : String × Value, (otherSide e.1 == name) = (e.1 == otherSide name) := by
    intro e
    rw [Bool.eq_iff_iff, beq_iff_eq, beq_iff_eq]
    constructor
    · rintro rfl
      exact (otherSide_otherSide e.1).symm
    · intro other
      rw [other, otherSide_otherSide]
  simp [Keywords.find?, exchangedKeywords, List.find?_map, Function.comp_def, same]

theorem Agrees.exchanged {p : Distance} (agrees : p.Agrees) : p.exchanged.Agrees where
  kinds := agrees.kinds.symm
  dimensions := agrees.dimensions.symm
  metric := agrees.metric.trans agrees.kinds

/-- The batch that a keyword gives for one side. -/
def SideReads (kw : Keywords) (name : String) (b : Batch) : Prop :=
  ∃ rows, Fields.readField name (.rows 0) none (kw.find? name) = .accepted rows ∧
    Batch.ofValues rows = .ok b

/-- The name of a side does not matter for what is read there. -/
theorem SideReads.exchanged {kw : Keywords} {name : String} {b : Batch}
    (reads : SideReads kw name b) : SideReads (exchangedKeywords kw) (otherSide name) b := by
  obtain ⟨rows, accepted, batch⟩ := reads
  refine ⟨rows, ?_, batch⟩
  rw [find?_exchangedKeywords, otherSide_otherSide]
  exact Verdict.under_eq_accepted_iff.mpr (Verdict.under_eq_accepted_iff.mp accepted)

/-- A distance is accepted exactly if no keyword is unknown, each side is a batch, and
the sides agree. -/
theorem build_eq_accepted_iff {title : String} {kw : Keywords} {p : Distance} :
    (blueprint title).build kw = .accepted p ↔
      (kw.find? Blueprint.receiver = none ∧
        ∀ e ∈ kw, e.1 ∈ ["vectors_left", "vectors_right", "metric_type"]) ∧
      SideReads kw "vectors_left" p.left ∧ SideReads kw "vectors_right" p.right ∧
      Fields.readField "metric_type" .metric (some .l2) (kw.find? "metric_type") =
        .accepted p.metric ∧ p.Agrees := by
  have receiver : (blueprint title).namesReceiver kw = false ↔
      kw.find? Blueprint.receiver = none := by
    simp [Blueprint.namesReceiver, blueprint]
  have known : (blueprint title).unknown kw = [] ↔
      ∀ e ∈ kw, e.1 ∈ ["vectors_left", "vectors_right", "metric_type"] := by
    simp [Blueprint.unknown, blueprint, Fields.unknown, Fields.names, or_iff_not_imp_left]
  rw [Blueprint.build_eq_accepted_iff, receiver, known, ← and_assoc]
  -- What is left is to read the fields and to check them against each other.
  refine and_congr_right fun _ => ?_
  simp only [blueprint, Fields.read, Verdict.both_eq_accepted_iff, SideReads]
  constructor
  · rintro ⟨raw, ⟨leftRows, more, leftRead, ⟨rightRows, last, rightRead,
      ⟨metric, ⟨⟩, metricRead, -, rfl⟩, rfl⟩, rfl⟩, packed⟩
    dsimp only at packed
    split at packed
    · cases packed
    · cases packed
    · rename_i left right leftBatch rightBatch
      split at packed
      · cases packed
      · rename_i consistent
        cases packed
        exact ⟨⟨leftRows, leftRead, leftBatch⟩, ⟨rightRows, rightRead, rightBatch⟩, metricRead,
          inconsistency?_eq_none_iff.mp consistent⟩
  · rintro ⟨⟨leftRows, leftRead, leftBatch⟩, ⟨rightRows, rightRead, rightBatch⟩, metricRead,
      agrees⟩
    refine ⟨(leftRows, rightRows, p.metric, ()), ⟨_, _, leftRead, ⟨_, _, rightRead,
      ⟨_, _, metricRead, trivial, rfl⟩, rfl⟩, rfl⟩, ?_⟩
    have consistent : inconsistency? ⟨p.left, p.right, p.metric⟩ = none :=
      inconsistency?_eq_none_iff.mpr agrees
    simp only [leftBatch, rightBatch, consistent]

theorem build_exchanged {title : String} {kw : Keywords} {p : Distance}
    (built : (blueprint title).build kw = .accepted p) :
    (blueprint title).build (exchangedKeywords kw) = .accepted p.exchanged := by
  obtain ⟨⟨receiver, known⟩, left, right, metric, agrees⟩ := build_eq_accepted_iff.mp built
  refine build_eq_accepted_iff.mpr ⟨⟨?_, ?_⟩, right.exchanged, left.exchanged, ?_,
    agrees.exchanged⟩
  · rw [find?_exchangedKeywords]
    exact receiver
  · intro e member
    obtain ⟨e', member', rfl⟩ := List.mem_map.mp member
    exact mem_names_otherSide (known e' member')
  · rw [find?_exchangedKeywords]
    exact metric

theorem uniform_of_build {title : String} {kw : Keywords} {p : Distance}
    (built : (blueprint title).build kw = .accepted p) : p.left.Uniform ∧ p.right.Uniform := by
  obtain ⟨-, ⟨_, -, left⟩, ⟨_, -, right⟩, -⟩ := build_eq_accepted_iff.mp built
  exact ⟨Batch.uniform_of_ofValues left, Batch.uniform_of_ofValues right⟩

/-! ## The request -/

/-- The request that holds two operands. -/
def layout (left right : Message) (metric : MetricType) : Message :=
  nested 2 left ++ nested 3 right ++
    Request.pairs 4 [(Defaults.metricTypeKey, Vocabulary.word metric)]

theorem request_eq_ok_iff {p : Distance} {m : Message} :
    p.request = .ok m ↔ ∃ left right, p.left.toOperand = .ok left ∧
      p.right.toOperand = .ok right ∧ layout left right p.metric = m := by
  simp only [request, bind_eq_ok_iff, map_eq_ok_iff, exists_and_left, layout]

theorem request_eq_error_iff {p : Distance} {fault : Request.Fault} :
    p.request = .error fault ↔ p.left.toOperand = .error fault ∨
      ∃ left, p.left.toOperand = .ok left ∧ p.right.toOperand = .error fault := by
  simp only [request, bind_eq_error_iff, map_eq_error_iff]

/-- A request is read back, side by side. -/
theorem reads_of_request {p : Distance} (agrees : p.Agrees) (leftUniform : p.left.Uniform)
    (rightUniform : p.right.Uniform) {m : Message} (written : p.request = .ok m) :
    ∃ read, ReadDistance.ofBytes? m.encode = some read ∧ p.ReadsAs read := by
  obtain ⟨left, right, leftWritten, rightWritten, rfl⟩ := request_eq_ok_iff.mp written
  obtain ⟨leftRows, leftRead, leftReads⟩ := Batch.toOperand_reads leftUniform leftWritten
  obtain ⟨rightRows, rightRead, rightReads⟩ := Batch.toOperand_reads rightUniform rightWritten
  have leftOperand : (layout left right p.metric).messageOf? 2 = some left :=
    messageOf?_eq (by simp [layout, Request.pairs])
  have rightOperand : (layout left right p.metric).messageOf? 3 = some right :=
    messageOf?_eq (by simp [layout, Request.pairs])
  have pairs : (layout left right p.metric).messagesOf? 4 =
      some ([("metric_type", Vocabulary.word p.metric)].map Request.pair) :=
    messagesOf?_eq (by simp [layout, Request.pairs, Defaults.metricTypeKey])
  refine ⟨⟨leftRows, rightRows, [("metric_type", Vocabulary.word p.metric)]⟩, ?_,
    Batch.alike_of_reads agrees.kinds agrees.dimensions leftReads rightReads, leftReads,
    rightReads, rfl, Vocabulary.ofWord?_word p.metric⟩
  simp only [ReadDistance.ofBytes?, decode?_encode, leftOperand, rightOperand, leftRead, rightRead,
    pairs, mapM_map_eq_some readPair?_pair, Option.bind_some, Option.map_some]

/-- The requests of a distance and of the exchanged one: the operands change places, or
neither can be written for the same fault. -/
def Exchanges (p : Distance) : Prop :=
  (∃ left right, p.request = .ok (layout left right p.metric) ∧
    p.exchanged.request = .ok (layout right left p.metric)) ∨
  ∃ fault, p.request = .error fault ∧ p.exchanged.request = .error fault

theorem exchanges_of_agrees {p : Distance} (agrees : p.Agrees) : p.Exchanges := by
  have same : p.left.fault = p.right.fault := by
    unfold Batch.fault
    rw [agrees.dimensions]
  cases left : p.left.toOperand with
  | ok l =>
      cases right : p.right.toOperand with
      | ok r =>
          exact .inl ⟨l, r, request_eq_ok_iff.mpr ⟨l, r, left, right, rfl⟩,
            request_eq_ok_iff.mpr ⟨r, l, right, left, rfl⟩⟩
      | error fault =>
          exact .inr ⟨fault, request_eq_error_iff.mpr (.inr ⟨l, left, right⟩),
            request_eq_error_iff.mpr (.inl right)⟩
  | error fault =>
      cases right : p.right.toOperand with
      | ok r =>
          exact .inr ⟨fault, request_eq_error_iff.mpr (.inl left),
            request_eq_error_iff.mpr (.inr ⟨r, right, left⟩)⟩
      | error other =>
          -- Whichever side is written first, the fault is that of their one dimension.
          obtain rfl : fault = other := by
            rw [Batch.fault_of_toOperand left, Batch.fault_of_toOperand right, same]
          exact .inr ⟨fault, request_eq_error_iff.mpr (.inl left),
            request_eq_error_iff.mpr (.inl right)⟩

end Distance

/-- **A distance is read back from its request, and its sides can be exchanged**: the
exchanged arguments are accepted exactly if the arguments are, for the exchanged distance,
and the operands of its request have changed places. -/
theorem distance_request_exchanges (title : String) (kw : Keywords) (p : Distance) :
    ((Distance.blueprint title).build kw = .accepted p ↔
      (Distance.blueprint title).build (Distance.exchangedKeywords kw) = .accepted p.exchanged) ∧
    ((Distance.blueprint title).build kw = .accepted p → p.Exchanges ∧
      ∀ m, p.request = .ok m →
        ∃ read, ReadDistance.ofBytes? m.encode = some read ∧ p.ReadsAs read) := by
  constructor
  · constructor
    · exact Distance.build_exchanged
    · intro built
      have back := Distance.build_exchanged built
      rwa [Distance.exchangedKeywords_exchangedKeywords, Distance.exchanged_exchanged] at back
  · intro built
    obtain ⟨-, -, -, -, agrees⟩ := Distance.build_eq_accepted_iff.mp built
    obtain ⟨left, right⟩ := Distance.uniform_of_build built
    exact ⟨Distance.exchanges_of_agrees agrees,
      fun m written => Distance.reads_of_request agrees left right written⟩

/-- Two vectors of two components beside one. -/
def Distance.twoBesideOne : Distance :=
  ⟨.float [[.int 1, .int (-2)], [.int 3, .int 4]], .float [[.int 5, .int 6]], .innerProduct⟩

def Distance.twoBesideOneKeywords : Keywords :=
  [("metric_type", .text "IP"), ("vectors_right", .list [.tuple [Value.int 5, Value.int 6]]),
    ("vectors_left", .list [.list [Value.int 1, Value.int (-2)], .list [Value.int 3, Value.int 4]])]

theorem Distance.build_twoBesideOne :
    (blueprint "CalcDistanceParam").build twoBesideOneKeywords = .accepted twoBesideOne :=
  Verdict.accepted?_eq_some_iff.mp (by decide +kernel)

theorem Distance.request_twoBesideOne : ∃ m, twoBesideOne.request = .ok m :=
  exists_eq_ok_of_toBool (by decide +kernel)

theorem distance_request_exchanges_twoBesideOne :
    (Distance.blueprint "CalcDistanceParam").build
        (Distance.exchangedKeywords Distance.twoBesideOneKeywords) =
      .accepted ⟨.float [[.int 5, .int 6]], .float [[.int 1, .int (-2)], [.int 3, .int 4]],
        .innerProduct⟩ ∧
    Distance.twoBesideOne.Exchanges ∧
    ∃ m read, Distance.twoBesideOne.request = .ok m ∧
      ReadDistance.ofBytes? m.encode = some read ∧ Distance.twoBesideOne.ReadsAs read := by
  obtain ⟨accepted, accompanied⟩ := distance_request_exchanges "CalcDistanceParam"
    Distance.twoBesideOneKeywords Distance.twoBesideOne
  obtain ⟨exchanges, reads⟩ := accompanied Distance.build_twoBesideOne
  obtain ⟨m, written⟩ := Distance.request_twoBesideOne
  obtain ⟨read, back, same⟩ := reads m written
  exact ⟨accepted.mp Distance.build_twoBesideOne, exchanges, m, read, written, back, same⟩

end VectorClient
