/-
# VectorClient.Proofs.Request.Insertion — an insertion read off the wire

A reader for insertion requests by the rules of the wire alone: it knows the numbers of
the fields and how each kind of field is written, and nothing of columns.  What it reads
is compared with the insertion by `Column.ReadsAs`, row by row.

* `Column.written_of_toMessage`: one column, whatever its type.
* `insertion_request_reads`: every accepted insertion whose request can be written is
  read back, and every column on the wire has as many rows as the request says.
-/
import VectorClient.Proofs.Request.Numbers
import VectorClient.Proofs.Wire.Messages

namespace VectorClient

set_option autoImplicit false

open Number Wire

/-! ## Reading a request -/

/-- The rows of a field as they stand on the wire. -/
inductive ReadRows where
  | bools (rows : List Bool)
  | ints (rows : List Int)
  | longs (rows : List Int)
  | singles (rows : List Single)
  | doubles (rows : List Double)
  | texts (rows : List String)
  | binaryVectors (dimension : Int) (bytes : List UInt8)
  | floatVectors (dimension : Int) (components : List Single)

namespace ReadRows

open Wire.Message

/-- The rows of an array, by the field that it is written under. -/
def ofArray? (field : Nat) (array : Message) : Option ReadRows :=
  match field with
  | 1 => (array.numbersOf? 1).map fun ns => bools (ns.map (· != 0))
  | 2 => (array.numbersOf? 1).map fun ns => ints (ns.map (signed 32))
  | 3 => (array.numbersOf? 1).map fun ns => longs (ns.map (signed 64))
  | 4 => (array.floatsOf? .single 1).map singles
  | 5 => (array.floatsOf? .double 1).map doubles
  | 6 => (array.textsOf? 1).map texts
  | _ => none

/-- The one array of a scalar field. -/
def ofScalars? (m : Message) : Option ReadRows :=
  (m.member? [1, 2, 3, 4, 5, 6]).bind fun field => (m.messageOf? field).bind (ofArray? field)

/-- The vectors of a vector field, end to end. -/
def ofVectors? (m : Message) : Option ReadRows :=
  let dimension := signed 64 (m.numberOf 1)
  match m.member? [2, 3] with
  | some 2 =>
      (m.messageOf? 2).bind fun a => (a.floatsOf? .single 1).map (floatVectors dimension)
  | some 3 => some (binaryVectors dimension (m.bytesOf 3))
  | _ => none

/-- The rows under the field that holds them. -/
def ofMember? (field : Nat) (m : Message) : Option ReadRows :=
  match field with
  | 3 => ofScalars? m
  | 4 => ofVectors? m
  | _ => none

/-- How many rows there are; vectors are counted by cutting them apart. -/
def count : ReadRows → Nat
  | bools rows => rows.length
  | ints rows => rows.length
  | longs rows => rows.length
  | singles rows => rows.length
  | doubles rows => rows.length
  | texts rows => rows.length
  | binaryVectors dimension bytes => (slices (dimension.toNat / 8) bytes).length
  | floatVectors dimension components => (slices dimension.toNat components).length

end ReadRows

/-- A column as it stands on the wire. -/
structure ReadColumn where
  typeNumber : Nat
  name : String
  rows : ReadRows

def ReadColumn.ofMessage? (m : Message) : Option ReadColumn :=
  (m.textOf? 2).bind fun name =>
    (m.member? [3, 4]).bind fun field =>
      (m.messageOf? field).bind fun inner =>
        (ReadRows.ofMember? field inner).map fun rows => ⟨m.numberOf 1, name, rows⟩

/-- An insertion as it stands on the wire. -/
structure ReadInsertion where
  collection : String
  partitionName : String
  columns : List ReadColumn
  rowCount : Nat

def ReadInsertion.ofBytes? (bytes : List UInt8) : Option ReadInsertion :=
  (Message.decode? bytes).bind fun m =>
    (m.textOf? 3).bind fun collection =>
      (m.textOf? 4).bind fun partitionName =>
        ((m.messagesOf? 5).bind fun ms => ms.mapM ReadColumn.ofMessage?).map fun columns =>
          ⟨collection, partitionName, columns, m.numberOf 7 % 2 ^ 32⟩

/-! ## What is read beside what was written -/

/-- The rows of a column come back: truth values, integers and texts as they are, numbers
rounded to the precision of the column, and vectors by cutting at their dimension. -/
def Column.ReadsAs : Column → ReadRows → Prop
  | .bools rows, .bools rows' => rows' = rows
  | .ints width rows, .ints rows' => width ≠ .bits64 ∧ rows' = rows
  | .ints width rows, .longs rows' => width = .bits64 ∧ rows' = rows
  | .numbers .single rows, .singles rows' => List.Forall₂ Number.RoundsToSingle rows rows'
  | .numbers .double rows, .doubles rows' => List.Forall₂ Number.RoundsToDouble rows rows'
  | .texts _ rows, .texts rows' => rows' = rows
  | .vectors (.binary rows), .binaryVectors dimension bytes =>
      dimension = (Batch.binary rows).dimension ∧ slices (dimension.toNat / 8) bytes = rows
  | .vectors (.float rows), .floatVectors dimension components =>
      dimension = (Batch.float rows).dimension ∧
        List.Forall₂ (List.Forall₂ Number.RoundsToSingle) rows (slices dimension.toNat components)
  | _, _ => False

/-- A named column comes back: its name, its type by its number, and its rows. -/
structure NamedColumn.ReadsAs (c : NamedColumn) (read : ReadColumn) : Prop where
  name : read.name = c.name
  dataType : DataType.ofNumber? read.typeNumber = some c.column.dataType
  rows : c.column.ReadsAs read.rows

/-- A column that comes back has its row count. -/
theorem Column.ReadsAs.count_eq {c : Column} {read : ReadRows} (reads : c.ReadsAs read) :
    read.count = c.rowCount := by
  cases c with
  | bools rows | texts kind rows =>
      cases read <;> first | exact reads.elim | exact congrArg List.length reads
  | ints width rows =>
      cases read <;> first | exact reads.elim | exact congrArg List.length reads.2
  | numbers precision rows =>
      cases precision <;> cases read <;> first | exact reads.elim | exact reads.length_eq.symm
  | vectors batch =>
      cases batch with
      | binary rows =>
          cases read <;> first | exact reads.elim | exact congrArg List.length reads.2
      | float rows =>
          cases read with
          | floatVectors dimension components => exact reads.2.length_eq.symm
          | _ => exact reads.elim

/-! ## Columns of vectors -/

namespace Batch

open Wire.Message

/-- Rows that were laid end to end and agree with a list agree with its pieces. -/
theorem forall₂_slices_of_flatten {α β : Type} {R : α → β → Prop} {rows : List (List α)}
    (uniform : UniformRows rows) {xs : List β} (along : List.Forall₂ R rows.flatten xs) :
    List.Forall₂ (List.Forall₂ R) rows (slices (rowLength rows) xs) := by
  have cut := forall₂_slices (rowLength rows) along
  rwa [slices_flatten uniform.positive uniform.uniform] at cut

/-- The vectors of a batch are cut apart at their dimension. -/
theorem toMessage_reads {batch : Batch} (uniform : batch.Uniform) {m : Message}
    (written : batch.toMessage = .ok m) :
    ∃ rows, ReadRows.ofVectors? m = some rows ∧ (Column.vectors batch).ReadsAs rows := by
  obtain ⟨dimension, signed, arrayed⟩ := bind_eq_ok_iff.mp written
  obtain ⟨rfl, complemented⟩ := Request.eq_integer_of_signed signed
  obtain ⟨vectors, array, laid⟩ := map_eq_ok_iff.mp arrayed
  cases batch with
  | binary rows =>
      cases array
      have whole : (Batch.binary rows).dimension / 8 = rowLength rows :=
        Nat.mul_div_cancel_left _ (by decide)
      have set : m.member? [2, 3] = some 3 := laid ▸ member?_append_present _ _ (by decide)
      have number : m.numberOf 1 = complement (Batch.binary rows).dimension :=
        numberOf_eq (by simp [← laid])
      have bytes : m.bytesOf 3 = rows.flatten := bytesOf_eq (.inr (by simp [← laid]))
      refine ⟨.binaryVectors (Batch.binary rows).dimension rows.flatten, ?_, rfl, ?_⟩
      · rw [ReadRows.ofVectors?, set, number, complemented, ← bytes]
        rfl
      · rw [Int.toNat_natCast, whole]
        exact slices_flatten uniform.positive uniform.uniform
  | float rows =>
      obtain ⟨elements, singles, rfl⟩ := map_eq_ok_iff.mp array
      obtain ⟨xs, rounds, rfl⟩ := Request.exists_of_singles singles
      have set : m.member? [2, 3] = some 2 := laid ▸ member?_append_present _ _ (by decide)
      have number : m.numberOf 1 = complement (Batch.float rows).dimension :=
        numberOf_eq (by simp [← laid])
      have inner : m.messageOf? 2 = some (packed 1 (xs.map floatBytes)) :=
        messageOf?_eq (by simp [← laid])
      have components : (packed 1 (xs.map floatBytes)).floatsOf? .single 1 = some xs :=
        floatsOf?_eq BinaryFormat.fillsBytes_single (by simp)
      refine ⟨.floatVectors (Batch.float rows).dimension xs, ?_, rfl, ?_⟩
      · rw [ReadRows.ofVectors?, set, number, complemented]
        simp only [inner, components, Option.bind_some, Option.map_some]
      · rw [Int.toNat_natCast]
        exact forall₂_slices_of_flatten uniform rounds

end Batch

/-! ## Any column -/

namespace Column

open Wire.Message

/-- The member that a column is written under, and what is read there. -/
def Written (c : Column) (m : Message) : Prop :=
  ∃ field inner rows, field ∈ [3, 4] ∧ m = nested field inner ∧
    ReadRows.ofMember? field inner = some rows ∧ c.ReadsAs rows

/-- A scalar column is written as one array. -/
theorem written_of_array {c : Column} {field : Nat} {array : Message} (rows : ReadRows)
    (among : field ∈ [1, 2, 3, 4, 5, 6]) (read : ReadRows.ofArray? field array = some rows)
    (reads : c.ReadsAs rows) : c.Written (toMessage.array field array) := by
  have set : (nested field array).member? [1, 2, 3, 4, 5, 6] = some field :=
    member?_append_present [] _ among
  have inner : (nested field array).messageOf? field = some array := messageOf?_eq (by simp)
  refine ⟨3, nested field array, rows, by simp, rfl, ?_, reads⟩
  simp only [ReadRows.ofMember?, ReadRows.ofScalars?, set, inner, Option.bind_some, read]

theorem numbersOf?_elements (rows : List Int) :
    (packed 1 (rows.map toMessage.element)).numbersOf? 1 = some (rows.map complement) := by
  refine numbersOf?_eq ?_
  rw [payloads_packed, if_pos rfl, List.map_map]
  rfl

/-- An integer of an array of 32 bits fits them. -/
theorem fits_bits32 {width : IntWidth} (narrow : width ≠ .bits64) {n : Int}
    (fits : width.Fits n) : IntWidth.bits32.Fits n := by
  obtain ⟨least, most⟩ := fits
  cases width with
  | bits64 => exact absurd rfl narrow
  | bits8 | bits16 | bits32 =>
      simp only [IntWidth.limit] at least most
      exact ⟨by simp only [IntWidth.limit]; omega, by simp only [IntWidth.limit]; omega⟩

theorem map_signed_complement {bits : Nat} {rows : List Int}
    (reads : ∀ n ∈ rows, signed bits (complement n) = n) :
    (rows.map complement).map (signed bits) = rows := by
  rw [List.map_map]
  exact (List.map_congr_left reads).trans (List.map_id rows)

/-- Every column is read back from its message. -/
theorem written_of_toMessage {c : Column} (wellFormed : c.WellFormed) {m : Message}
    (written : c.toMessage = .ok m) : c.Written m := by
  cases c with
  | bools rows =>
      cases written
      have read : (packed 1 (rows.map fun b => varint b.toNat)).numbersOf? 1 =
          some (rows.map Bool.toNat) := by
        refine numbersOf?_eq ?_
        rw [payloads_packed, if_pos rfl, List.map_map]
        rfl
      refine written_of_array (.bools rows) (by simp) ?_ rfl
      have back : (rows.map Bool.toNat).map (· != 0) = rows := by
        rw [List.map_map]
        refine (List.map_congr_left fun b _ => ?_).trans (List.map_id rows)
        cases b <;> rfl
      simp only [ReadRows.ofArray?, read, Option.map_some, back]
  | ints width rows =>
      have read := numbersOf?_elements rows
      by_cases wide : width = .bits64
      · subst wide
        cases written
        have back := map_signed_complement fun n member =>
          signed_complement_bits64 (wellFormed n member)
        refine written_of_array (.longs rows) (by simp) ?_ ⟨rfl, rfl⟩
        simp only [ReadRows.ofArray?, read, Option.map_some, back]
      · have narrow : (Column.ints width rows).toMessage =
            .ok (toMessage.array 2 (packed 1 (rows.map toMessage.element))) := by
          cases width <;> first | rfl | exact absurd rfl wide
        obtain rfl := Except.ok.inj (narrow.symm.trans written)
        have back := map_signed_complement fun n member =>
          signed_complement_bits32 (fits_bits32 wide (wellFormed n member))
        refine written_of_array (.ints rows) (by simp) ?_ ⟨wide, rfl⟩
        simp only [ReadRows.ofArray?, read, Option.map_some, back]
  | numbers precision rows =>
      cases precision with
      | single =>
          obtain ⟨elements, singles, rfl⟩ := map_eq_ok_iff.mp written
          obtain ⟨xs, rounds, rfl⟩ := Request.exists_of_singles singles
          have read : (packed 1 (xs.map floatBytes)).floatsOf? .single 1 = some xs :=
            floatsOf?_eq BinaryFormat.fillsBytes_single (by simp)
          refine written_of_array (.singles xs) (by simp) ?_ rounds
          simp only [ReadRows.ofArray?, read, Option.map_some]
      | double =>
          obtain ⟨elements, doubles, rfl⟩ := map_eq_ok_iff.mp written
          obtain ⟨xs, rounds, rfl⟩ := Request.exists_of_doubles doubles
          have read : (packed 1 (xs.map floatBytes)).floatsOf? .double 1 = some xs :=
            floatsOf?_eq BinaryFormat.fillsBytes_double (by simp)
          refine written_of_array (.doubles xs) (by simp) ?_ rounds
          simp only [ReadRows.ofArray?, read, Option.map_some]
  | texts kind rows =>
      cases written
      have read : (Message.texts 1 rows).textsOf? 1 = some rows :=
        textsOf?_eq (by simp)
      refine written_of_array (.texts rows) (by simp) ?_ rfl
      simp only [ReadRows.ofArray?, read, Option.map_some]
  | vectors batch =>
      have nests : batch.toMessage.map (nested 4) = .ok m := written
      obtain ⟨inner, message, rfl⟩ := map_eq_ok_iff.mp nests
      obtain ⟨rows, read, reads⟩ := Batch.toMessage_reads wellFormed message
      exact ⟨4, inner, rows, by simp, rfl, read, reads⟩

end Column

/-! ## The request -/

open Wire.Message

/-- A named column is read back from its message. -/
theorem NamedColumn.toMessage_reads {c : NamedColumn} (wellFormed : c.column.WellFormed)
    {m : Message} (written : c.toMessage = .ok m) :
    ∃ read, ReadColumn.ofMessage? m = some read ∧ c.ReadsAs read := by
  obtain ⟨inner, message, tagged⟩ := map_eq_ok_iff.mp written
  obtain ⟨field, array, rows, among, rfl, read, reads⟩ :=
    Column.written_of_toMessage wellFormed message
  have other : field ≠ 1 ∧ field ≠ 2 := by
    constructor <;> rintro rfl <;> simp at among
  have number : m.numberOf 1 = c.column.dataType.number :=
    numberOf_eq (by simp [← tagged, other.1])
  have name : m.textOf? 2 = some c.name := textOf?_eq (by simp [← tagged, other.2])
  have set : m.member? [3, 4] = some field := tagged ▸ member?_append_present _ _ among
  have content : m.messageOf? field = some array :=
    messageOf?_eq (by simp [← tagged, other.1.symm, other.2.symm])
  refine ⟨⟨c.column.dataType.number, c.name, rows⟩, ?_, rfl, by simp, reads⟩
  simp only [ReadColumn.ofMessage?, name, set, content, number, read, Option.bind_some,
    Option.map_some]

/-- Named columns that are written one after the other are read back in order. -/
theorem NamedColumn.mapM_reads {columns : List NamedColumn} {ms : List Message}
    (wellFormed : ∀ c ∈ columns, c.column.WellFormed)
    (written : Request.each toMessage columns = .ok ms) :
    ∃ reads, ms.mapM ReadColumn.ofMessage? = some reads ∧
      List.Forall₂ NamedColumn.ReadsAs columns reads :=
  Request.exists_mapM_of_each
    (fun c member _ message => toMessage_reads (wellFormed c member) message) written

theorem NamedColumn.count_of_reads {columns : List NamedColumn} {reads : List ReadColumn}
    {rowCount : Nat} (same : List.Forall₂ ReadsAs columns reads)
    (counts : ∀ c ∈ columns, c.column.rowCount = rowCount) :
    ∀ read ∈ reads, read.rows.count = rowCount := by
  induction same with
  | nil => simp
  | cons here _ ih =>
      intro read member
      rcases List.mem_cons.mp member with rfl | member
      · exact here.rows.count_eq.trans (counts _ (by simp))
      · exact ih (fun c member => counts c (by simp [member])) read member

/-- **An insertion is read back from its request.**  The names come back as they are, the
columns in order, each with its type and its rows, and every column on the wire has as many
rows as the request says. -/
theorem insertion_request_reads {p : Insertion} (accepted : p.Accepted) {m : Message}
    (written : p.request = .ok m) :
    ∃ read, ReadInsertion.ofBytes? m.encode = some read ∧
      read.collection = p.collection ∧ read.partitionName = p.partitionName ∧
      read.rowCount = p.rowCount ∧ List.Forall₂ NamedColumn.ReadsAs p.columns read.columns ∧
      ∀ column ∈ read.columns, column.rows.count = read.rowCount := by
  obtain ⟨columns, each, counted⟩ := bind_eq_ok_iff.mp written
  obtain ⟨count, unsigned, laid⟩ := map_eq_ok_iff.mp counted
  obtain ⟨rfl, exact, bound⟩ := Request.eq_integer_of_unsigned (by decide) unsigned
  obtain ⟨reads, columnsRead, same⟩ :=
    NamedColumn.mapM_reads (fun c member => (accepted.columns c member).wellFormed) each
  have collection : m.textOf? 3 = some p.collection := textOf?_eq (by simp [← laid])
  have partitionName : m.textOf? 4 = some p.partitionName :=
    textOf?_eq (by simp [← laid])
  have fields : m.messagesOf? 5 = some columns := messagesOf?_eq (by simp [← laid])
  have number : m.numberOf 7 = complement p.rowCount := numberOf_eq (by simp [← laid])
  have rowCount : complement p.rowCount % 2 ^ 32 = p.rowCount := by
    rw [Nat.mod_eq_of_lt bound]
    exact Int.ofNat.inj exact
  refine ⟨⟨p.collection, p.partitionName, reads, p.rowCount⟩, ?_, rfl, rfl, rfl, same, ?_⟩
  · simp only [ReadInsertion.ofBytes?, decode?_encode, collection, partitionName, fields, number,
      columnsRead, rowCount, Option.bind_some, Option.map_some]
  · exact NamedColumn.count_of_reads same accepted.rowCount_eq

/-- Two rows with a negative number and a vector of eight bits each. -/
def Insertion.twoRows : Insertion :=
  ⟨"c", "p", [⟨"id", .ints .bits64 [-1, 7]⟩, ⟨"v", .vectors (.binary [[1], [2]])⟩]⟩

theorem Insertion.accepted_twoRows : twoRows.Accepted where
  built :=
    ⟨"InsertParam", [("collection_name", .text "c"), ("partition_name", .text "p"),
      ("fields", .list (twoRows.columns.map .column))],
      Verdict.accepted?_eq_some_iff.mp (by decide)⟩
  columns := by
    intro c member
    simp only [twoRows, List.mem_cons, List.not_mem_nil, or_false] at member
    rcases member with rfl | rfl
    · exact ⟨[("name", .text "id"), ("data_type", .text "INT64"),
        ("values", .list [Value.int (-1), Value.int 7])], rfl⟩
    · exact ⟨[("name", .text "v"), ("data_type", .text "BINARY_VECTOR"),
        ("values", .list [.bytes [1], .bytes [2]])], rfl⟩

theorem Insertion.request_twoRows : ∃ m, twoRows.request = .ok m :=
  exists_eq_ok_of_toBool (by decide)

theorem insertion_request_reads_twoRows :
    ∃ m read, Insertion.twoRows.request = .ok m ∧ ReadInsertion.ofBytes? m.encode = some read ∧
      read.collection = "c" ∧ read.rowCount = 2 ∧
      List.Forall₂ NamedColumn.ReadsAs Insertion.twoRows.columns read.columns := by
  obtain ⟨m, written⟩ := Insertion.request_twoRows
  obtain ⟨read, back, collection, -, rowCount, same, -⟩ :=
    insertion_request_reads Insertion.accepted_twoRows written
  exact ⟨m, read, written, back, collection, rowCount, same⟩

end VectorClient
