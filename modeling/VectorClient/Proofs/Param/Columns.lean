/-
# VectorClient.Proofs.Param.Columns — which columns can be inserted

A column is accepted if its rows fit its type, which is said here of the values
themselves: of each by itself for a scalar type (`DataType.Takes`), of all together
for vectors (`DataType.Fits`).  An insertion is accepted if its columns go together.

The report of a bad row names it and shows it; but a row with an integer that has no text
cannot be shown, and then the report does not name it either.

* `Column.settles_scalars`, `Column.exists_ofValues_iff`: the rows that make a column of a type.
* `NamedColumn.build_of_not_fits`: scalar rows that make none are refused for the first bad one.
* `NamedColumn.Tells`: what a report says of it.
* `Insertion.build_of_columns_iff`: the columns that go together.
* `columns_accepted_exactly`: what becomes of the keywords of a column and of an insertion.
* `row_refused_unnamed`: a row that its report does not name.
-/
import VectorClient.Proofs.Form.Storing
import VectorClient.Proofs.Param.Batches
import VectorClient.Proofs.Param.Rows
import VectorClient.Proofs.Value.Printed

namespace VectorClient

set_option autoImplicit false

/-! ## Rows that fit a type -/

/-- The values that are rows of a scalar type. -/
def DataType.Takes : DataType → Value → Prop
  | .bool, v => ∃ b, v = .bool b
  | .int8, v => ∃ n, v = Value.int n ∧ -2 ^ 7 ≤ n ∧ n < 2 ^ 7
  | .int16, v => ∃ n, v = Value.int n ∧ -2 ^ 15 ≤ n ∧ n < 2 ^ 15
  | .int32, v => ∃ n, v = Value.int n ∧ -2 ^ 31 ≤ n ∧ n < 2 ^ 31
  | .int64, v => ∃ n, v = Value.int n ∧ -2 ^ 63 ≤ n ∧ n < 2 ^ 63
  | .float, v | .double, v => v.IsNumber
  | .string, v | .varchar, v => ∃ s, v.asText? = some s
  | .unset, _ | .binaryVector, _ | .floatVector, _ => False

/-- The rows fit a type: vectors of its kind with one length, or else rows one by one. -/
def DataType.Fits (t : DataType) (rows : List Value) : Prop :=
  match t.vectorKind? with
  | some kind => ∃ length, ∀ row ∈ rows, row.IsVector kind length
  | none => ∀ row ∈ rows, t.Takes row

namespace Value

/-- Rows are lists and tuples. -/
theorem asRow?_eq_some_iff {v : Value} {items : List Value} :
    v.asRow? = some items ↔ v = .list items ∨ v = .tuple items := by
  cases v <;> simp [asRow?]

variable (v : Value)

theorem asBytes?_freezeRow : v.freezeRow.asBytes? = v.asBytes? := by cases v <;> rfl

theorem asRow?_freezeRow : v.freezeRow.asRow? = v.asRow? := by cases v <;> rfl

theorem isVector_freezeRow {kind : VectorKind} {length : Nat} :
    v.freezeRow.IsVector kind length ↔ v.IsVector kind length := by
  constructor
  · intro vector
    cases vector with
    | binary bytes filled => exact .binary (v.asBytes?_freezeRow ▸ bytes) filled
    | float row filled numbers => exact .float (v.asRow?_freezeRow ▸ row) filled numbers
  · intro vector
    cases vector with
    | binary bytes filled => exact .binary (v.asBytes?_freezeRow.trans bytes) filled
    | float row filled numbers => exact .float (v.asRow?_freezeRow.trans row) filled numbers

end Value

namespace Column

/-! ## Scalar columns -/

/-- What becomes of the rows of a scalar type: a column if all are of the type, or else a refusal
for the first that is not, with its index. -/
inductive Settles (name : String) (t : DataType) : List Value → Except Inconsistency Column → Prop
  | column {rows : List Value} {column : Column} (good : ∀ row ∈ rows, t.Takes row) :
      Settles name t rows (.ok column)
  | firstBad {before after : List Value} {bad : Value} (good : ∀ row ∈ before, t.Takes row)
      (wrong : ¬ t.Takes bad) :
      Settles name t (before ++ bad :: after) (.error (.columnRow name before.length bad t))

section Picks

variable {α : Type} {pick : Value → Option α} {t : DataType}

/-- A pick takes the rows of a type. -/
def PicksFor (t : DataType) (pick : Value → Option α) : Prop :=
  ∀ v, (∃ a, pick v = some a) ↔ t.Takes v

/-- A column is made of the rows if all are taken. -/
theorem PicksFor.settles (picks : PicksFor t pick) (name : String) (rows : List Value)
    (make : List α → Column) :
    Settles name t rows (match pickRows pick 0 rows with
      | .ok picked => .ok (make picked)
      | .error (row, value) => .error (.columnRow name row value t)) := by
  -- Rows that were taken already stand before those that are looked at.
  suffices along : ∀ (rest before : List Value) (make : List α → Column),
      (∀ row ∈ before, t.Takes row) →
        Settles name t (before ++ rest) (match pickRows pick before.length rest with
          | .ok picked => .ok (make picked)
          | .error (row, value) => .error (.columnRow name row value t)) from
    along rows [] make nofun
  intro rest
  induction rest with
  | nil =>
      intro before make good
      rw [List.append_nil]
      exact .column good
  | cons row rest ih =>
      intro before make good
      rw [pickRows]
      cases picked : pick row with
      | none =>
          refine .firstBad good ?_
          rw [← picks row, picked]
          rintro ⟨_, taken⟩
          cases taken
      | some a =>
          have here : t.Takes row := (picks row).mp ⟨a, picked⟩
          have good : ∀ r ∈ before ++ [row], t.Takes r := by
            simpa only [List.forall_mem_append, List.forall_mem_singleton] using ⟨good, here⟩
          have settled := ih (before ++ [row]) (fun as => make (a :: as)) good
          rw [List.append_assoc, List.length_append] at settled
          cases later : pickRows pick (before.length + 1) rest with
          | ok as => simpa [later, Except.map] using settled
          | error stop => simpa [later, Except.map] using settled

theorem picksFor_bool : PicksFor .bool pickBool := by
  intro v
  cases v <;> simp [pickBool, DataType.Takes]

theorem picksFor_int (width : IntWidth) : PicksFor width.dataType (pickInt width) := by
  intro v
  simp only [pickInt_eq_some_iff]
  cases width <;> exact Iff.rfl

theorem picksFor_number (precision : Precision) : PicksFor precision.dataType pickNumber := by
  intro v
  cases precision <;> cases v <;>
    simp [pickNumber, DataType.Takes, Precision.dataType, Value.IsNumber]

theorem picksFor_text (kind : TextKind) : PicksFor kind.dataType Value.asText? := by
  intro v
  cases kind <;> exact Iff.rfl

end Picks

theorem settles_scalars (name : String) {t : DataType} (scalar : t.vectorKind? = none)
    (typed : t ≠ .unset) (rows : List Value) : Settles name t rows (scalars name t rows) := by
  cases t with
  | bool => exact picksFor_bool.settles name rows .bools
  | int8 => exact (picksFor_int .bits8).settles name rows (.ints .bits8)
  | int16 => exact (picksFor_int .bits16).settles name rows (.ints .bits16)
  | int32 => exact (picksFor_int .bits32).settles name rows (.ints .bits32)
  | int64 => exact (picksFor_int .bits64).settles name rows (.ints .bits64)
  | float => exact (picksFor_number .single).settles name rows (.numbers .single)
  | double => exact (picksFor_number .double).settles name rows (.numbers .double)
  | string => exact (picksFor_text .string).settles name rows (.texts .string)
  | varchar => exact (picksFor_text .varchar).settles name rows (.texts .varchar)
  | unset => exact absurd rfl typed
  | binaryVector | floatVector => cases scalar

/-! ## Columns of any type -/

/-- Rows make a column of vectors exactly if they are vectors of the kind, with one length. -/
theorem exists_ofBatch_iff {name : String} {kind : VectorKind} {rows : List Value} :
    (∃ column, ofBatch name kind rows = .ok column) ↔
      rows ≠ [] ∧ ∃ length, ∀ row ∈ rows, row.IsVector kind length := by
  have checked : (∃ column, ofBatch name kind rows = .ok column) ↔
      ∃ dimension, Batch.check rows = .ok (kind, dimension) := by
    rw [Batch.check_eq, ofBatch]
    cases Batch.ofValues rows with
    | error fault => simp [Except.map]
    | ok batch =>
        by_cases same : batch.kind = kind
        · simp [same, Except.map]
        · simp [same, Except.map]
  simp only [checked, Batch.check_eq_ok_iff]
  constructor
  · rintro ⟨_, filled, length, rfl, vectors⟩
    exact ⟨filled, length, vectors⟩
  · rintro ⟨filled, length, vectors⟩
    exact ⟨_, filled, length, rfl, vectors⟩

/-- Rows make a column of a type exactly if they fit it. -/
theorem exists_ofValues_iff (name : String) {t : DataType} {rows : List Value}
    (filled : rows ≠ []) :
    (∃ column, ofValues name t rows = .ok column) ↔ t ≠ .unset ∧ t.Fits rows := by
  by_cases typed : t = .unset
  · subst typed
    exact iff_of_false nofun fun fits => fits.1 rfl
  rw [and_iff_right typed]
  unfold ofValues DataType.Fits
  cases vectors : t.vectorKind? with
  | some kind => exact exists_ofBatch_iff.trans (and_iff_right filled)
  | none =>
      have settled := settles_scalars name vectors typed rows
      dsimp only
      generalize scalars name t rows = outcome at settled ⊢
      cases settled with
      | @column _ column good => exact iff_of_true ⟨column, rfl⟩ good
      | firstBad good wrong =>
          refine iff_of_false nofun fun all => wrong (all _ ?_)
          exact List.mem_append_right _ List.mem_cons_self

theorem length_toValues (column : Column) : column.toValues.length = column.rowCount := by
  cases column with
  | vectors batch => cases batch <;> exact List.length_map _
  | _ => exact List.length_map _

/-- A column has as many rows as it was read from. -/
theorem rowCount_of_ofValues {name : String} {t : DataType} {rows : List Value} {column : Column}
    (read : ofValues name t rows = .ok column) : column.rowCount = rows.length := by
  obtain ⟨-, holds⟩ := ofValues_eq_ok_iff.mp read
  rw [← length_toValues, holds.alike_toValues.length_eq]

end Column

/-! ## Rows as they are stored -/

namespace DataType

variable {t : DataType}

theorem takes_freezeRow {v : Value} : t.Takes v.freezeRow ↔ t.Takes v := by
  cases v with
  | list | tuple | byteArray =>
      cases t <;> simp [Takes, Value.freezeRow, Value.IsNumber, Value.asText?, Value.int]
  | _ => exact Iff.rfl

theorem fits_map_freezeRow {rows : List Value} :
    t.Fits (rows.map Value.freezeRow) ↔ t.Fits rows := by
  unfold Fits
  cases t.vectorKind? with
  | some kind => simp [Value.isVector_freezeRow]
  | none => simp [takes_freezeRow]

end DataType

/-! ## Named columns -/

theorem Fields.readField_some_iff {α : Type} {name : String} {codec : Codec α}
    {default? : Option α} {v : Value} {a : α} :
    readField name codec default? (some v) = .accepted a ↔ codec.read v = .accepted a :=
  Verdict.under_eq_accepted_iff

/-- A text is read as a name exactly if it is not blank. -/
theorem Codec.name_eq_accepted_iff {s a : String} :
    name.read (.text s) = .accepted a ↔ Text.isBlank s = false ∧ s = a := by
  rw [name, checked_eq_accepted_iff]
  show Verdict.accepted s = .accepted a ∧ _ ↔ _
  rw [Verdict.accepted.injEq, and_comm]
  refine and_congr_left fun same => ?_
  rw [← same]
  cases Text.isBlank s <;> simp

namespace NamedColumn

/-- The keywords that make a column. -/
def keywords (name : String) (t : DataType) (values : Value) : Keywords :=
  [("name", .text name), ("data_type", .member (.dataType t)), ("values", values)]

variable {name : String} {t : DataType} {values : Value}

theorem namesReceiver_keywords : blueprint.namesReceiver (keywords name t values) = false := by
  rfl

theorem unknown_keywords : blueprint.unknown (keywords name t values) = [] := by
  rfl

theorem read_keywords_iff {raw : String × DataType × List Value × Unit} :
    blueprint.fields.read (keywords name t values) = .accepted raw ↔
      Text.isBlank name = false ∧ ∃ rows, values.asRow? = some rows ∧ rows ≠ [] ∧
        (name, t, rows.map Value.freezeRow, ()) = raw := by
  obtain ⟨name', t', kept, ⟨⟩⟩ := raw
  have typed : Codec.dataType.read (.member (.dataType t)) = .accepted t' ↔ t = t' := by
    have restores : Codec.dataType.read (.member (.dataType t)) = .accepted t :=
      Codec.restores_choice (fun _ => rfl) t
    rw [restores, Verdict.accepted.injEq]
  have found : (keywords name t values).find? "name" = some (.text name) ∧
      (keywords name t values).find? "data_type" = some (.member (.dataType t)) ∧
      (keywords name t values).find? "values" = some values := ⟨rfl, rfl, rfl⟩
  simp only [blueprint, Fields.name, Fields.read_cons_eq_accepted_iff, found,
    Fields.readField_some_iff, Codec.name_eq_accepted_iff, typed, Codec.rows_eq_accepted_iff]
  constructor
  · rintro ⟨⟨named, rfl⟩, rfl, ⟨rows, row, rfl, some⟩, -⟩
    refine ⟨named, rows, row, ?_, rfl⟩
    rintro rfl
    cases some
  · rintro ⟨named, rows, row, filled, same⟩
    cases same
    refine ⟨⟨named, rfl⟩, rfl, ⟨rows, row, rfl, ?_⟩, rfl⟩
    rw [List.length_map]
    exact List.length_pos_iff.mpr filled

/-- A column is accepted exactly if it has a name and a type, and rows that fit the type. -/
theorem exists_build_iff :
    (∃ c, blueprint.build (keywords name t values) = .accepted c) ↔
      Text.isBlank name = false ∧ t ≠ .unset ∧
        ∃ rows, values.asRow? = some rows ∧ rows ≠ [] ∧ t.Fits rows := by
  have built : (∃ c, blueprint.build (keywords name t values) = .accepted c) ↔
      Text.isBlank name = false ∧ ∃ rows, values.asRow? = some rows ∧ rows ≠ [] ∧
        ∃ column, Column.ofValues name t (rows.map Value.freezeRow) = .ok column := by
    simp only [Blueprint.build_eq_accepted_iff, namesReceiver_keywords, unknown_keywords,
      true_and]
    constructor
    · rintro ⟨c, raw, read, packed⟩
      obtain ⟨named, rows, row, filled, rfl⟩ := read_keywords_iff.mp read
      obtain ⟨column, made, -⟩ := map_eq_ok_iff.mp packed
      exact ⟨named, rows, row, filled, column, made⟩
    · rintro ⟨named, rows, row, filled, column, made⟩
      refine ⟨⟨name, column⟩, _, read_keywords_iff.mpr ⟨named, rows, row, filled, rfl⟩, ?_⟩
      exact map_eq_ok_iff.mpr ⟨column, made, rfl⟩
  have fits : ∀ rows : List Value, rows ≠ [] →
      ((∃ column, Column.ofValues name t (rows.map Value.freezeRow) = .ok column) ↔
        t ≠ .unset ∧ t.Fits rows) := by
    intro rows filled
    rw [Column.exists_ofValues_iff name (by simpa using filled), DataType.fits_map_freezeRow]
  rw [built]
  refine and_congr_right fun named => ?_
  constructor
  · rintro ⟨rows, row, filled, made⟩
    obtain ⟨typed, fits⟩ := (fits rows filled).mp made
    exact ⟨typed, rows, row, filled, fits⟩
  · rintro ⟨typed, rows, row, filled, fit⟩
    exact ⟨rows, row, filled, (fits rows filled).mpr ⟨typed, fit⟩⟩

/-- An accepted column is what was asked for. -/
theorem eq_of_build {c : NamedColumn}
    (built : blueprint.build (keywords name t values) = .accepted c) {rows : List Value}
    (row : values.asRow? = some rows) :
    c.name = name ∧ c.column.dataType = t ∧ c.column.rowCount = rows.length := by
  obtain ⟨-, -, raw, read, packed⟩ := Blueprint.build_eq_accepted_iff.mp built
  obtain ⟨-, rows', row', -, rfl⟩ := read_keywords_iff.mp read
  obtain rfl := Option.some.inj (row'.symm.trans row)
  obtain ⟨column, made, rfl⟩ := map_eq_ok_iff.mp packed
  refine ⟨rfl, (Column.ofValues_eq_ok_iff.mp made).1, ?_⟩
  rw [Column.rowCount_of_ofValues made, List.length_map]

/-- A scalar column whose rows do not all fit is refused for the first that does not. -/
theorem build_of_not_fits (named : Text.isBlank name = false) (typed : t ≠ .unset)
    (scalar : t.vectorKind? = none) {rows : List Value} (row : values.asRow? = some rows)
    (filled : rows ≠ []) (misfit : ¬ t.Fits rows) :
    ∃ before bad after, rows = before ++ bad :: after ∧ (∀ row ∈ before, t.Takes row) ∧
      ¬ t.Takes bad ∧ blueprint.build (keywords name t values) =
        .rejected [([], .inconsistent (.columnRow name before.length bad.freezeRow t))] := by
  have read : blueprint.fields.read (keywords name t values) = .accepted _ :=
    read_keywords_iff.mpr ⟨named, rows, row, filled, rfl⟩
  have settled : Column.Settles name t (rows.map Value.freezeRow)
      (Column.ofValues name t (rows.map Value.freezeRow)) := by
    rw [Column.ofValues, scalar]
    exact Column.settles_scalars name scalar typed _
  rw [← DataType.fits_map_freezeRow, DataType.Fits, scalar] at misfit
  -- The rows are checked as they are stored, and the first bad one is the same as it was written.
  generalize stored : rows.map Value.freezeRow = kept at read settled misfit
  generalize made : Column.ofValues name t kept = outcome at settled
  cases settled with
  | column good => exact absurd good misfit
  | @firstBad before after bad good wrong =>
      obtain ⟨front, rest, rfl, rfl, others⟩ := List.map_eq_append_iff.mp stored
      obtain ⟨first, behind, rfl, rfl, rfl⟩ := List.map_eq_cons_iff.mp others
      refine ⟨front, first, behind, rfl, ?_, mt DataType.takes_freezeRow.mpr wrong, ?_⟩
      · intro row member
        exact DataType.takes_freezeRow.mp (good _ (List.mem_map_of_mem member))
      · rw [Blueprint.build_of_read namesReceiver_keywords unknown_keywords read]
        simp only [blueprint, made, Except.map, Verdict.refuse, List.length_map]

/-- What the report of a column says of the row that it is refused for: which one it is and how
it reads, if no integer in it has too many digits, and else only that one has. -/
inductive Tells (name : String) (t : DataType) (row : Nat) (bad : Value) : String → Prop
  | named {shown : String} (few : ∀ n ∈ bad.integers, (Nat.digits 10 n.natAbs).length ≤ 4300)
      (printed : bad.freezeRow.printed? = some shown) :
      Tells name t row bad ("Invalid InsertField: field '" ++ name ++ "' row " ++ toString row ++
        ": " ++ shown ++ " is not a valid " ++ Vocabulary.word t ++ " value")
  | unnamed {n : Int} (held : n ∈ bad.integers) (many : 4300 < (Nat.digits 10 n.natAbs).length) :
      Tells name t row bad ("Invalid InsertField: Exceeds the limit (4300 digits) for integer " ++
        "string conversion; use sys.set_int_max_str_digits() to increase the limit")

/-- What the cross-field check finds is reported after the title, and is located nowhere. -/
theorem text_report_inconsistent (cause : Inconsistency) :
    (blueprint.report [([], .inconsistent cause)]).text =
      "Invalid InsertField: " ++ cause.message := by
  have message : (Fault.inconsistent cause).message = cause.message := rfl
  simp [Blueprint.report, Report.text, Fault.messages, entryText, Location.text, reportText,
    blueprint, Value.columnTitle, message]

/-- A row with an integer that has too many digits is not named. -/
theorem Tells.eq_of_many {name text : String} {t : DataType} {row : Nat} {bad : Value} {n : Int}
    (tells : Tells name t row bad text) (held : n ∈ bad.integers)
    (many : 4300 < (Nat.digits 10 n.natAbs).length) :
    text = "Invalid InsertField: Exceeds the limit (4300 digits) for integer " ++
      "string conversion; use sys.set_int_max_str_digits() to increase the limit" := by
  cases tells with
  | named few => exact absurd (few n held) (not_le.mpr many)
  | unnamed => rfl

theorem tells_report (name : String) (t : DataType) (row : Nat) (bad : Value) :
    Tells name t row bad
      (blueprint.report [([], .inconsistent (.columnRow name row bad.freezeRow t))]).text := by
  have text_iff := @Value.isSome_printed?_iff bad.freezeRow
  have message : (Inconsistency.columnRow name row bad.freezeRow t).message =
      bad.freezeRow.inMessage _ := rfl
  rw [Value.integers_freezeRow] at text_iff
  rw [text_report_inconsistent, message, Value.inMessage]
  cases printed : bad.freezeRow.printed? with
  | some shown =>
      rw [printed, Option.isSome_some, eq_self, true_iff] at text_iff
      have tells : Tells name t row bad ("Invalid InsertField: " ++ "field '" ++ name ++ "' row " ++
          toString row ++ ": " ++ shown ++ " is not a valid " ++ Vocabulary.word t ++ " value") :=
        .named (fun n held => Number.printable_iff.mp (text_iff n held)) printed
      simpa only [Option.map_some, Option.getD_some, String.append_assoc] using tells
  | none =>
      rw [printed, Option.isSome_none, Bool.false_eq_true, false_iff, not_forall] at text_iff
      obtain ⟨n, endless⟩ := text_iff
      obtain ⟨held, many⟩ := Classical.not_imp.mp endless
      exact .unnamed held (not_le.mp (mt Number.printable_iff.mpr many))

end NamedColumn

/-! ## Insertions -/

namespace Insertion

/-- Columns go together if they have one row count and names of their own. -/
theorem inconsistency?_eq_none_iff {p : Insertion} :
    p.inconsistency? = none ↔ (∀ c ∈ p.columns, c.column.rowCount = p.rowCount) ∧
      (p.columns.map NamedColumn.name).Nodup := by
  have counts : (p.columns.map fun c => c.column.rowCount).any (· != p.rowCount) = false ↔
      ∀ c ∈ p.columns, c.column.rowCount = p.rowCount := by
    simp
  dsimp only [inconsistency?]
  split
  · rename_i differ
    refine iff_of_false nofun fun ⟨same, _⟩ => ?_
    rw [counts.mpr same] at differ
    cases differ
  · rename_i same
    rw [and_iff_right (counts.mp (Bool.eq_false_iff.mpr same))]
    split
    · rename_i distinct
      exact iff_of_true rfl distinct
    · rename_i repeated
      exact iff_of_false nofun repeated

/-- The row count of an insertion is that of all columns if any two have one row count. -/
theorem forall_rowCount_iff {p : Insertion} :
    (∀ c ∈ p.columns, c.column.rowCount = p.rowCount) ↔
      ∀ c ∈ p.columns, ∀ c' ∈ p.columns, c.column.rowCount = c'.column.rowCount := by
  constructor
  · intro counts c member c' member'
    rw [counts c member, counts c' member']
  · intro same c member
    unfold rowCount
    cases columns : p.columns with
    | nil =>
        rw [columns] at member
        cases member
    | cons first rest =>
        apply same c member first
        rw [columns]
        exact List.mem_cons_self

/-- The keywords that make an insertion; the partition may be left out. -/
def keywords (collection : String) (partition? : Option String) (fields : Value) : Keywords :=
  match partition? with
  | none => [("collection_name", .text collection), ("fields", fields)]
  | some name =>
      [("collection_name", .text collection), ("partition_name", .text name), ("fields", fields)]

variable {title collection : String} {partition? : Option String} {fields : Value}
  {items : List Value} {columns : List NamedColumn}

theorem namesReceiver_keywords :
    (blueprint title).namesReceiver (keywords collection partition? fields) = false := by
  cases partition? <;> rfl

theorem unknown_keywords :
    (blueprint title).unknown (keywords collection partition? fields) = [] := by
  cases partition? <;> rfl

theorem read_keywords_iff {raw : String × String × List NamedColumn × Unit} :
    (blueprint title).fields.read (keywords collection partition? fields) = .accepted raw ↔
      Text.isBlank collection = false ∧
        (∀ name, partition? = some name → Text.isBlank name = false) ∧
        ∃ items columns, fields.asRow? = some items ∧
          List.Forall₂ (fun item c => NamedColumn.codec.read item = .accepted c) items columns ∧
          columns ≠ [] ∧ (collection, partition?.getD Defaults.partition, columns, ()) = raw := by
  obtain ⟨collection', partitionName, columns, ⟨⟩⟩ := raw
  have found : (keywords collection partition? fields).find? "collection_name" =
        some (.text collection) ∧
      (keywords collection partition? fields).find? "partition_name" = partition?.map .text ∧
      (keywords collection partition? fields).find? "fields" = some fields := by
    cases partition? <;> exact ⟨rfl, rfl, rfl⟩
  have partition_iff : Fields.readField "partition_name" .name (some Defaults.partition)
        (partition?.map .text) = .accepted partitionName ↔
      (∀ name, partition? = some name → Text.isBlank name = false) ∧
        partition?.getD Defaults.partition = partitionName := by
    cases partition? with
    | none =>
        show Verdict.accepted Defaults.partition = .accepted partitionName ↔ _
        simp
    | some name =>
        rw [Option.map_some, Fields.readField_some_iff, Codec.name_eq_accepted_iff]
        simp
  simp only [blueprint, Fields.name, Fields.read_cons_eq_accepted_iff, found,
    Fields.readField_some_iff, Codec.name_eq_accepted_iff, partition_iff,
    Codec.many_eq_accepted_iff]
  constructor
  · rintro ⟨⟨named, rfl⟩, ⟨apart, rfl⟩, ⟨items, row, read, some⟩, -⟩
    exact ⟨named, apart, items, columns, row, read, List.length_pos_iff.mp some, rfl⟩
  · rintro ⟨named, apart, items, columns, row, read, some, same⟩
    cases same
    exact ⟨⟨named, rfl⟩, ⟨apart, rfl⟩, ⟨items, row, read, List.length_pos_iff.mpr some⟩, rfl⟩

/-- The insertion of columns; the partition may be left out. -/
def ofColumns (collection : String) (partition? : Option String) (columns : List NamedColumn) :
    Insertion :=
  ⟨collection, partition?.getD Defaults.partition, columns⟩

/-- An insertion is accepted exactly if no name is blank and its columns are read and go
together, and then it is what was asked for. -/
theorem build_keywords_iff {p : Insertion} :
    (blueprint title).build (keywords collection partition? fields) = .accepted p ↔
      Text.isBlank collection = false ∧
        (∀ name, partition? = some name → Text.isBlank name = false) ∧
        ∃ items columns, fields.asRow? = some items ∧
          List.Forall₂ (fun item c => NamedColumn.codec.read item = .accepted c) items columns ∧
          columns ≠ [] ∧ (ofColumns collection partition? columns).inconsistency? = none ∧
          ofColumns collection partition? columns = p := by
  have packed_iff : ∀ columns, (blueprint title).pack
      (collection, partition?.getD Defaults.partition, columns, ()) = .ok p ↔
        (ofColumns collection partition? columns).inconsistency? = none ∧
          ofColumns collection partition? columns = p := by
    intro columns
    simp only [blueprint, ofColumns]
    split
    · rename_i cause inconsistent
      simp [inconsistent]
    · rename_i consistent
      simp [consistent]
  rw [Blueprint.build_eq_accepted_iff, namesReceiver_keywords, unknown_keywords]
  constructor
  · rintro ⟨-, -, raw, read, packed⟩
    obtain ⟨named, apart, items, columns, row, each, some, rfl⟩ := read_keywords_iff.mp read
    exact ⟨named, apart, items, columns, row, each, some, (packed_iff columns).mp packed⟩
  · rintro ⟨named, apart, items, columns, row, each, some, packed⟩
    refine ⟨rfl, rfl, _, ?_, (packed_iff columns).mpr packed⟩
    exact read_keywords_iff.mpr ⟨named, apart, items, columns, row, each, some, rfl⟩

section Given

variable (named : Text.isBlank collection = false)
  (apart : ∀ name, partition? = some name → Text.isBlank name = false)
  (row : fields.asRow? = some items)
  (read : List.Forall₂ (fun item c => NamedColumn.codec.read item = .accepted c) items columns)

include named apart row read

/-- Columns that are read make an insertion exactly if there are some, with one row count and
names of their own. -/
theorem build_of_columns_iff {p : Insertion} :
    (blueprint title).build (keywords collection partition? fields) = .accepted p ↔
      (columns ≠ [] ∧
        (∀ c ∈ columns, ∀ c' ∈ columns, c.column.rowCount = c'.column.rowCount) ∧
        (columns.map NamedColumn.name).Nodup) ∧ ofColumns collection partition? columns = p := by
  have together : (ofColumns collection partition? columns).inconsistency? = none ↔
      (∀ c ∈ columns, ∀ c' ∈ columns, c.column.rowCount = c'.column.rowCount) ∧
        (columns.map NamedColumn.name).Nodup := by
    rw [inconsistency?_eq_none_iff, forall_rowCount_iff]
    rfl
  rw [build_keywords_iff, and_iff_right named, and_iff_right apart, ← together, and_assoc]
  constructor
  · rintro ⟨items', columns', row', read', packed⟩
    obtain rfl := Option.some.inj (row.symm.trans row')
    obtain rfl := List.right_unique_forall₂' NamedColumn.codec.rightUnique_read read read'
    exact packed
  · intro packed
    exact ⟨items, columns, row, read, packed⟩

theorem rowCount_of_build {p : Insertion}
    (built : (blueprint title).build (keywords collection partition? fields) = .accepted p) :
    p.columns = columns ∧ ∀ c ∈ columns, c.column.rowCount = p.rowCount := by
  obtain ⟨⟨-, counts, -⟩, rfl⟩ := (build_of_columns_iff named apart row read).mp built
  have all : ∀ c ∈ (ofColumns collection partition? columns).columns, _ :=
    forall_rowCount_iff.mpr counts
  exact ⟨rfl, all⟩

end Given

end Insertion

/-- **Columns are accepted exactly if they are consistent.**  A column is accepted exactly if its
name is not blank, it has a type, and its values are a list or a tuple of rows, not empty, that fit
the type; and then it is what was asked for.  A scalar column that is refused for its rows is
refused for the first that does not fit, and the report says which one that is, exactly if no
integer in the row has too many digits.  Accepted columns are accepted together, under names that
are not blank, exactly if there are some, any two of them have one row count and no two have one
name; and that row count is then the one of all. -/
theorem columns_accepted_exactly (name : String) (t : DataType) (values : Value) :
    ((∃ c, NamedColumn.blueprint.build (NamedColumn.keywords name t values) = .accepted c) ↔
      (∃ ch ∈ name.toList, Text.isBlankChar ch = false) ∧ t ≠ .unset ∧
        ∃ rows, (values = .list rows ∨ values = .tuple rows) ∧ rows ≠ [] ∧ t.Fits rows) ∧
    (∀ c rows, NamedColumn.blueprint.build (NamedColumn.keywords name t values) = .accepted c →
      (values = .list rows ∨ values = .tuple rows) →
      c.name = name ∧ c.column.dataType = t ∧ c.column.rowCount = rows.length) ∧
    (∀ rows, (∃ ch ∈ name.toList, Text.isBlankChar ch = false) → t ≠ .unset →
      t.vectorKind? = none → (values = .list rows ∨ values = .tuple rows) → rows ≠ [] →
      ¬ t.Fits rows →
      ∃ before bad after entries, rows = before ++ bad :: after ∧ (∀ row ∈ before, t.Takes row) ∧
        ¬ t.Takes bad ∧
        NamedColumn.blueprint.build (NamedColumn.keywords name t values) = .rejected entries ∧
        NamedColumn.Tells name t before.length bad
          (NamedColumn.blueprint.report entries).text) ∧
    ∀ title collection partition? fields items columns,
      (∃ ch ∈ collection.toList, Text.isBlankChar ch = false) →
      (∀ name : String, partition? = some name →
        ∃ ch ∈ name.toList, Text.isBlankChar ch = false) →
      (fields = .list items ∨ fields = .tuple items) →
      List.Forall₂ (fun item c => NamedColumn.codec.read item = .accepted c) items columns →
      ((∃ p, (Insertion.blueprint title).build (Insertion.keywords collection partition? fields) =
          .accepted p) ↔
        columns ≠ [] ∧
          (∀ c ∈ columns, ∀ c' ∈ columns, c.column.rowCount = c'.column.rowCount) ∧
          (columns.map NamedColumn.name).Nodup) ∧
      ∀ p, (Insertion.blueprint title).build (Insertion.keywords collection partition? fields) =
          .accepted p →
        p.columns = columns ∧ ∀ c ∈ columns, c.column.rowCount = p.rowCount := by
  simp only [← Text.isBlank_eq_false_iff, ← Value.asRow?_eq_some_iff]
  refine ⟨NamedColumn.exists_build_iff, ?_, ?_, ?_⟩
  · intro c rows built row
    exact NamedColumn.eq_of_build built row
  · intro rows named typed scalar row filled misfit
    obtain ⟨before, bad, after, parts, good, wrong, refused⟩ :=
      NamedColumn.build_of_not_fits named typed scalar row filled misfit
    exact ⟨before, bad, after, _, parts, good, wrong, refused,
      NamedColumn.tells_report name t before.length bad⟩
  · intro title collection partition? fields items columns named apart row read
    refine ⟨?_, fun p => Insertion.rowCount_of_build named apart row read⟩
    simp only [Insertion.build_of_columns_iff named apart row read, exists_and_left, exists_eq',
      and_true]

/-- The last integers of eight bits, and the one after them. -/
def Column.pastTheRange : List Value := [Value.int 127, Value.int (-128), Value.int 128]

/-- Two vectors, spelled in two ways. -/
def Column.twoSpellings : List Value :=
  [.list [Value.int 1, Value.int 2], .tuple [Value.int 3, Value.double (Number.Double.ofInt 4)]]

/-- Two columns of two rows. -/
def Insertion.besideEachOther : List NamedColumn :=
  [⟨"n", .ints .bits8 [1, 2]⟩, ⟨"v", .vectors (.float [[.int 1, .int 2], [.int 3, .int 4]])⟩]

theorem columns_accepted_exactly_pastTheRange :
    (∃ c, NamedColumn.blueprint.build
        (NamedColumn.keywords "v" .floatVector (.list Column.twoSpellings)) = .accepted c ∧
      c.column.rowCount = 2) ∧
    (∃ before bad after entries, Column.pastTheRange = before ++ bad :: after ∧
      (∀ row ∈ before, DataType.int8.Takes row) ∧ ¬ DataType.int8.Takes bad ∧
      NamedColumn.blueprint.build (NamedColumn.keywords "n" .int8 (.tuple Column.pastTheRange)) =
        .rejected entries ∧
      NamedColumn.Tells "n" .int8 before.length bad
        (NamedColumn.blueprint.report entries).text ∧
      (NamedColumn.blueprint.report entries).text =
        "Invalid InsertField: field 'n' row 2: 128 is not a valid INT8 value") ∧
    ∃ p, (Insertion.blueprint "insert").build (Insertion.keywords "c" (some "p")
        (.list (Insertion.besideEachOther.map .column))) = .accepted p ∧ p.rowCount = 2 := by
  refine ⟨?_, ?_, ?_⟩
  · have vectors : ∀ row ∈ Column.twoSpellings, row.IsVector .float 2 := by
      intro row member
      simp only [Column.twoSpellings, List.mem_cons, List.not_mem_nil, or_false] at member
      rcases member with rfl | rfl
      · exact VectorRow.isVector_iff.mpr ⟨_, rfl, rfl, rfl⟩
      · exact VectorRow.isVector_iff.mpr ⟨_, rfl, rfl, rfl⟩
    obtain ⟨accepts, same, -⟩ :=
      columns_accepted_exactly "v" .floatVector (.list Column.twoSpellings)
    obtain ⟨c, built⟩ := accepts.mpr
      ⟨⟨'v', by decide, by decide⟩, by decide, Column.twoSpellings, .inl rfl, nofun, 2, vectors⟩
    exact ⟨c, built, (same c Column.twoSpellings built (.inl rfl)).2.2⟩
  · obtain ⟨-, -, refuses, -⟩ := columns_accepted_exactly "n" .int8 (.tuple Column.pastTheRange)
    have misfit : ¬ DataType.int8.Fits Column.pastTheRange := by
      intro fits
      obtain ⟨n, same, -, below⟩ := fits (Value.int 128) (by simp [Column.pastTheRange])
      cases same
      exact absurd below (by decide)
    obtain ⟨before, bad, after, entries, parts, good, wrong, refused, tells⟩ :=
      refuses Column.pastTheRange ⟨'n', by decide, by decide⟩ (by decide) rfl (.inr rfl) nofun
        misfit
    have computed : NamedColumn.blueprint.build
        (NamedColumn.keywords "n" .int8 (.tuple Column.pastTheRange)) =
          .rejected [([], .inconsistent (.columnRow "n" 2 (Value.int 128) .int8))] := rfl
    obtain rfl := Verdict.rejected.inj (refused.symm.trans computed)
    exact ⟨before, bad, after, _, parts, good, wrong, refused, tells, by decide +kernel⟩
  · obtain ⟨-, -, -, together⟩ := columns_accepted_exactly "n" .int8 (.tuple [])
    obtain ⟨accepts, same⟩ := together "insert" "c" (some "p")
      (.list (Insertion.besideEachOther.map .column)) (Insertion.besideEachOther.map .column)
      Insertion.besideEachOther
      ⟨'c', by decide, by decide⟩ (fun name given => ⟨'p', by cases given; decide, by decide⟩)
      (.inl rfl) (.cons rfl (.cons rfl .nil))
    obtain ⟨p, built⟩ := accepts.mpr ⟨nofun, by decide, by decide⟩
    exact ⟨p, built, ((same p built).2 _ List.mem_cons_self).symm⟩

/-- The least integer that has too many digits to be shown. -/
def Value.endless : Value := Value.int (10 ^ Number.digitLimit : Nat)

theorem Value.integers_endless :
    ∃ n ∈ Value.endless.integers, 4300 < (Nat.digits 10 n.natAbs).length := by
  refine ⟨(10 ^ Number.digitLimit : Nat), List.mem_singleton_self _, ?_⟩
  rw [Int.natAbs_natCast]
  exact Number.digits_pow_gt Number.digitLimit

theorem DataType.not_takes_endless : ¬ DataType.int64.Takes Value.endless := by
  rintro ⟨n, same, -, below⟩
  have large : 10 ^ 19 ≤ 10 ^ Number.digitLimit := Nat.pow_le_pow_right (by decide) (by decide)
  cases same
  omega

/-- The second row is the first that does not fit, and the report does not say so. -/
theorem row_refused_unnamed :
    DataType.int64.Takes (Value.int 1) ∧ ¬ DataType.int64.Takes Value.endless ∧
    ∃ entries, NamedColumn.blueprint.build
        (NamedColumn.keywords "f" .int64 (.list [Value.int 1, Value.endless])) =
          .rejected entries ∧
      (NamedColumn.blueprint.report entries).text =
        "Invalid InsertField: Exceeds the limit (4300 digits) for integer " ++
          "string conversion; use sys.set_int_max_str_digits() to increase the limit" := by
  have good : DataType.int64.Takes (Value.int 1) := ⟨1, rfl, by decide, by decide⟩
  have misfit : ¬ DataType.int64.Fits [Value.int 1, Value.endless] := fun fits =>
    DataType.not_takes_endless (fits _ (by simp))
  refine ⟨good, DataType.not_takes_endless, ?_⟩
  have row : (Value.list [Value.int 1, Value.endless]).asRow? = some _ := rfl
  obtain ⟨before, bad, after, parts, -, wrong, refused⟩ :=
    NamedColumn.build_of_not_fits (by decide : Text.isBlank "f" = false)
      (by decide : DataType.int64 ≠ .unset) rfl row (List.cons_ne_nil _ _) misfit
  have member : bad ∈ [Value.int 1, Value.endless] := parts ▸ by simp
  obtain rfl | rfl : bad = Value.int 1 ∨ bad = Value.endless := by simpa using member
  · exact absurd good wrong
  · obtain ⟨n, held, many⟩ := Value.integers_endless
    exact ⟨_, refused, (NamedColumn.tells_report _ _ _ _).eq_of_many held many⟩

end VectorClient
