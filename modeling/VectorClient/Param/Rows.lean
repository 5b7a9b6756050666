/-
# VectorClient.Param.Rows — rows to insert and rows to delete

A named column is read from a name, a type and rows of any values: every row has
to fit the type, and the first that does not is reported with its index.  An
insertion takes columns of one length with distinct names.
-/
import VectorClient.Param.Targets

namespace VectorClient

set_option autoImplicit false

namespace Column

/-- The rows that `pick` takes, or the first one it does not, with its index
counted from `first`. -/
def pickRows {α : Type} (pick : Value → Option α) (first : Nat) :
    List Value → Except (Nat × Value) (List α)
  | [] => .ok []
  | v :: rest => match pick v with
    | none => .error (first, v)
    | some a => (pickRows pick (first + 1) rest).map (a :: ·)

def pickBool : Value → Option Bool
  | .bool b => some b
  | _ => none

/-- An integer within a width. -/
def pickInt (width : IntWidth) : Value → Option Int
  | .number (.int n) => if width.Fits n then some n else none
  | _ => none

def pickNumber : Value → Option Number
  | .number n => some n
  | _ => none

/-- A scalar column of a type, or its first bad row. -/
def scalars (name : String) (t : DataType) (rows : List Value) : Except Inconsistency Column :=
  let column {α : Type} (pick : Value → Option α) (make : List α → Column) :
      Except Inconsistency Column :=
    match pickRows pick 0 rows with
    | .ok picked => .ok (make picked)
    | .error (row, value) => .error (.columnRow name row value t)
  match t with
  | .bool => column pickBool .bools
  | .int8 => column (pickInt .bits8) (.ints .bits8)
  | .int16 => column (pickInt .bits16) (.ints .bits16)
  | .int32 => column (pickInt .bits32) (.ints .bits32)
  | .int64 => column (pickInt .bits64) (.ints .bits64)
  | .float => column pickNumber (.numbers .single)
  | .double => column pickNumber (.numbers .double)
  | .string => column Value.asText? (.texts .string)
  | .varchar => column Value.asText? (.texts .varchar)
  | .unset | .binaryVector | .floatVector => .error (.columnUntyped name)

/-- A column of vectors of a kind. -/
def ofBatch (name : String) (kind : VectorKind) (rows : List Value) :
    Except Inconsistency Column :=
  match Batch.ofValues rows with
  | .error fault => .error (.columnBatch name fault)
  | .ok batch =>
      if batch.kind = kind then .ok (.vectors batch)
      else .error (.columnKind name kind.dataType batch.kind)

/-- The column of a type that holds the rows. -/
def ofValues (name : String) (t : DataType) (rows : List Value) : Except Inconsistency Column :=
  match t.vectorKind? with
  | some kind => ofBatch name kind rows
  | none => scalars name t rows

end Column

namespace NamedColumn

def blueprint : Blueprint NamedColumn where
  title := Value.columnTitle
  Raw := String × DataType × List Value × Unit
  fields :=
    .name "name" (.cons "data_type" .dataType none (.cons "values" (.rows 1) none .nil))
  pack := fun (name, dataType, rows, ()) =>
    (Column.ofValues name dataType rows).map fun column => ⟨name, column⟩
  unpack c := (c.name, c.column.dataType, c.column.toValues, ())

/-- Reads a column that was built before, or builds one. -/
def codec : Codec NamedColumn :=
  .parameter blueprint .column fun
    | .column c => some c
    | _ => none

end NamedColumn

/-- Insert rows into a partition of a collection, column by column. -/
structure Insertion where
  collection : String
  partitionName : String
  columns : List NamedColumn
  deriving DecidableEq, Repr

namespace Insertion

/-- The rows of the first column; every other one has as many. -/
def rowCount (p : Insertion) : Nat := (p.columns.head?.map fun c => c.column.rowCount).getD 0

/-- The distinct numbers of a list, in increasing order. -/
def distinct (ns : List Nat) : List Nat := (ns.eraseDups).mergeSort (· ≤ ·)

def inconsistency? (p : Insertion) : Option Inconsistency :=
  let counts := p.columns.map fun c => c.column.rowCount
  if counts.any (· != p.rowCount) then some (.rowCounts (distinct counts))
  else if (p.columns.map NamedColumn.name).Nodup then none
  else some .duplicateNames

def blueprint (title : String) : Blueprint Insertion where
  title
  Raw := String × String × List NamedColumn × Unit
  fields :=
    .name "collection_name"
      (.cons "partition_name" .name (some Defaults.partition)
        (.cons "fields" (.many 1 NamedColumn.codec) none .nil))
  pack := fun (collection, partitionName, columns, ()) =>
    let p : Insertion := ⟨collection, partitionName, columns⟩
    match p.inconsistency? with
    | some cause => .error cause
    | none => .ok p
  unpack p := (p.collection, p.partitionName, p.columns, ())

end Insertion

/-- Delete the rows of a partition that match an expression. -/
structure Deletion where
  collection : String
  partitionName : String
  expr : String
  deriving DecidableEq, Repr

namespace Deletion

def blueprint (title : String) : Blueprint Deletion :=
  .plain title
    (.name "collection_name"
      (.cons "partition_name" .name (some Defaults.partition) (.name "expr" .nil)))
    (fun (collection, partitionName, expr, ()) => ⟨collection, partitionName, expr⟩)
    (fun p => (p.collection, p.partitionName, p.expr, ()))

end Deletion

end VectorClient
