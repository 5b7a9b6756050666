/-
# VectorClient.Proofs.Value.Printed — which values have a text

A value has a text exactly if every integer in it has one, however deep it lies; so
a value without integers past the limit can always be shown in a message.  A
parameter object inside another value is shown like its class with the fields that
it stores.

* `Value.integers`: the integers in a value, at every depth.
* `Value.isSome_printed?_iff`: they decide whether there is a text.
* `Value.printed?_of_ofValue?`: parameter objects are shown by their stored fields.
-/
import VectorClient.Param.Catalog
import Mathlib.Data.Nat.Digits.Lemmas

namespace VectorClient

set_option autoImplicit false

/-! ## Numbers -/

namespace Number

variable {n : Int}

/-- What stays below a power of ten has so many digits. -/
theorem lt_pow_iff_digits (m limit : Nat) :
    m < Nat.pow 10 limit ↔ (Nat.digits 10 m).length ≤ limit :=
  (Nat.digits_length_le_iff (by decide) m).symm

theorem digits_pow_gt (limit : Nat) : limit < (Nat.digits 10 (10 ^ limit)).length :=
  (Nat.lt_digits_length_iff (by decide) _).mpr (le_refl _)

theorem printable_iff : Printable n ↔ (Nat.digits 10 n.natAbs).length ≤ digitLimit :=
  lt_pow_iff_digits n.natAbs digitLimit

theorem printable_of_lt {digits : Nat} (few : n.natAbs < 10 ^ digits)
    (within : digits ≤ digitLimit) : Printable n :=
  printable_iff.mpr (((lt_pow_iff_digits n.natAbs digits).mp few).trans within)

/-- The integer that a number is, if it is one. -/
def integers : Number → List Int
  | .int n => [n]
  | .double _ => []

@[simp]
theorem isSome_text?_int_iff : (int n).text?.isSome ↔ Printable n := by
  rw [text?]
  split <;> simp_all

theorem isSome_text?_iff {a : Number} : a.text?.isSome ↔ ∀ n ∈ a.integers, Printable n := by
  cases a with
  | int n => simp [integers]
  | double d => simp [text?, integers]

end Number

/-! ## Several texts -/

section Several

variable {α β γ : Type}

/-- What is put together from two texts is there if both are. -/
theorem isSome_bind_bind_iff {a? : Option α} {b? : Option β} {f : α → β → γ} :
    (a?.bind fun a => b?.bind fun b => some (f a b)).isSome ↔ a?.isSome ∧ b?.isSome := by
  cases a? <;> cases b? <;> simp

theorem isSome_mapM_iff {f : α → Option β} {as : List α} :
    (as.mapM f).isSome ↔ ∀ a ∈ as, (f a).isSome := by
  induction as with
  | nil => simp
  | cons a as ih =>
      rw [List.mapM_cons, List.forall_mem_cons, ← ih]
      exact isSome_bind_bind_iff

end Several

/-! ## Columns and schemas -/

/-- The integers in the rows of a column. -/
def Column.integers : Column → List Int
  | .ints _ rows => rows
  | .numbers _ rows => rows.flatMap Number.integers
  | .vectors (.float rows) => rows.flatten.flatMap Number.integers
  | .bools _ | .texts _ _ | .vectors (.binary _) => []

theorem Column.isSome_texts?_iff {c : Column} :
    c.texts?.isSome ↔ ∀ n ∈ c.integers, Number.Printable n := by
  cases c with
  | bools rows | texts kind rows => simp [texts?, integers]
  | ints width rows => simp [texts?, integers, isSome_mapM_iff]
  | numbers precision rows =>
      simp only [texts?, integers, isSome_mapM_iff, Number.isSome_text?_iff,
        List.forall_mem_flatMap]
  | vectors batch =>
      cases batch with
      | binary rows => simp [texts?, integers]
      | float rows =>
          simp only [texts?, integers, isSome_mapM_iff, Option.isSome_map,
            Number.isSome_text?_iff, List.forall_mem_flatMap, List.forall_mem_flatten]

theorem FieldSchema.isSome_texts?_iff {f : FieldSchema} :
    f.texts?.isSome ↔ ∀ n ∈ f.dimension.toList, Number.Printable n := by
  unfold texts?
  cases f.dimension <;> simp

/-! ## Values -/

namespace Value

mutual

/-- The integers in a value, at every depth. -/
def integers : Value → List Int
  | .number a => a.integers
  | .list items => integersOfItems items
  | .tuple items => integersOfItems items
  | .dict entries => integersOfEntries entries
  | .field f => f.dimension.toList
  | .column c => c.column.integers
  | .object _ fields => integersOfFields fields
  | .none | .bool _ | .text _ | .bytes _ | .byteArray _ | .member _ => []

def integersOfItems : List Value → List Int
  | [] => []
  | v :: rest => integers v ++ integersOfItems rest

def integersOfEntries : List (Value × Value) → List Int
  | [] => []
  | (k, v) :: rest => integers k ++ integers v ++ integersOfEntries rest

def integersOfFields : List (String × Value) → List Int
  | [] => []
  | (_, v) :: rest => integers v ++ integersOfFields rest

end

/-- The integers of a row do not depend on how it was written. -/
theorem integers_freezeRow (v : Value) : v.freezeRow.integers = v.integers := by
  cases v <;> simp [freezeRow, integers]

mutual

/-- **A value has a text exactly if each of its integers has one.** -/
theorem isSome_printed?_iff :
    ∀ {v : Value}, v.printed?.isSome ↔ ∀ n ∈ v.integers, Number.Printable n
  | .number a => Number.isSome_text?_iff
  | .list items => by rw [printed?, Option.isSome_map, integers, isSome_printedItems?_iff]
  | .tuple items => by rw [printed?, Option.isSome_map, integers, isSome_printedItems?_iff]
  | .dict entries => by rw [printed?, Option.isSome_map, integers, isSome_printedEntries?_iff]
  | .object _ fields => by rw [printed?, Option.isSome_map, integers, isSome_printedFields?_iff]
  | .field f => by rw [printed?, Option.isSome_map, integers, FieldSchema.isSome_texts?_iff]
  | .column c => by
      rw [printed?, Option.isSome_map, NamedColumn.texts?, Option.isSome_map, integers,
        Column.isSome_texts?_iff]
  | .none | .bool _ | .text _ | .bytes _ | .byteArray _ | .member _ => by
      simp [printed?, integers]

theorem isSome_printedItems?_iff :
    ∀ {items : List Value},
      (printedItems? items).isSome ↔ ∀ n ∈ integersOfItems items, Number.Printable n
  | [] => by simp [printedItems?, integersOfItems]
  | v :: rest => by
      rw [integersOfItems, List.forall_mem_append, ← isSome_printed?_iff,
        ← isSome_printedItems?_iff]
      exact isSome_bind_bind_iff

theorem isSome_printedEntries?_iff :
    ∀ {entries : List (Value × Value)},
      (printedEntries? entries).isSome ↔ ∀ n ∈ integersOfEntries entries, Number.Printable n
  | [] => by simp [printedEntries?, integersOfEntries]
  | (k, v) :: rest => by
      rw [integersOfEntries, List.forall_mem_append, List.forall_mem_append,
        ← isSome_printed?_iff, ← isSome_printed?_iff, ← isSome_printedEntries?_iff]
      rw [printedEntries?]
      cases k.printed? <;> cases v.printed? <;> cases printedEntries? rest <;> simp

theorem isSome_printedFields?_iff :
    ∀ {fields : List (String × Value)},
      (printedFields? fields).isSome ↔ ∀ n ∈ integersOfFields fields, Number.Printable n
  | [] => by simp [printedFields?, integersOfFields]
  | (_, v) :: rest => by
      rw [integersOfFields, List.forall_mem_append, ← isSome_printed?_iff,
        ← isSome_printedFields?_iff]
      exact isSome_bind_bind_iff

end

/-! ## Parameter objects -/

theorem printedItems?_map {α : Type} (f : α → Value) (as : List α) :
    printedItems? (as.map f) = as.mapM fun a => (f a).printed? := by
  induction as with
  | nil => rfl
  | cons a as ih => rw [List.map_cons, printedItems?, List.mapM_cons, ih]

/-- The rows of a column are shown as values. -/
theorem printedItems?_toValues (c : Column) : printedItems? c.toValues = c.texts? := by
  cases c with
  | bools rows => exact (printedItems?_map _ rows).trans List.mapM_pure
  | texts kind rows => exact (printedItems?_map _ rows).trans List.mapM_pure
  | ints width rows => exact printedItems?_map _ rows
  | numbers precision rows => exact printedItems?_map _ rows
  | vectors batch =>
      cases batch with
      | binary rows => exact (printedItems?_map _ rows).trans List.mapM_pure
      | float rows =>
          refine (printedItems?_map _ rows).trans ?_
          simp only [printed?, printedItems?_map, Column.texts?]

theorem printedEntries?_texts (entries : List (String × String)) :
    printedEntries? (entries.map fun (k, v) => (text k, text v)) =
      some (entries.map fun (k, v) => Text.pairText (Text.quoted k) (Text.quoted v)) := by
  induction entries with
  | nil => rfl
  | cons e rest ih =>
      rw [List.map_cons, printedEntries?, ih]
      rfl

theorem printedFields?_view_field (f : FieldSchema) :
    printedFields? (FieldSchema.blueprint.view f) = f.texts? := by
  have params := congrArg (Option.map Text.dictText) (printedEntries?_texts f.typeParams)
  have stored : FieldSchema.blueprint.view f =
      [("name", text f.name), ("data_type", member (.dataType f.dataType)),
       ("description", text f.description), ("primary_key", bool f.primaryKey),
       ("auto_id", bool f.autoId), ("dimension", f.dimension.elim Value.none int),
       ("type_params", dict (f.typeParams.map fun (k, v) => (text k, text v)))] := by
    cases f with
    | mk name dataType description primaryKey autoId dimension typeParams =>
        cases dimension <;> rfl
  rw [stored, FieldSchema.texts?]
  simp only [printedFields?, printed?, params]
  cases f.dimension with
  | none => rfl
  | some n =>
      simp only [Option.elim_some, int, printed?]
      cases (Number.int n).text? <;> rfl

theorem printedFields?_view_column (c : NamedColumn) :
    printedFields? (NamedColumn.blueprint.view c) = c.texts? := by
  have stored : NamedColumn.blueprint.view c =
      [("name", text c.name), ("data_type", member (.dataType c.column.dataType)),
       ("values", tuple (c.column.toValues.map id))] := rfl
  rw [stored, NamedColumn.texts?, List.map_id]
  simp only [printedFields?, printed?, printedItems?_toValues]
  cases c.column.texts? <;> rfl

/-- A parameter object is shown as its class and the fields that it stores. -/
theorem printed?_of_ofValue? {v : Value} {title : String} {fields : Keywords}
    (object : Parameter.ofValue? v = some (title, fields)) :
    v.printed? = (printedFields? fields).map (Text.objectText title) ∧
      v.display? = (printedFields? fields).map (String.intercalate " ") := by
  cases v with
  | field f =>
      cases object
      rw [printedFields?_view_field]
      exact ⟨rfl, rfl⟩
  | column c =>
      cases object
      rw [printedFields?_view_column]
      exact ⟨rfl, rfl⟩
  | object title fields =>
      cases object
      exact ⟨rfl, rfl⟩
  | _ => cases object

example : (field ⟨"id", .int64, "", true, false, some 8, [("unit", "s")]⟩).printed? =
    some ("FieldType(name='id', data_type=<DataType.INT64: 'INT64'>, description='', " ++
      "primary_key=True, auto_id=False, dimension=8, type_params=\x7b'unit': 's'\x7d)") := by
  decide +kernel

end Value

end VectorClient
