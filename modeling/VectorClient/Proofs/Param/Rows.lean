/-
# VectorClient.Proofs.Param.Rows — rows in other spellings

The checks on rows see a vector or a value, not its spelling: spellings of rows make
one batch (`Batch.ofValues_of_alike`) and one column (`Column.ofValues_of_alike`).
The rows that a batch or a column stores are spellings of those that it was read
from, so they make the same one again.
-/
import VectorClient.Proofs.Form.Spelling
import VectorClient.Proofs.Param.Accepted

namespace VectorClient

set_option autoImplicit false

/-! ## Vectors -/

namespace VectorRow

/-- The value that stands for a vector where it is stored. -/
def toValue : VectorRow → Value
  | .binary row => .bytes row
  | .float row => .tuple (row.map .number)

/-- Spellings of a vector are read as one vector. -/
theorem ofValue_of_alike {v v' : Value} (alike : v.Alike v') {row : VectorRow}
    (read : ofValue v = .ok row) : ofValue v' = .ok row := by
  rw [ofValue_eq_ok_iff] at read ⊢
  rcases read with ⟨bs, content, some, rfl⟩ | ⟨ns, items, some, rfl⟩
  · exact .inl ⟨bs, alike.asBytes? ▸ content, some, rfl⟩
  · obtain ⟨items', row', same⟩ := alike.asRow? items
    -- A number has but one spelling.
    have numbers : items' = ns.map .number := by
      clear items row' some
      induction ns generalizing items' with
      | nil => cases same; rfl
      | cons n rest ih =>
          obtain ⟨item', rest', here, later, rfl⟩ := List.forall₂_cons_left_iff.mp same
          rw [here.number, ih rest' later, List.map_cons]
    exact .inr ⟨ns, numbers ▸ row', some, rfl⟩

/-- A vector is stored as a spelling of what it was read from. -/
theorem alike_toValue {v : Value} {row : VectorRow} (read : ofValue v = .ok row) :
    v.Alike row.toValue := by
  rcases ofValue_eq_ok_iff.mp read with ⟨bs, content, -, rfl⟩ | ⟨ns, items, -, rfl⟩
  · exact Value.alike_of_asBytes? content
  · exact Value.alike_of_asRow? items

end VectorRow

/-! ## Batches -/

namespace Batch

/-- Spellings of vectors make one batch. -/
theorem ofValues_of_alike {vs vs' : List Value} (alike : List.Forall₂ Value.Alike vs vs')
    {b : Batch} (read : ofValues vs = .ok b) : ofValues vs' = .ok b := by
  obtain ⟨v, rest, first, rows, rfl, here, later, made⟩ := ofValues_eq_ok_iff.mp read
  obtain ⟨v', rest', same, others, rfl⟩ := List.forall₂_cons_left_iff.mp alike
  refine ofValues_eq_ok_iff.mpr ⟨v', rest', first, rows, rfl,
    VectorRow.ofValue_of_alike same here, forall₂_of_forall₂ ?_ others later, made⟩
  intro v v' row same fits
  obtain ⟨read, like⟩ := VectorRow.ofValueLike_eq_ok_iff.mp fits
  exact VectorRow.ofValueLike_eq_ok_iff.mpr ⟨VectorRow.ofValue_of_alike same read, like⟩

/-- Vectors of one kind are all stored. -/
theorem toValues_ofRows {first : VectorRow} {rows : List VectorRow}
    (kinds : ∀ row ∈ rows, row.kind = first.kind) :
    (ofRows first rows).toValues = (first :: rows).map VectorRow.toValue := by
  induction rows with
  | nil => cases first <;> rfl
  | cons row rows ih =>
      rw [List.forall_mem_cons] at kinds
      have ih := ih kinds.2
      cases first with
      | binary bs =>
          cases row with
          | binary bs' => simpa [ofRows, toValues, VectorRow.toValue, VectorRow.binary?] using ih
          | float ns => cases kinds.1
      | float ns =>
          cases row with
          | binary bs => cases kinds.1
          | float ns' => simpa [ofRows, toValues, VectorRow.toValue, VectorRow.float?] using ih

/-- A batch stores spellings of the vectors that it was read from. -/
theorem alike_toValues {vs : List Value} {b : Batch} (read : ofValues vs = .ok b) :
    List.Forall₂ Value.Alike vs b.toValues := by
  obtain ⟨v, rest, first, rows, rfl, here, later, rfl⟩ := ofValues_eq_ok_iff.mp read
  rw [toValues_ofRows fun row member => (VectorRow.forall_like later row member).1,
    List.map_cons]
  refine .cons (VectorRow.alike_toValue here) ?_
  rw [List.forall₂_map_right_iff]
  refine later.imp fun v row fits => ?_
  exact VectorRow.alike_toValue (VectorRow.ofValueLike_eq_ok_iff.mp fits).1

theorem freezeRow_of_mem_toValues {b : Batch} {v : Value} (member : v ∈ b.toValues) :
    v.freezeRow = v := by
  cases b with
  | binary rows | float rows =>
      obtain ⟨row, -, rfl⟩ := List.mem_map.mp member
      rfl

/-- What a batch stores makes the batch. -/
theorem ofValues_toValues {vs : List Value} {b : Batch} (read : ofValues vs = .ok b) :
    ofValues b.toValues = .ok b :=
  ofValues_of_alike (alike_toValues read) read

end Batch

/-! ## Columns -/

namespace Column

/-- A pick takes all spellings of a value for one, and stores a spelling of it. -/
structure Picks {α : Type} (pick : Value → Option α) (store : α → Value) : Prop where
  blind : ∀ v v' a, v.Alike v' → pick v = some a → pick v' = some a
  stored : ∀ v a, pick v = some a → v.Alike (store a)

theorem picks_bool : Picks pickBool .bool where
  blind v v' b alike picked := by
    cases v with
    | bool b' => rwa [alike.bool]
    | _ => cases picked
  stored v b picked := by
    cases v <;> cases picked
    exact .refl _

theorem picks_number : Picks pickNumber .number where
  blind v v' n alike picked := by
    cases v with
    | number n' => rwa [alike.number]
    | _ => cases picked
  stored v n picked := by
    cases v <;> cases picked
    exact .refl _

theorem picks_int (width : IntWidth) : Picks (pickInt width) Value.int where
  blind v v' n alike picked := by
    obtain ⟨rfl, fits⟩ := pickInt_eq_some_iff.mp picked
    exact pickInt_eq_some_iff.mpr ⟨alike.number, fits⟩
  stored v n picked := by
    obtain ⟨rfl, -⟩ := pickInt_eq_some_iff.mp picked
    exact .refl _

theorem picks_text : Picks Value.asText? .text where
  blind _ _ _ alike picked := alike.asText?.symm.trans picked
  stored _ _ picked := Value.alike_of_asText? picked

/-- A column holds spellings of its rows as well. -/
theorem Holds.of_alike {column : Column} {vs vs' : List Value} (holds : column.Holds vs)
    (alike : List.Forall₂ Value.Alike vs vs') : column.Holds vs' := by
  cases column with
  | bools rows => exact forall₂_of_forall₂ picks_bool.blind alike holds
  | ints width rows => exact forall₂_of_forall₂ (picks_int width).blind alike holds
  | numbers precision rows => exact forall₂_of_forall₂ picks_number.blind alike holds
  | texts kind rows => exact forall₂_of_forall₂ picks_text.blind alike holds
  | vectors batch => exact Batch.ofValues_of_alike alike holds

/-- A column stores spellings of the rows that it holds. -/
theorem Holds.alike_toValues {column : Column} {vs : List Value} (holds : column.Holds vs) :
    List.Forall₂ Value.Alike vs column.toValues := by
  have along : ∀ {α : Type} {pick : Value → Option α} {store : α → Value} {rows : List α},
      Picks pick store → List.Forall₂ (fun v a => pick v = some a) vs rows →
        List.Forall₂ Value.Alike vs (rows.map store) := by
    intro α pick store rows picks picked
    rw [List.forall₂_map_right_iff]
    exact picked.imp picks.stored
  cases column with
  | bools rows => exact along picks_bool holds
  | ints width rows => exact along (picks_int width) holds
  | numbers precision rows => exact along picks_number holds
  | texts kind rows => exact along picks_text holds
  | vectors batch => exact Batch.alike_toValues holds

theorem freezeRow_of_mem_toValues {column : Column} {v : Value} (member : v ∈ column.toValues) :
    v.freezeRow = v := by
  cases column with
  | vectors batch => exact Batch.freezeRow_of_mem_toValues member
  | bools rows | ints width rows | numbers precision rows | texts kind rows =>
      obtain ⟨row, -, rfl⟩ := List.mem_map.mp member
      rfl

/-- Spellings of rows make one column. -/
theorem ofValues_of_alike {name : String} {t : DataType} {vs vs' : List Value} {column : Column}
    (alike : List.Forall₂ Value.Alike vs vs') (read : ofValues name t vs = .ok column) :
    ofValues name t vs' = .ok column := by
  obtain ⟨named, holds⟩ := ofValues_eq_ok_iff.mp read
  exact ofValues_eq_ok_iff.mpr ⟨named, holds.of_alike alike⟩

end Column

end VectorClient
