/-
# VectorClient.Proofs.Param.Batches — which lists are batches

A list is read as a batch element by element, each compared with the first.  What
comes of it is said here without reading it: of which values are vectors
(`Value.IsVector`), what is wrong with others (`Value.NoVector`), and which of the
elements of a list is the first that something is wrong with (`Batch.Faulty`).

* `VectorRow.isVector_iff`, `VectorRow.noVector_iff`: vectors are what is read as such.
* `Batch.check_eq_ok_iff`, `Batch.check_eq_error_iff`: the two outcomes of a check.
* `batches_check_uniformly`: they depend on the elements one by one, so batches can be
  joined and put in any order.
-/
import VectorClient.Proofs.Param.Accepted
import Mathlib.Data.Set.List

namespace VectorClient

set_option autoImplicit false

/-! ## Vectors -/

namespace Value

/-- Truth values are no numbers. -/
def IsNumber (v : Value) : Prop := ∃ n, v = .number n

/-- The value is a vector of a kind and a length: a byte string or a row of numbers, not empty. -/
inductive IsVector (v : Value) : VectorKind → Nat → Prop
  | binary {bs : List UInt8} (bytes : v.asBytes? = some bs) (filled : bs ≠ []) :
      IsVector v .binary bs.length
  | float {items : List Value} (row : v.asRow? = some items) (filled : items ≠ [])
      (numbers : ∀ item ∈ items, item.IsNumber) : IsVector v .float items.length

/-- What is wrong with a value that is no vector. -/
inductive NoVector (v : Value) : VectorFault → Prop
  | emptyBinary (bytes : v.asBytes? = some []) : NoVector v .emptyBinary
  | emptyFloat (row : v.asRow? = some []) : NoVector v .emptyFloat
  | notNumbers {items : List Value} {item : Value} (row : v.asRow? = some items)
      (member : item ∈ items) (other : ¬ item.IsNumber) : NoVector v .notNumbers
  | unsupported (bytes : v.asBytes? = Option.none) (row : v.asRow? = Option.none) :
      NoVector v (.unsupported v.typeName)

/-- What is wrong with a value beside vectors of a kind and a length. -/
inductive Disagrees (v : Value) (kind : VectorKind) (length : Nat) : BatchFault → Prop
  | noVector {fault : VectorFault} (noVector : v.NoVector fault) :
      Disagrees v kind length (.vector fault)
  | mixedKinds {kind' : VectorKind} {length' : Nat} (vector : v.IsVector kind' length')
      (differ : kind' ≠ kind) : Disagrees v kind length .mixedKinds
  | mixedLengths {length' : Nat} (vector : v.IsVector kind length')
      (differ : length' ≠ length) : Disagrees v kind length (.mixedLengths length length')

end Value

namespace VectorRow

theorem exists_numbers_iff {items : List Value} :
    (∃ ns : List Number, items = ns.map .number) ↔ ∀ item ∈ items, item.IsNumber := by
  have ranges := Set.ext_iff.mp (Set.range_list_map Value.number) items
  simpa only [Set.mem_range, Set.mem_ofPred_eq, eq_comm (a := items), Value.IsNumber,
    eq_comm (b := Value.number _)] using ranges

theorem numbers?_eq_none_iff {items : List Value} :
    numbers? items = none ↔ ∃ item ∈ items, ¬ item.IsNumber := by
  have none_iff : numbers? items = none ↔ ¬ ∃ ns : List Number, items = ns.map .number := by
    simp only [← numbers?_eq_some_iff]
    cases numbers? items <;> simp
  rw [none_iff, exists_numbers_iff]
  simp only [not_forall, exists_prop]

/-- Vectors are the values that are read as such. -/
theorem isVector_iff {v : Value} {kind : VectorKind} {length : Nat} :
    v.IsVector kind length ↔
      ∃ row, ofValue v = .ok row ∧ row.kind = kind ∧ row.length = length := by
  constructor
  · intro vector
    cases vector with
    | @binary bs bytes filled =>
        exact ⟨.binary bs, ofValue_eq_ok_iff.mpr (.inl ⟨bs, bytes, filled, rfl⟩), rfl, rfl⟩
    | @float items row filled numbers =>
        obtain ⟨ns, rfl⟩ := exists_numbers_iff.mpr numbers
        have filled : ns ≠ [] := by simpa using filled
        refine ⟨.float ns, ofValue_eq_ok_iff.mpr (.inr ⟨ns, row, filled, rfl⟩), rfl, ?_⟩
        exact (List.length_map _).symm
  · rintro ⟨row, read, rfl, rfl⟩
    rcases ofValue_eq_ok_iff.mp read with ⟨bs, bytes, filled, rfl⟩ | ⟨ns, row, filled, rfl⟩
    · exact .binary bytes filled
    · have vector : v.IsVector .float (ns.map Value.number).length :=
        .float row (by simpa using filled) (exists_numbers_iff.mp ⟨ns, rfl⟩)
      rwa [List.length_map] at vector

section Read

variable {v : Value}

theorem ofValue_of_bytes {bs : List UInt8} (bytes : v.asBytes? = some bs) :
    ofValue v = ofBytes bs := by
  cases v <;> cases bytes <;> rfl

theorem ofValue_of_row {items : List Value} (row : v.asRow? = some items) :
    ofValue v = ofItems items := by
  cases v <;> cases row <;> rfl

theorem ofValue_of_neither (bytes : v.asBytes? = none) (row : v.asRow? = none) :
    ofValue v = .error (.unsupported v.typeName) := by
  cases v with
  | bytes | byteArray => cases bytes
  | list | tuple => cases row
  | _ => rfl

end Read

/-- Other values are refused for what is wrong with them. -/
theorem noVector_iff {v : Value} {fault : VectorFault} :
    v.NoVector fault ↔ ofValue v = .error fault := by
  constructor
  · intro wrong
    cases wrong with
    | emptyBinary bytes => rw [ofValue_of_bytes bytes]; rfl
    | emptyFloat row => rw [ofValue_of_row row]; rfl
    | @notNumbers items item row member other =>
        rw [ofValue_of_row row]
        have mixed := numbers?_eq_none_iff.mpr ⟨item, member, other⟩
        cases items with
        | nil => cases member
        | cons => simp only [ofItems, mixed]
    | unsupported bytes row => exact ofValue_of_neither bytes row
  · intro refused
    cases bytes : v.asBytes? with
    | some bs =>
        rw [ofValue_of_bytes bytes] at refused
        cases bs with
        | nil => cases refused; exact .emptyBinary bytes
        | cons => cases refused
    | none =>
        cases row : v.asRow? with
        | none =>
            rw [ofValue_of_neither bytes row] at refused
            cases refused
            exact .unsupported bytes row
        | some items =>
            rw [ofValue_of_row row] at refused
            cases items with
            | nil => cases refused; exact .emptyFloat row
            | cons item rest =>
                simp only [ofItems] at refused
                split at refused
                · cases refused
                · rename_i mixed
                  cases refused
                  obtain ⟨item, member, other⟩ := numbers?_eq_none_iff.mp mixed
                  exact .notNumbers row member other

/-- A value is refused beside a first vector for how it disagrees with it. -/
theorem disagrees_iff {v : Value} {first : VectorRow} {fault : BatchFault} :
    v.Disagrees first.kind first.length fault ↔ ofValueLike first v = .error fault := by
  constructor
  · intro wrong
    cases wrong with
    | noVector wrong => simp only [ofValueLike, noVector_iff.mp wrong]
    | mixedKinds vector differ =>
        obtain ⟨row, read, rfl, rfl⟩ := isVector_iff.mp vector
        simp only [ofValueLike, read, ne_eq, differ, not_false_eq_true, if_true]
    | mixedLengths vector differ =>
        obtain ⟨row, read, kind, rfl⟩ := isVector_iff.mp vector
        simp only [ofValueLike, read, kind, ne_eq, differ, not_true_eq_false, not_false_eq_true,
          if_false, if_true]
  · intro refused
    unfold ofValueLike at refused
    split at refused
    · rename_i wrong
      cases refused
      exact .noVector (noVector_iff.mpr wrong)
    · rename_i row read
      split at refused
      · rename_i differ
        cases refused
        exact .mixedKinds (isVector_iff.mpr ⟨row, read, rfl, rfl⟩) differ
      · rename_i same
        split at refused
        · rename_i differ
          cases refused
          have kind : row.kind = first.kind := Decidable.not_not.mp same
          exact .mixedLengths (isVector_iff.mpr ⟨row, read, kind, rfl⟩) differ
        · cases refused

/-- A value beside a first vector is refused, or it is a vector of the same kind and length. -/
theorem exists_like_iff {v : Value} {first : VectorRow} :
    (∃ row, ofValueLike first v = .ok row) ↔ v.IsVector first.kind first.length := by
  simp only [ofValueLike_eq_ok_iff, isVector_iff]

/-- Of several values beside a first vector, the first that disagrees is reported. -/
theorem ofValuesLike_eq_error_iff {first : VectorRow} {fault : BatchFault} :
    ∀ {vs : List Value}, ofValuesLike first vs = .error fault ↔
      ∃ before v after, vs = before ++ v :: after ∧
        (∀ u ∈ before, u.IsVector first.kind first.length) ∧
        v.Disagrees first.kind first.length fault
  | [] => by simp [ofValuesLike]
  | v :: vs => by
      rw [ofValuesLike]
      cases read : ofValueLike first v with
      | error wrong =>
          constructor
          · rintro ⟨⟩
            exact ⟨[], v, vs, rfl, List.forall_mem_nil _, disagrees_iff.mpr read⟩
          · rintro ⟨before, u, after, parts, agree, disagrees⟩
            cases before with
            | nil =>
                obtain ⟨rfl, rfl⟩ := List.cons.inj parts
                rw [disagrees_iff, read] at disagrees
                exact congrArg _ (Except.error.inj disagrees)
            | cons _ before =>
                -- What stands before the one that is reported agrees with the first, and `v` does not.
                obtain ⟨rfl, rfl⟩ := List.cons.inj parts
                obtain ⟨row, accepted⟩ := exists_like_iff.mpr (agree v List.mem_cons_self)
                cases read.symm.trans accepted
      | ok row =>
          have here := exists_like_iff.mp ⟨row, read⟩
          simp only [map_eq_error_iff, ofValuesLike_eq_error_iff]
          constructor
          · rintro ⟨before, u, after, rfl, agree, disagrees⟩
            exact ⟨v :: before, u, after, rfl, List.forall_mem_cons.mpr ⟨here, agree⟩, disagrees⟩
          · rintro ⟨before, u, after, parts, agree, disagrees⟩
            cases before with
            | nil =>
                obtain ⟨rfl, rfl⟩ := List.cons.inj parts
                cases read.symm.trans (disagrees_iff.mp disagrees)
            | cons _ before =>
                obtain ⟨rfl, rfl⟩ := List.cons.inj parts
                exact ⟨before, u, after, rfl, (List.forall_mem_cons.mp agree).2, disagrees⟩

end VectorRow

/-! ## Batches -/

/-- The dimension of a vector: of packed bits, eight times the number of its bytes. -/
def VectorKind.dimension : VectorKind → Nat → Nat
  | .binary, length => 8 * length
  | .float, length => length

theorem VectorKind.dimension_inj {kind : VectorKind} {length length' : Nat}
    (same : kind.dimension length = kind.dimension length') : length = length' := by
  cases kind with
  | binary => exact Nat.eq_of_mul_eq_mul_left (by decide) same
  | float => exact same

namespace Batch

/-- The kind and the dimension of a list of vectors, or why it is no batch. -/
def check (vs : List Value) : Except BatchFault (VectorKind × Nat) :=
  (ofValue (.list vs)).map fun b => (b.kind, b.dimension)

/-- The fault of a list that is no batch: that it is empty; what is wrong with its first element;
or what is wrong with the first of the others that is not like it. -/
inductive Faulty : List Value → BatchFault → Prop
  | empty : Faulty [] .empty
  | first {v : Value} {rest : List Value} {fault : VectorFault} (wrong : v.NoVector fault) :
      Faulty (v :: rest) (.vector fault)
  | later {v w : Value} {before after : List Value} {kind : VectorKind} {length : Nat}
      {fault : BatchFault} (vector : v.IsVector kind length)
      (agree : ∀ u ∈ before, u.IsVector kind length) (disagrees : w.Disagrees kind length fault) :
      Faulty (v :: (before ++ w :: after)) fault

theorem check_eq (vs : List Value) :
    check vs = (ofValues vs).map fun b => (b.kind, b.dimension) := by
  cases vs <;> rfl

theorem kind_ofRows (first : VectorRow) (rows : List VectorRow) :
    (ofRows first rows).kind = first.kind := by
  cases first <;> rfl

theorem dimension_ofRows (first : VectorRow) (rows : List VectorRow) :
    (ofRows first rows).dimension = first.kind.dimension first.length := by
  cases first <;> rfl

/-- **A list is a batch exactly if its elements are vectors of one kind and one length.** -/
theorem check_eq_ok_iff {vs : List Value} {kind : VectorKind} {dimension : Nat} :
    check vs = .ok (kind, dimension) ↔ vs ≠ [] ∧
      ∃ length, kind.dimension length = dimension ∧ ∀ v ∈ vs, v.IsVector kind length := by
  rw [check_eq, map_eq_ok_iff]
  constructor
  · rintro ⟨b, read, same⟩
    obtain ⟨v, rest, first, rows, rfl, here, later, rfl⟩ := ofValues_eq_ok_iff.mp read
    rw [kind_ofRows, dimension_ofRows] at same
    obtain ⟨rfl, rfl⟩ := Prod.mk.inj same
    refine ⟨List.cons_ne_nil _ _, first.length, rfl, List.forall_mem_cons.mpr ⟨?_, ?_⟩⟩
    · exact VectorRow.isVector_iff.mpr ⟨first, here, rfl, rfl⟩
    · intro u member
      exact VectorRow.exists_like_iff.mp (exists_forall₂_iff.mp ⟨rows, later⟩ u member)
  · rintro ⟨filled, length, rfl, vectors⟩
    obtain ⟨v, rest, rfl⟩ := List.exists_cons_of_ne_nil filled
    obtain ⟨vector, vectors⟩ := List.forall_mem_cons.mp vectors
    obtain ⟨first, here, rfl, rfl⟩ := VectorRow.isVector_iff.mp vector
    obtain ⟨rows, later⟩ := exists_forall₂_iff.mpr fun u member =>
      VectorRow.exists_like_iff.mpr (vectors u member)
    refine ⟨_, ofValues_eq_ok_iff.mpr ⟨v, rest, first, rows, rfl, here, later, rfl⟩, ?_⟩
    rw [kind_ofRows, dimension_ofRows]

/-- **A list is refused for the first of its elements that something is wrong with.** -/
theorem check_eq_error_iff {vs : List Value} {fault : BatchFault} :
    check vs = .error fault ↔ Faulty vs fault := by
  rw [check_eq, map_eq_error_iff]
  constructor
  · intro refused
    cases vs with
    | nil =>
        cases refused
        exact .empty
    | cons v rest =>
        simp only [ofValues] at refused
        split at refused
        · rename_i wrong
          cases refused
          exact .first (VectorRow.noVector_iff.mpr wrong)
        · rename_i first here
          rw [map_eq_error_iff] at refused
          obtain ⟨before, w, after, rfl, agree, disagrees⟩ :=
            VectorRow.ofValuesLike_eq_error_iff.mp refused
          exact .later (VectorRow.isVector_iff.mpr ⟨first, here, rfl, rfl⟩) agree disagrees
  · intro faulty
    cases faulty with
    | empty => rfl
    | first wrong => simp only [ofValues, VectorRow.noVector_iff.mp wrong]
    | later vector agree disagrees =>
        obtain ⟨first, here, rfl, rfl⟩ := VectorRow.isVector_iff.mp vector
        simp only [ofValues, here]
        rw [map_eq_error_iff]
        exact VectorRow.ofValuesLike_eq_error_iff.mpr ⟨_, _, _, rfl, agree, disagrees⟩

variable {vs ws : List Value}

/-- Lists are joined to a batch exactly if they are batches that go together. -/
theorem check_append_iff (filled : vs ≠ []) (filled' : ws ≠ []) {kind : VectorKind}
    {dimension : Nat} : check (vs ++ ws) = .ok (kind, dimension) ↔
      check vs = .ok (kind, dimension) ∧ check ws = .ok (kind, dimension) := by
  simp only [check_eq_ok_iff, List.forall_mem_append]
  constructor
  · rintro ⟨-, length, same, left, right⟩
    exact ⟨⟨filled, length, same, left⟩, filled', length, same, right⟩
  · rintro ⟨⟨-, length, same, left⟩, -, length', same', right⟩
    obtain rfl := VectorKind.dimension_inj (same.trans same'.symm)
    exact ⟨List.append_ne_nil_of_left_ne_nil filled _, length, same, left, right⟩

/-- The order of the elements is without effect on a batch. -/
theorem check_perm_iff (perm : vs.Perm ws) {kind : VectorKind} {dimension : Nat} :
    check vs = .ok (kind, dimension) ↔ check ws = .ok (kind, dimension) := by
  simp only [check_eq_ok_iff, perm.mem_iff, ← List.length_pos_iff, perm.length_eq]

end Batch

/-- **Batches are checked uniformly.**  A list is a batch of a kind and a dimension exactly if it is
not empty and its elements are vectors of that kind and of one length, which makes the dimension.
So lists can be joined exactly if both are batches of one kind and dimension, and the order of
elements makes no difference.  A list that is no batch is refused for the first of its elements
that is no vector or disagrees with the first one, in kind rather than in length. -/
theorem batches_check_uniformly :
    (∀ vs kind dimension, Batch.check vs = .ok (kind, dimension) ↔ vs ≠ [] ∧
      ∃ length, kind.dimension length = dimension ∧ ∀ v ∈ vs, v.IsVector kind length) ∧
    (∀ vs ws : List Value, vs ≠ [] → ws ≠ [] → ∀ kind dimension,
      (Batch.check (vs ++ ws) = .ok (kind, dimension) ↔
        Batch.check vs = .ok (kind, dimension) ∧ Batch.check ws = .ok (kind, dimension))) ∧
    (∀ vs ws : List Value, vs.Perm ws → ∀ kind dimension,
      (Batch.check vs = .ok (kind, dimension) ↔ Batch.check ws = .ok (kind, dimension))) ∧
    ∀ vs fault, Batch.check vs = .error fault ↔ Batch.Faulty vs fault := by
  refine ⟨fun vs kind dimension => ?_, fun vs ws filled filled' kind dimension => ?_,
    fun vs ws perm kind dimension => ?_, fun vs fault => ?_⟩
  · exact Batch.check_eq_ok_iff
  · exact Batch.check_append_iff filled filled'
  · exact Batch.check_perm_iff perm
  · exact Batch.check_eq_error_iff

namespace Batch

/-- Two bytes, twice. -/
def twoPacked : List Value := [.bytes [1, 2], .byteArray [3, 4]]

/-- Two bytes again, the numbers of a vector, and an empty one. -/
def mixedUp : List Value := [.bytes [5, 6], .tuple [Value.int 7, Value.int 8], .list []]

end Batch

theorem batches_check_uniformly_twoPacked :
    Batch.check (Batch.twoPacked ++ Batch.twoPacked.reverse) = .ok (.binary, 16) ∧
      Batch.check Batch.twoPacked.reverse = .ok (.binary, 16) ∧
      Batch.Faulty (Batch.twoPacked ++ Batch.mixedUp) .mixedKinds := by
  obtain ⟨-, join, permute, refuse⟩ := batches_check_uniformly
  have checked : Batch.check Batch.twoPacked = .ok (.binary, 16) := rfl
  have reversed : Batch.check Batch.twoPacked.reverse = .ok (.binary, 16) :=
    (permute _ _ (List.reverse_perm _).symm _ _).mp checked
  refine ⟨?_, reversed, ?_⟩
  · exact (join _ _ (List.cons_ne_nil _ _) (List.cons_ne_nil _ _) _ _).mpr ⟨checked, reversed⟩
  · exact (refuse _ _).mp rfl

end VectorClient
