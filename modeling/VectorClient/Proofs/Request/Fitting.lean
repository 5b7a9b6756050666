/-
# VectorClient.Proofs.Request.Fitting — which parameters fit their requests

A request is written exactly if every number of its parameter is one that the
place it goes to can hold.  The places differ (`Operation.Fits`): integer fields
have widths, arrays of numbers hold what has a finite double, target vectors
what has a finite four-byte number, and numbers that travel as text have so many
digits.  Everything else a parameter holds can always be written.

* `succeeds_each`: a list is converted exactly if each of its elements is.
* `succeeds_double_iff`, `succeeds_component_iff`: one number in an array, and one
  component of a target vector.
* `Operation.succeeds_request_iff`: an accepted parameter has a request exactly if it
  fits.
-/
import VectorClient.Proofs.Param.Bounds
import VectorClient.Proofs.Request.Numbers
import VectorClient.Proofs.Value.Printed
import VectorClient.Request.Basic

namespace VectorClient

set_option autoImplicit false

open Number

namespace Request

/-! ## Conversions that succeed -/

/-- The conversion meets no number that cannot be written. -/
def Succeeds {α : Type} (x : Except Fault α) : Prop := ∃ a, x = .ok a

section Succeeds

variable {α β : Type}

theorem not_succeeds_iff {x : Except Fault α} : ¬ Succeeds x ↔ ∃ fault, x = .error fault := by
  cases x <;> simp [Succeeds]

@[simp]
theorem succeeds_ok (a : α) : Succeeds (.ok a) := ⟨a, rfl⟩

@[simp]
theorem not_succeeds_error (fault : Fault) : ¬ Succeeds (.error fault : Except Fault α) :=
  nofun

@[simp]
theorem succeeds_map {x : Except Fault α} {f : α → β} : Succeeds (x.map f) ↔ Succeeds x := by
  cases x <;> simp [Except.map]

/-- A conversion that goes on with another one, whose success does not depend on what the
first one gave. -/
theorem succeeds_bind {x : Except Fault α} {f : α → Except Fault β} {P : Prop}
    (goesOn : ∀ a, Succeeds (f a) ↔ P) : Succeeds (x.bind f) ↔ Succeeds x ∧ P := by
  cases x <;> simp [Except.bind, goesOn]

/-- A list is converted exactly if each of its elements is. -/
theorem succeeds_each {f : α → Except Fault β} {as : List α} :
    Succeeds (each f as) ↔ ∀ a ∈ as, Succeeds (f a) := by
  induction as with
  | nil => simp [each]
  | cons a as ih =>
      rw [each, List.forall_mem_cons, ← ih]
      cases f a <;> simp

end Succeeds

/-! ## Integers -/

theorem succeeds_signed_iff {width : IntWidth} {field : Nat} {n : Int} :
    Succeeds (signed width field n) ↔ width.Fits n := by
  unfold signed
  split <;> simp_all

theorem succeeds_unsigned_iff {width field : Nat} {n : Int} (natural : 0 ≤ n) :
    Succeeds (unsigned width field n) ↔ n < (2 ^ width : Nat) := by
  have bounds : (0 ≤ n ∧ n < (Nat.pow 2 width : Nat)) ↔ n < (2 ^ width : Nat) :=
    and_iff_right natural
  unfold unsigned
  split <;> simp_all

theorem succeeds_decimal_iff {n : Int} : Succeeds (decimal n) ↔ Printable n := by
  unfold decimal
  split <;> simp_all

end Request

/-! ## Numbers -/

namespace Number

/-- An array of numbers takes doubles, and integers before the middle after the last one. -/
def FitsArray : Number → Prop
  | .int n => n.natAbs < Double.overflow
  | .double _ => True

/-- A target vector takes what is before the middle after the last four-byte number, and
what is not finite.  An integer is rounded to a double first. -/
def FitsTarget : Number → Prop
  | .int n => n.natAbs < Double.singleOverflow - 2 ^ 74
  | .double (.finite _ rank) =>
      BinaryFormat.double.units rank < Double.singleOverflow * Double.one
  | .double _ => True

end Number

namespace Request

theorem succeeds_double_iff {n : Number} : Succeeds (double n) ↔ n.FitsArray := by
  have exists_double : Succeeds (double n) ↔ n.toDouble?.isSome := by
    unfold double
    cases n.toDouble? <;> simp
  rw [exists_double]
  cases n with
  | int n => exact Double.ofInt?_isSome_iff n
  | double d => simp [toDouble?, FitsArray]

/-- A component is written exactly if the double it is rounded to is one that fits. -/
theorem succeeds_component_of_rounded {n : Number} {d : Double}
    (rounded : n.toDouble? = some d) :
    Succeeds (component n) ↔ (Number.double d).FitsTarget := by
  have refused : Succeeds (component n) ↔
      ¬ ((∃ negative rank, d = .finite negative rank) ∧
        ∃ sign, (d.convert .single : Single) = .infinite sign) := by
    unfold component
    simp only [rounded]
    split
    · rename_i infinite
      simp [infinite]
    · rename_i other
      simp only [succeeds_ok, true_iff]
      rintro ⟨⟨negative, rank, rfl⟩, sign, infinite⟩
      exact other _ _ _ rfl infinite
  rw [refused]
  cases d with
  | nan => simp [FitsTarget]
  | infinite negative => simp [FitsTarget]
  | finite negative rank =>
      have finite : ∃ sign rank', (Binary.finite negative rank : Double) = .finite sign rank' :=
        ⟨negative, rank, rfl⟩
      rw [FitsTarget, ← Nat.not_le, ← Double.convert_single_eq_infinite_iff negative rank,
        and_iff_right finite]

theorem succeeds_component_iff {n : Number} : Succeeds (component n) ↔ n.FitsTarget := by
  cases n with
  | double d => exact succeeds_component_of_rounded rfl
  | int n =>
      cases rounded : Double.ofInt? n with
      | none =>
          have past : ¬ n.natAbs < Double.overflow := by
            rw [← Double.ofInt?_isSome_iff, rounded]
            exact nofun
          have further := Double.singleOverflow_lt_overflow
          have none : (Number.int n).toDouble? = none := rounded
          rw [component, none, FitsTarget]
          exact iff_of_false (not_succeeds_error _) (by omega)
      | some d =>
          have rounds : (Number.int n).toDouble? = some d := rounded
          obtain ⟨rank, rfl, nearest⟩ := Double.exists_of_ofInt? rounded
          rw [succeeds_component_of_rounded rounds, FitsTarget, FitsTarget, nearest]
          exact Double.units_nearest_lt_iff n.natAbs

end Request

/-! ## Batches and columns -/

namespace Batch

/-- The components of the vectors; packed bits have none. -/
def components : Batch → List Number
  | .binary _ => []
  | .float rows => rows.flatten

/-- The batch fits where its vectors are laid end to end behind their dimension. -/
def FitsArray (b : Batch) : Prop := b.dimension < 2 ^ 63 ∧ ∀ n ∈ b.components, n.FitsArray

/-- The batch fits where each of its vectors is a target. -/
def FitsTargets (b : Batch) : Prop := ∀ n ∈ b.components, n.FitsTarget

theorem succeeds_array_iff {b : Batch} :
    Request.Succeeds b.array ↔ ∀ n ∈ b.components, n.FitsArray := by
  cases b with
  | binary rows => simp [array, components]
  | float rows =>
      simp [array, components, Request.singles, Request.succeeds_each,
        Request.succeeds_double_iff]

theorem succeeds_toMessage_iff {b : Batch} : Request.Succeeds b.toMessage ↔ b.FitsArray := by
  have width : IntWidth.bits64.Fits b.dimension ↔ b.dimension < 2 ^ 63 := by
    simp only [IntWidth.Fits, IntWidth.limit]
    omega
  rw [toMessage, Request.succeeds_bind fun _ => by rw [Request.succeeds_map, succeeds_array_iff],
    Request.succeeds_signed_iff, width, FitsArray]

theorem succeeds_placeholderGroup_iff {b : Batch} :
    Request.Succeeds b.placeholderGroup ↔ b.FitsTargets := by
  rw [placeholderGroup, Request.succeeds_map, FitsTargets]
  cases b with
  | binary rows => simp [targets, components]
  | float rows =>
      simp only [targets, components, Request.succeeds_each, Request.succeeds_map,
        Request.succeeds_component_iff, List.mem_flatten]
      constructor
      · rintro fits n ⟨row, member, inside⟩
        exact fits row member n inside
      · intro fits row member n inside
        exact fits n ⟨row, member, inside⟩

end Batch

namespace Column

/-- The rows of the column fit the array of its type. -/
def Fits : Column → Prop
  | .numbers _ rows => ∀ n ∈ rows, n.FitsArray
  | .vectors batch => batch.FitsArray
  | _ => True

theorem succeeds_toMessage_iff {column : Column} :
    Request.Succeeds column.toMessage ↔ column.Fits := by
  cases column with
  | bools rows => simp [toMessage, Fits]
  | ints width rows => cases width <;> simp [toMessage, Fits]
  | numbers precision rows =>
      cases precision <;>
        simp [toMessage, Fits, Request.singles, Request.doubles, Request.succeeds_each,
          Request.succeeds_double_iff]
  | texts kind rows => simp [toMessage, Fits]
  | vectors batch => simp [toMessage, Fits, Batch.succeeds_toMessage_iff]

end Column

/-! ## Parameters -/

/-- The dimension of a vector field, which travels as text. -/
def FieldSchema.Fits (f : FieldSchema) : Prop :=
  f.dataType.isVector = true → ∀ n, f.dimension = some n → Number.Printable n

def CollectionSchema.Fits (p : CollectionSchema) : Prop :=
  p.shards < 2 ^ 31 ∧ ∀ f ∈ p.fields, f.Fits

def Insertion.Fits (p : Insertion) : Prop :=
  p.rowCount < 2 ^ 32 ∧ ∀ c ∈ p.columns, c.column.Fits

structure Search.Fits (p : Search) : Prop where
  vectors : p.vectors.FitsTargets
  topK : Number.Printable p.topK
  travelTimestamp : p.travelTimestamp < 2 ^ 64
  guaranteeTimestamp : p.guaranteeTimestamp < 2 ^ 64

def Query.Fits (p : Query) : Prop :=
  p.travelTimestamp < 2 ^ 64 ∧ p.guaranteeTimestamp < 2 ^ 64

def Distance.Fits (p : Distance) : Prop := p.left.FitsArray ∧ p.right.FitsArray

/-- Every number of the parameter is one that its place in the request can hold.  The
parameters of all other operations hold none that could not be. -/
def Operation.Fits : (o : Operation) → o.Param → Prop
  | .createCollection, p => CollectionSchema.Fits p
  | .insert, p => Insertion.Fits p
  | .search, p => Search.Fits p
  | .query, p => Query.Fits p
  | .calcDistance, p => Distance.Fits p
  | _, _ => True

theorem FieldSchema.succeeds_toMessage_iff {f : FieldSchema} :
    Request.Succeeds f.toMessage ↔ f.Fits := by
  rw [toMessage, Request.succeeds_map, pairs, Fits, DataType.isVector]
  cases f.dataType.vectorKind? with
  | none => simp
  | some kind => cases f.dimension <;> simp [Request.succeeds_decimal_iff]

section Requests

variable {title : String} {kw : Keywords}

theorem CollectionSchema.succeeds_request_iff {p : CollectionSchema}
    (built : (blueprint title).build kw = .accepted p) :
    Request.Succeeds p.request ↔ p.Fits := by
  have positive := shards_pos built
  have width : IntWidth.bits32.Fits p.shards ↔ p.shards < 2 ^ 31 := by
    simp only [IntWidth.Fits, IntWidth.limit]
    omega
  rw [request, Request.succeeds_bind fun _ => by
      rw [Request.succeeds_map, Request.succeeds_signed_iff, width],
    schemaMessage, Request.succeeds_map, Request.succeeds_each, and_comm, Fits]
  simp only [FieldSchema.succeeds_toMessage_iff]

theorem Insertion.succeeds_request_iff {p : Insertion} : Request.Succeeds p.request ↔ p.Fits := by
  have width : (p.rowCount : Int) < (2 ^ 32 : Nat) ↔ p.rowCount < 2 ^ 32 := Int.ofNat_lt
  rw [request, Request.succeeds_bind fun _ => by
      rw [Request.succeeds_map, Request.succeeds_unsigned_iff (Int.natCast_nonneg _), width],
    Request.succeeds_each, and_comm, Fits]
  simp only [NamedColumn.toMessage, Request.succeeds_map, Column.succeeds_toMessage_iff]

theorem Query.succeeds_request_iff {p : Query}
    (built : (blueprint title).build kw = .accepted p) :
    Request.Succeeds p.request ↔ p.Fits := by
  obtain ⟨travel, guarantee⟩ := timestamps_nonneg built
  rw [request, Request.succeeds_bind fun _ => by
      rw [Request.succeeds_map, Request.succeeds_unsigned_iff guarantee],
    Request.succeeds_unsigned_iff travel]
  rfl

theorem Search.succeeds_pairs_iff {p : Search} (bounded : p.Bounded) :
    Request.Succeeds p.pairs ↔ Number.Printable p.topK := by
  have few : Number.Printable p.roundDecimal := by
    obtain ⟨least, most⟩ := bounded.roundDecimal
    have single : p.roundDecimal.natAbs < 10 ^ 1 := by omega
    exact Number.printable_of_lt single (by decide)
  rw [pairs, Request.succeeds_bind fun _ => by
      rw [Request.succeeds_map, Request.succeeds_decimal_iff],
    Request.succeeds_decimal_iff, and_iff_left few]

theorem Search.succeeds_request_iff {p : Search}
    (built : (blueprint title).build kw = .accepted p) :
    Request.Succeeds p.request ↔ p.Fits := by
  have bounded := bounded_of_build built
  rw [request, Request.succeeds_bind fun _ => Request.succeeds_bind fun _ =>
      Request.succeeds_bind fun _ => by
        rw [Request.succeeds_map, Request.succeeds_unsigned_iff bounded.guaranteeTimestamp],
    Batch.succeeds_placeholderGroup_iff, succeeds_pairs_iff bounded,
    Request.succeeds_unsigned_iff bounded.travelTimestamp]
  exact ⟨fun ⟨vectors, topK, travel, guarantee⟩ => ⟨vectors, topK, travel, guarantee⟩,
    fun fits => ⟨fits.vectors, fits.topK, fits.travelTimestamp, fits.guaranteeTimestamp⟩⟩

theorem Distance.succeeds_request_iff {p : Distance} : Request.Succeeds p.request ↔ p.Fits := by
  have operand : ∀ b : Batch, Request.Succeeds b.toOperand ↔ b.FitsArray := fun b => by
    rw [Batch.toOperand, Request.succeeds_map, Batch.succeeds_toMessage_iff]
  rw [request, Request.succeeds_bind fun _ => by rw [Request.succeeds_map, operand], operand, Fits]

end Requests

/-- An accepted parameter has a request exactly if it fits. -/
theorem Operation.succeeds_request_iff {o : Operation} {p : o.Param} {kw : Keywords}
    (built : o.blueprint.build kw = .accepted p) :
    Request.Succeeds (o.request p) ↔ o.Fits p := by
  cases o with
  | createCollection => exact CollectionSchema.succeeds_request_iff built
  | insert => exact Insertion.succeeds_request_iff
  | search => exact Search.succeeds_request_iff built
  | query => exact Query.succeeds_request_iff built
  | calcDistance => exact Distance.succeeds_request_iff
  | _ => exact iff_of_true (Request.succeeds_ok _) trivial

end VectorClient
