/-
# VectorClient.Proofs.Request.Components — the components of vectors, written in two ways

A vector that is inserted or compared lies in one array with all others; a vector that
is searched for is written by itself.  Both ways spend four bytes on a component, and
wherever both succeed they are the same bytes.  They part at components past the last
four-byte number: an array holds an infinity there, and a target vector is refused.

* `each_eq_ok_iff`: a list is converted element by element.
* `components_of_row`: the bytes of a vector as a value are those of its numbers.
* `single_of_component`: what a target vector takes, an array takes, as the same bytes.
* `vector_encodings_compare`: both ways beside each other, for every batch of vectors of
  numbers; `vector_encodings_part` is where they part.
-/
import VectorClient.Failure
import VectorClient.Proofs.Request.Fitting
import VectorClient.Proofs.Wire.Messages

namespace VectorClient

set_option autoImplicit false

open Number Wire

/-! ## One number -/

namespace Number

/-- The first integer that a target vector refuses is one that arrays still take. -/
theorem FitsTarget.fitsArray {n : Number} (fits : n.FitsTarget) : n.FitsArray := by
  cases n with
  | int n =>
      have further := Double.singleOverflow_lt_overflow
      change n.natAbs < Double.singleOverflow - 2 ^ 74 at fits
      show n.natAbs < Double.overflow
      omega
  | double d => trivial

end Number

namespace Request

/-- The four bytes of a number in an array. -/
def single (n : Number) : Except Fault (List UInt8) :=
  (double n).map fun d => floatBytes (d.convert .single)

/-- A component that a target vector takes is written as the same bytes in an array. -/
theorem single_of_component {n : Number} {element : List UInt8}
    (written : component n = .ok element) : single n = .ok element := by
  unfold component at written
  split at written
  · cases written
  · rename_i d rounded
    split at written
    · cases written
    · cases written
      simp [single, double, rounded, Except.map]

/-- What a target vector refuses and has a double is infinite as a four-byte number. -/
theorem exists_infinite_of_not_fitsTarget {n : Number} {d : Double}
    (rounded : n.toDouble? = some d) (past : ¬ n.FitsTarget) :
    ∃ sign, (d.convert .single : Single) = .infinite sign := by
  rw [← succeeds_component_iff] at past
  unfold component at past
  rw [rounded] at past
  dsimp only at past
  split at past
  · rename_i sign infinite
    exact ⟨sign, infinite⟩
  · exact absurd (succeeds_ok _) past

/-! ## Element by element -/

/-- A list is converted exactly if each element is, to the element at its place. -/
theorem each_eq_ok_iff {α β : Type} {f : α → Except Fault β} {as : List α} {bs : List β} :
    each f as = .ok bs ↔ List.Forall₂ (fun a b => f a = .ok b) as bs := by
  constructor
  · intro converted
    exact forall₂_of_each (fun a _ b here => here) converted
  · intro along
    induction along with
    | nil => rfl
    | cons here _ ih => simp only [each, here, ih, Except.map]

theorem each_map {α β γ : Type} {f : β → Except Fault γ} {g : α → β} (as : List α) :
    each f (as.map g) = each (fun a => f (g a)) as := by
  induction as with
  | nil => rfl
  | cons a as ih => rw [List.map_cons, each, each, ih]

/-- The bytes of one target vector. -/
def vectorBytes (row : List Number) : Except Fault (List UInt8) :=
  (each component row).map List.flatten

/-- Vectors that are written one by one are written end to end as the same bytes. -/
theorem singles_of_vectorBytes {rows : List (List Number)} {values : List (List UInt8)}
    (along : List.Forall₂ (fun row value => vectorBytes row = .ok value) rows values) :
    ∃ elements, singles rows.flatten = .ok elements ∧ elements.flatten = values.flatten := by
  induction along with
  | nil => exact ⟨[], rfl, rfl⟩
  | @cons row value rows values here _ ih =>
      obtain ⟨front, components, rfl⟩ := map_eq_ok_iff.mp here
      obtain ⟨back, written, same⟩ := ih
      have first : List.Forall₂ (fun n element => single n = .ok element) row front :=
        (each_eq_ok_iff.mp components).imp fun _ _ => single_of_component
      have later : List.Forall₂ (fun n element => single n = .ok element) rows.flatten back :=
        each_eq_ok_iff.mp written
      refine ⟨front ++ back, each_eq_ok_iff.mpr ?_, ?_⟩
      · exact List.rel_append first later
      · rw [List.flatten_append, same, List.flatten_cons]

end Request

/-! ## One vector -/

namespace VectorRow

/-- A vector of numbers holds nothing but its numbers. -/
theorem elements?_of_ofValue {v : Value} {row : List Number} (read : ofValue v = .ok (.float row)) :
    v.elements? = some (row.map .number) := by
  rcases ofValue_eq_ok_iff.mp read with ⟨bs, -, -, made⟩ | ⟨ns, items, -, made⟩
  · cases made
  · cases made
    cases v with
    | list items' | tuple items' => exact items
    | _ => cases items

/-- The bytes of a vector as a value are those of its numbers. -/
theorem components_of_row {v : Value} {row : List Number} (read : ofValue v = .ok (.float row)) :
    Request.components v = (Request.vectorBytes row).mapError .request := by
  rw [Request.components, elements?_of_ofValue read]
  dsimp only
  rw [Request.each_map]
  rfl

theorem components_eq_ok_iff {v : Value} {row : List Number} {bytes : List UInt8}
    (read : ofValue v = .ok (.float row)) :
    Request.components v = .ok bytes ↔ Request.vectorBytes row = .ok bytes := by
  rw [components_of_row read]
  cases Request.vectorBytes row <;> simp [Except.mapError]

/-- Values and the vectors of numbers that they are read as, beside the bytes of the values. -/
theorem vectorBytes_of_components {vs : List Value} {rows : List (List Number)}
    {values : List (List UInt8)}
    (read : List.Forall₂ (fun v row => ofValue v = .ok (.float row)) vs rows)
    (written : List.Forall₂ (fun v value => Request.components v = .ok value) vs values) :
    List.Forall₂ (fun row value => Request.vectorBytes row = .ok value) rows values := by
  induction read generalizing values with
  | nil =>
      cases written
      exact .nil
  | cons here _ ih =>
      cases written with
      | cons first later => exact .cons ((components_eq_ok_iff here).mp first) (ih later)

/-! ## Further vectors of a batch -/

/-- Behind a vector of numbers there are only vectors of numbers. -/
theorem floats_of_like {first : List Number} {vs : List Value} {others : List VectorRow}
    (like : List.Forall₂ (fun v row => ofValueLike (.float first) v = .ok row) vs others) :
    List.Forall₂ (fun v row => ofValue v = .ok (.float row)) vs (others.filterMap float?) := by
  induction like with
  | nil => exact .nil
  | @cons v row vs others here _ ih =>
      obtain ⟨read, kind, -⟩ := ofValueLike_eq_ok_iff.mp here
      -- A row that agrees with the first one is a row of numbers as well.
      cases row with
      | binary row => cases kind
      | float row => exact .cons read ih

end VectorRow

/-! ## Batches -/

namespace Batch

/-- A batch of vectors of numbers holds those of its values, in order. -/
theorem rows_of_ofValues {vs : List Value} {rows : List (List Number)}
    (read : ofValues vs = .ok (.float rows)) :
    List.Forall₂ (fun v row => VectorRow.ofValue v = .ok (.float row)) vs rows := by
  obtain ⟨v, rest, first, others, rfl, here, like, made⟩ := ofValues_eq_ok_iff.mp read
  cases first with
  | binary row => cases made
  | float row =>
      cases made
      exact .cons here (VectorRow.floats_of_like like)

/-- The bytes of the components that a message of vectors carries. -/
def componentBytes? (m : Message) : Option (List UInt8) :=
  (m.messageOf? 2).map fun array => array.bytesOf 1

/-- The components of a batch lie in its message as their bytes, end to end. -/
theorem componentBytes?_of_toMessage {rows : List (List Number)} {m : Message}
    (written : (Batch.float rows).toMessage = .ok m) :
    ∃ elements, Request.singles rows.flatten = .ok elements ∧
      componentBytes? m = some elements.flatten := by
  obtain ⟨dimension, signed, arrayed⟩ := bind_eq_ok_iff.mp written
  obtain ⟨rfl, -⟩ := Request.eq_integer_of_signed signed
  obtain ⟨vectors, array, laid⟩ := map_eq_ok_iff.mp arrayed
  obtain ⟨elements, singles, rfl⟩ := map_eq_ok_iff.mp array
  have inner : m.messageOf? 2 = some (Message.packed 1 elements) :=
    Message.messageOf?_eq (by simp [← laid])
  have bytes : (Message.packed 1 elements).bytesOf 1 = elements.flatten :=
    Message.bytesOf_eq (.inl (by simp))
  exact ⟨elements, singles, by rw [componentBytes?, inner, Option.map_some, bytes]⟩

/-- Every vector of the batch is a target exactly if all components fit one. -/
theorem targets_iff {vs : List Value} {rows : List (List Number)}
    (read : ofValues vs = .ok (.float rows)) :
    (∀ v ∈ vs, ∃ bytes, Request.components v = .ok bytes) ↔ (Batch.float rows).FitsTargets := by
  have along := rows_of_ofValues read
  show _ ↔ ∀ n ∈ rows.flatten, n.FitsTarget
  clear read
  induction along with
  | nil => simp
  | @cons v row vs rows here _ ih =>
      have first : (∃ bytes, Request.components v = .ok bytes) ↔ ∀ n ∈ row, n.FitsTarget := by
        simp only [VectorRow.components_eq_ok_iff here]
        show Request.Succeeds (Request.vectorBytes row) ↔ _
        rw [Request.vectorBytes, Request.succeeds_map, Request.succeeds_each]
        simp only [Request.succeeds_component_iff]
      rw [List.forall_mem_cons, first, ih, List.flatten_cons, List.forall_mem_append]

/-- The two ways in which vectors of numbers are written, beside each other. -/
structure Compared (vs : List Value) (rows : List (List Number)) : Prop where
  /-- What can be searched for can be inserted, unless there are too many components. -/
  insertable : (∀ v ∈ vs, ∃ bytes, Request.components v = .ok bytes) →
    ((∃ m, (Batch.float rows).toMessage = .ok m) ↔ (Batch.float rows).dimension < 2 ^ 63)
  /-- What can be inserted can be searched for exactly if no component is past the last
  four-byte number. -/
  searchable : (∃ m, (Batch.float rows).toMessage = .ok m) →
    ((∀ v ∈ vs, ∃ bytes, Request.components v = .ok bytes) ↔ (Batch.float rows).FitsTargets)
  /-- Where both succeed, they give the same bytes. -/
  same : ∀ m values, (Batch.float rows).toMessage = .ok m →
    List.Forall₂ (fun v value => Request.components v = .ok value) vs values →
      componentBytes? m = some values.flatten
  /-- An array rounds each component to nearest, and what no target vector takes is an
  infinity there. -/
  infinite : ∀ m, (Batch.float rows).toMessage = .ok m →
    ∃ xs : List Single, componentBytes? m = some (xs.map floatBytes).flatten ∧
      List.Forall₂ (fun n x => n.RoundsToSingle x ∧
        (¬ n.FitsTarget → ∃ sign, x = .infinite sign)) rows.flatten xs

end Batch

/-- **Vectors of numbers are written as the same bytes for an insertion and for a search**,
wherever both succeed.  They differ in what they refuse: a component past the last four-byte
number is an infinity in an insertion, and is refused by a search. -/
theorem vector_encodings_compare {vs : List Value} {rows : List (List Number)}
    (read : Batch.ofValues vs = .ok (.float rows)) : Batch.Compared vs rows where
  insertable targets := by
    have fits := (Batch.targets_iff read).mp targets
    have components : ∀ n ∈ (Batch.float rows).components, n.FitsArray :=
      fun n member => (fits n member).fitsArray
    show Request.Succeeds _ ↔ _
    rw [Batch.succeeds_toMessage_iff, Batch.FitsArray, and_iff_left components]
  searchable _ := Batch.targets_iff read
  same m values written targets := by
    obtain ⟨elements, singles, bytes⟩ := Batch.componentBytes?_of_toMessage written
    have vectors := VectorRow.vectorBytes_of_components (Batch.rows_of_ofValues read) targets
    obtain ⟨elements', singles', same⟩ := Request.singles_of_vectorBytes vectors
    obtain rfl : elements = elements' := Except.ok.inj (singles.symm.trans singles')
    rw [bytes, same]
  infinite m written := by
    obtain ⟨elements, singles, bytes⟩ := Batch.componentBytes?_of_toMessage written
    have converts : ∀ n element, Request.single n = .ok element →
        ∃ x : Single, (n.RoundsToSingle x ∧ (¬ n.FitsTarget → ∃ sign, x = .infinite sign)) ∧
          element = floatBytes x := by
      intro n element converted
      obtain ⟨d, double, rfl⟩ := map_eq_ok_iff.mp converted
      have rounded := Request.toDouble?_of_double double
      exact ⟨d.convert .single, ⟨roundsToSingle_convert rounded,
        Request.exists_infinite_of_not_fitsTarget rounded⟩, rfl⟩
    obtain ⟨xs, rounds, rfl⟩ := Request.exists_of_each converts singles
    exact ⟨xs, bytes, rounds⟩

/-- Two vectors, with an integer between two four-byte numbers. -/
def Batch.twoVectors : List Value :=
  [.list [Value.int 16777217, Value.int (-2)], .tuple [Value.int 3, Value.int 4]]

theorem Batch.ofValues_twoVectors : Batch.ofValues Batch.twoVectors =
    .ok (.float [[.int 16777217, .int (-2)], [.int 3, .int 4]]) := rfl

theorem vector_encodings_compare_twoVectors :
    Batch.Compared Batch.twoVectors [[.int 16777217, .int (-2)], [.int 3, .int 4]] :=
  vector_encodings_compare Batch.ofValues_twoVectors

/-- One component, past the last four-byte number: ten to the thirty-ninth. -/
def Batch.pastSingleRow : List Number := [.double (Double.ofInt (10 ^ 39))]

def Batch.pastSingle : List Value := [.list (pastSingleRow.map .number)]

/-- It can be inserted, as an infinity, and not be searched for. -/
theorem vector_encodings_part :
    ∃ rows m, Batch.ofValues Batch.pastSingle = .ok (.float rows) ∧
      (Batch.float rows).toMessage = .ok m ∧
        Batch.componentBytes? m = some [0x00, 0x00, 0x80, 0x7f] ∧
          ∀ v ∈ Batch.pastSingle, Request.components v = .error (.request .componentTooLarge) := by
  have written : (Batch.float [Batch.pastSingleRow]).toMessage =
      .ok [⟨1, .number 1⟩, ⟨2, .run [0x0a, 4, 0x00, 0x00, 0x80, 0x7f]⟩] := by
    decide +kernel
  have refused : Request.vectorBytes Batch.pastSingleRow = .error .componentTooLarge := by
    decide +kernel
  refine ⟨[Batch.pastSingleRow], _, rfl, written, by decide +kernel, ?_⟩
  intro v member
  obtain rfl := List.mem_singleton.mp member
  have row : VectorRow.ofValue (.list (Batch.pastSingleRow.map .number)) =
      .ok (.float Batch.pastSingleRow) := rfl
  exact (VectorRow.components_of_row row).trans (by rw [refused]; rfl)

end VectorClient
