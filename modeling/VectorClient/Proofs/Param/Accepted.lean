/-
# VectorClient.Proofs.Param.Accepted — what acceptance promises

What requests rely on is checked when a parameter is built: a batch has vectors of
one positive length (`Batch.Uniform`), the integers of a column fit its width
(`Column.WellFormed`), the columns of an insertion have one row count, and the
metric of a search compares vectors of the batch's kind.

* `VectorRow.ofValue_eq_ok_iff`, `Batch.ofValues_eq_ok_iff`: which values are vectors, and
  which lists of them are batches.
* `Column.ofValues_eq_ok_iff`: which values a column of a type holds.
-/
import VectorClient.Param.Lookup
import VectorClient.Param.Rows
import VectorClient.Proofs.Form.Acceptance

namespace VectorClient

set_option autoImplicit false

theorem map_eq_ok_iff {ε α β : Type} {x : Except ε α} {f : α → β} {b : β} :
    x.map f = .ok b ↔ ∃ a, x = .ok a ∧ f a = b := by
  cases x <;> simp [Except.map]

theorem bind_eq_ok_iff {ε α β : Type} {x : Except ε α} {f : α → Except ε β} {b : β} :
    x.bind f = .ok b ↔ ∃ a, x = .ok a ∧ f a = .ok b := by
  cases x <;> simp [Except.bind]

theorem map_eq_error_iff {ε α β : Type} {x : Except ε α} {f : α → β} {e : ε} :
    x.map f = .error e ↔ x = .error e := by
  cases x <;> simp [Except.map]

theorem bind_eq_error_iff {ε α β : Type} {x : Except ε α} {f : α → Except ε β} {e : ε} :
    x.bind f = .error e ↔ x = .error e ∨ ∃ a, x = .ok a ∧ f a = .error e := by
  cases x <;> simp [Except.bind]

theorem exists_eq_ok_of_toBool {ε α : Type} {x : Except ε α} (succeeds : x.toBool = true) :
    ∃ a, x = .ok a := by
  cases x with
  | ok a => exact ⟨a, rfl⟩
  | error e => simp [Except.toBool] at succeeds

/-- A parameter is built exactly if its keywords are known, its fields are read and its
cross-field check is passed. -/
theorem Blueprint.build_eq_accepted_iff {α : Type} {b : Blueprint α} {kw : Keywords} {a : α} :
    b.build kw = .accepted a ↔
      b.namesReceiver kw = false ∧ b.unknown kw = [] ∧
        ∃ raw, b.fields.read kw = .accepted raw ∧ b.pack raw = .ok a := by
  unfold build buildFields
  cases b.namesReceiver kw with
  | true => simp
  | false =>
      simp only [Bool.false_eq_true, if_false, Verdict.bind_eq_accepted_iff,
        Verdict.alsoRefuse_eq_accepted_iff]
      constructor
      · rintro ⟨raw, ⟨read, known⟩, packed⟩
        refine ⟨trivial, known, raw, read, ?_⟩
        cases back : b.pack raw with
        | ok a' => simpa [back] using packed
        | error cause => simp [back, Verdict.refuse] at packed
      · rintro ⟨-, known, raw, read, packed⟩
        exact ⟨raw, ⟨read, known⟩, by rw [packed]⟩

/-- Once the fields are read and no keyword is left over, the cross-field check decides. -/
theorem Blueprint.build_of_read {α : Type} {b : Blueprint α} {kw : Keywords} {raw : b.Raw}
    (own : b.namesReceiver kw = false) (known : b.unknown kw = [])
    (read : b.fields.read kw = .accepted raw) :
    b.build kw = match b.pack raw with
      | .ok a => .accepted a
      | .error cause => .refuse (.inconsistent cause) := by
  rw [build, own, buildFields, read, known]
  rfl

/-! ## Batches -/

/-- The length of the first row. -/
def rowLength {α : Type} (rows : List (List α)) : Nat := (rows.head?.map List.length).getD 0

/-- Rows that all have the positive length of the first one. -/
structure UniformRows {α : Type} (rows : List (List α)) : Prop where
  positive : 0 < rowLength rows
  uniform : ∀ row ∈ rows, row.length = rowLength rows

/-- The vectors of a batch have one positive length. -/
def Batch.Uniform : Batch → Prop
  | .binary rows => UniformRows rows
  | .float rows => UniformRows rows

namespace VectorRow

theorem numbers?_eq_some_iff {items : List Value} {row : List Number} :
    numbers? items = some row ↔ items = row.map .number := by
  induction items generalizing row with
  | nil =>
      cases row <;> simp [numbers?]
  | cons item items ih =>
      cases row with
      | nil => cases item <;> simp [numbers?]
      | cons n row => cases item <;> simp [numbers?, ih, and_left_comm]

/-- A vector is read from its byte string, or from the numbers of its row. -/
theorem ofValue_eq_ok_iff {v : Value} {row : VectorRow} :
    ofValue v = .ok row ↔
      (∃ bs, v.asBytes? = some bs ∧ bs ≠ [] ∧ row = .binary bs) ∨
        ∃ ns, v.asRow? = some (ns.map .number) ∧ ns ≠ [] ∧ row = .float ns := by
  have ofBytes_iff : ∀ bs, ofBytes bs = .ok row ↔ bs ≠ [] ∧ row = .binary bs := by
    intro bs
    cases bs <;> simp [ofBytes, eq_comm]
  have ofItems_iff : ∀ items, ofItems items = .ok row ↔
      ∃ ns, items = ns.map .number ∧ ns ≠ [] ∧ row = .float ns := by
    intro items
    cases items with
    | nil => simp [ofItems]
    | cons item rest =>
        have read : ofItems (item :: rest) = .ok row ↔
            ∃ ns, numbers? (item :: rest) = some ns ∧ row = .float ns := by
          simp only [ofItems]
          cases numbers? (item :: rest) <;> simp [eq_comm]
        rw [read]
        refine exists_congr fun ns => ?_
        rw [numbers?_eq_some_iff]
        refine and_congr_right fun same => (and_iff_right ?_).symm
        rintro rfl
        cases same
  cases v with
  | bytes bs | byteArray bs => simp [ofValue, Value.asBytes?, Value.asRow?, ofBytes_iff]
  | list items | tuple items => simp [ofValue, Value.asBytes?, Value.asRow?, ofItems_iff]
  | _ => simp [ofValue, Value.asBytes?, Value.asRow?]

/-- A value that is read as a vector is not empty. -/
theorem length_pos_of_ofValue {v : Value} {row : VectorRow} (read : ofValue v = .ok row) :
    0 < row.length := by
  rcases ofValue_eq_ok_iff.mp read with ⟨bs, -, some, rfl⟩ | ⟨ns, -, some, rfl⟩
  · exact List.length_pos_iff.mpr some
  · exact List.length_pos_iff.mpr some

/-- A further vector of a batch is a vector that agrees with the first one. -/
theorem ofValueLike_eq_ok_iff {first row : VectorRow} {v : Value} :
    ofValueLike first v = .ok row ↔
      ofValue v = .ok row ∧ row.kind = first.kind ∧ row.length = first.length := by
  constructor
  · intro read
    unfold ofValueLike at read
    split at read
    · cases read
    · rename_i row' own
      split at read
      · cases read
      · rename_i kind
        split at read
        · cases read
        · rename_i length
          cases read
          exact ⟨own, Decidable.not_not.mp kind, Decidable.not_not.mp length⟩
  · rintro ⟨read, kind, length⟩
    simp [ofValueLike, read, kind, length]

theorem ofValuesLike_eq_ok_iff {first : VectorRow} :
    ∀ {vs : List Value} {rows : List VectorRow}, ofValuesLike first vs = .ok rows ↔
      List.Forall₂ (fun v row => ofValueLike first v = .ok row) vs rows
  | [], rows => by simp [ofValuesLike, eq_comm]
  | v :: vs, rows => by
      rw [ofValuesLike, List.forall₂_cons_left_iff]
      cases read : ofValueLike first v with
      | error fault => simp
      | ok row =>
          simp only [map_eq_ok_iff, ofValuesLike_eq_ok_iff, Except.ok.injEq]
          constructor
          · rintro ⟨more, later, rfl⟩
            exact ⟨row, more, rfl, later, rfl⟩
          · rintro ⟨_, more, rfl, later, rfl⟩
            exact ⟨more, later, rfl⟩

/-- Further vectors of a batch agree with the first. -/
theorem forall_like {first : VectorRow} {vs : List Value} {rows : List VectorRow}
    (along : List.Forall₂ (fun v row => ofValueLike first v = .ok row) vs rows) :
    ∀ row ∈ rows, row.kind = first.kind ∧ row.length = first.length :=
  forall_mem_of_forall₂ along fun _ _ like => (ofValueLike_eq_ok_iff.mp like).2

end VectorRow

namespace Batch

/-- A batch is a first vector and further ones that agree with it. -/
theorem ofValues_eq_ok_iff {vs : List Value} {b : Batch} :
    ofValues vs = .ok b ↔ ∃ v rest first rows, vs = v :: rest ∧ VectorRow.ofValue v = .ok first ∧
      List.Forall₂ (fun v row => VectorRow.ofValueLike first v = .ok row) rest rows ∧
      ofRows first rows = b := by
  cases vs with
  | nil => simp [ofValues]
  | cons v rest =>
      simp only [ofValues]
      cases read : VectorRow.ofValue v with
      | error fault => simp [read]
      | ok first => simp [read, map_eq_ok_iff, VectorRow.ofValuesLike_eq_ok_iff]

/-- A batch that was read has rows of one length. -/
theorem uniform_of_ofValues {vs : List Value} {b : Batch} (read : ofValues vs = .ok b) :
    b.Uniform := by
  obtain ⟨v, rest, first, rows, rfl, here, later, rfl⟩ := ofValues_eq_ok_iff.mp read
  have positive := VectorRow.length_pos_of_ofValue here
  have like := VectorRow.forall_like later
  cases first with
  | binary row =>
      refine ⟨positive, fun r member => ?_⟩
      rcases List.mem_cons.mp member with rfl | member
      · rfl
      · obtain ⟨r', member', found⟩ := List.mem_filterMap.mp member
        cases r' with
        | binary _ =>
            cases found
            exact (like _ member').2
        | float _ => cases found
  | float row =>
      refine ⟨positive, fun r member => ?_⟩
      rcases List.mem_cons.mp member with rfl | member
      · rfl
      · obtain ⟨r', member', found⟩ := List.mem_filterMap.mp member
        cases r' with
        | binary _ => cases found
        | float _ =>
            cases found
            exact (like _ member').2

end Batch

/-! ## Columns -/

namespace Column

/-- The integers of a column fit its width, and its vectors have one length. -/
def WellFormed : Column → Prop
  | .ints width rows => ∀ n ∈ rows, width.Fits n
  | .vectors batch => batch.Uniform
  | _ => True

theorem pickRows_eq_ok_iff {α : Type} {pick : Value → Option α} :
    ∀ {first : Nat} {vs : List Value} {as : List α}, pickRows pick first vs = .ok as ↔
      List.Forall₂ (fun v a => pick v = some a) vs as
  | first, [], as => by simp [pickRows, eq_comm]
  | first, v :: vs, as => by
      rw [pickRows, List.forall₂_cons_left_iff]
      cases picked : pick v with
      | none => simp
      | some a =>
          simp only [map_eq_ok_iff, pickRows_eq_ok_iff, Option.some.injEq]
          constructor
          · rintro ⟨more, later, rfl⟩
            exact ⟨a, more, rfl, later, rfl⟩
          · rintro ⟨_, more, rfl, later, rfl⟩
            exact ⟨more, later, rfl⟩

theorem pickInt_eq_some_iff {width : IntWidth} {v : Value} {n : Int} :
    pickInt width v = some n ↔ v = Value.int n ∧ width.Fits n := by
  unfold pickInt
  split
  · rename_i m
    split
    · rename_i fits
      simp only [Option.some.injEq, Value.int, Value.number.injEq, Number.int.injEq]
      constructor
      · rintro rfl
        exact ⟨rfl, fits⟩
      · exact And.left
    · rename_i outside
      simp only [Value.int, Value.number.injEq, Number.int.injEq]
      refine iff_of_false nofun ?_
      rintro ⟨rfl, fits⟩
      exact outside fits
  · rename_i other
    refine iff_of_false nofun ?_
    rintro ⟨rfl, -⟩
    exact other n rfl

/-- The values that a column was read from, row by row. -/
def Holds : Column → List Value → Prop
  | .bools rows, vs => List.Forall₂ (fun v b => pickBool v = some b) vs rows
  | .ints width rows, vs => List.Forall₂ (fun v n => pickInt width v = some n) vs rows
  | .numbers _ rows, vs => List.Forall₂ (fun v n => pickNumber v = some n) vs rows
  | .texts _ rows, vs => List.Forall₂ (fun v s => v.asText? = some s) vs rows
  | .vectors batch, vs => Batch.ofValues vs = .ok batch

/-- A column of a type is read from the values that it holds. -/
theorem ofValues_eq_ok_iff {name : String} {t : DataType} {vs : List Value} {column : Column} :
    ofValues name t vs = .ok column ↔ column.dataType = t ∧ column.Holds vs := by
  constructor
  · intro read
    unfold ofValues at read
    split at read
    · rename_i kind vectors
      unfold ofBatch at read
      split at read
      · cases read
      · rename_i batch ofBatch
        split at read
        · rename_i same
          cases read
          have named : kind.dataType = t := by
            cases t <;> cases vectors <;> rfl
          exact ⟨(congrArg VectorKind.dataType same).trans named, ofBatch⟩
        · cases read
    · cases t with
      | bool | int8 | int16 | int32 | int64 | float | double | string | varchar =>
          simp only [scalars] at read
          split at read
          · rename_i picked
            cases read
            exact ⟨rfl, pickRows_eq_ok_iff.mp picked⟩
          · cases read
      | unset | binaryVector | floatVector => cases read
  · rintro ⟨rfl, holds⟩
    cases column with
    | bools rows =>
        have picked : pickRows pickBool 0 vs = .ok rows := pickRows_eq_ok_iff.mpr holds
        simp only [dataType, ofValues, DataType.vectorKind?, scalars, picked]
    | ints width rows =>
        have picked : pickRows (pickInt width) 0 vs = .ok rows := pickRows_eq_ok_iff.mpr holds
        cases width <;>
          simp only [dataType, IntWidth.dataType, ofValues, DataType.vectorKind?, scalars, picked]
    | numbers precision rows =>
        have picked : pickRows pickNumber 0 vs = .ok rows := pickRows_eq_ok_iff.mpr holds
        cases precision <;>
          simp only [dataType, Precision.dataType, ofValues, DataType.vectorKind?, scalars, picked]
    | texts kind rows =>
        have picked : pickRows Value.asText? 0 vs = .ok rows := pickRows_eq_ok_iff.mpr holds
        cases kind <;>
          simp only [dataType, TextKind.dataType, ofValues, DataType.vectorKind?, scalars, picked]
    | vectors batch =>
        have made : Batch.ofValues vs = .ok batch := holds
        have kind : batch.kind.dataType.vectorKind? = some batch.kind := by
          cases batch <;> rfl
        simp only [dataType, ofValues, kind, ofBatch, made, if_pos]

/-- A column that was read is well-formed. -/
theorem wellFormed_of_ofValues {name : String} {t : DataType} {vs : List Value} {column : Column}
    (read : ofValues name t vs = .ok column) : column.WellFormed := by
  obtain ⟨-, holds⟩ := ofValues_eq_ok_iff.mp read
  cases column with
  | ints width rows =>
      exact forall_mem_of_forall₂ holds fun _ _ picked => (pickInt_eq_some_iff.mp picked).2
  | vectors batch => exact Batch.uniform_of_ofValues holds
  | _ => trivial

end Column

/-! ## Insertions -/

/-- A named column that can have been built. -/
def NamedColumn.Accepted (c : NamedColumn) : Prop := ∃ kw, blueprint.build kw = .accepted c

theorem NamedColumn.Accepted.wellFormed {c : NamedColumn} (accepted : c.Accepted) :
    c.column.WellFormed := by
  obtain ⟨kw, built⟩ := accepted
  obtain ⟨⟨name, t, rows, ⟨⟩⟩, -, packed⟩ :=
    (Blueprint.build_eq_accepted_iff.mp built).2.2
  obtain ⟨column, read, rfl⟩ := map_eq_ok_iff.mp packed
  exact Column.wellFormed_of_ofValues read

/-- An insertion that can have been built, from columns that can have been built. -/
structure Insertion.Accepted (p : Insertion) : Prop where
  built : ∃ title kw, (blueprint title).build kw = .accepted p
  columns : ∀ c ∈ p.columns, c.Accepted

theorem Insertion.rowCount_eq_of_consistent {p : Insertion} (consistent : p.inconsistency? = none) :
    ∀ c ∈ p.columns, c.column.rowCount = p.rowCount := by
  intro c member
  refine Decidable.byContradiction fun differ => ?_
  have differs : (p.columns.map fun c => c.column.rowCount).any (· != p.rowCount) = true :=
    List.any_eq_true.mpr ⟨_, List.mem_map_of_mem member, by simpa using differ⟩
  simp [inconsistency?, differs] at consistent

/-- All columns of an insertion have its row count. -/
theorem Insertion.Accepted.rowCount_eq {p : Insertion} (accepted : p.Accepted) :
    ∀ c ∈ p.columns, c.column.rowCount = p.rowCount := by
  obtain ⟨title, kw, built⟩ := accepted.built
  obtain ⟨⟨collection, partitionName, columns, ⟨⟩⟩, -, packed⟩ :=
    (Blueprint.build_eq_accepted_iff.mp built).2.2
  simp only [blueprint] at packed
  split at packed
  · cases packed
  · rename_i consistent
    cases packed
    exact rowCount_eq_of_consistent consistent

/-! ## Searches -/

/-- The target vectors of a search have one length, and its metric is for their kind. -/
theorem Search.uniform_and_kind_of_build {title : String} {kw : Keywords} {p : Search}
    (built : (blueprint title).build kw = .accepted p) :
    p.vectors.Uniform ∧ p.metric.kind = p.vectors.kind := by
  obtain ⟨⟨collection, partitions, metric, field, topK, expr, outFields, rows, roundDecimal,
    params, travelTimestamp, guaranteeTimestamp, ⟨⟩⟩, -, packed⟩ :=
    (Blueprint.build_eq_accepted_iff.mp built).2.2
  simp only [blueprint] at packed
  split at packed
  · cases packed
  · rename_i vectors read
    split at packed
    · cases packed
    · rename_i fits
      cases packed
      refine ⟨Batch.uniform_of_ofValues read, ?_⟩
      unfold MetricType.mismatch? at fits
      split at fits
      · assumption
      · cases fits

end VectorClient
