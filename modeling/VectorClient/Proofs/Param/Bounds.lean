/-
# VectorClient.Proofs.Param.Bounds — numbers within bounds

An accepted number is within the bounds of its field, and so is a default that
stands in for it.  What holds of everything a field reads, and of its default,
holds of the field (`Fields.readField_ensures`).

* `Codec.Bounds.fault?_eq_none_iff`: within bounds, each bound for itself.
* `Codec.between_of_integer`, `Codec.isPositive_of_seconds`: integers, and numbers of
  seconds, which are finite where they have an upper bound.
* `CollectionSchema.shards_pos`, `Query.timestamps_nonneg`, `Search.bounded_of_build`: the
  integers of parameters.
* `Pacing.ReadFrom.ensures`: what the limits of a pacing and its defaults have in common
  holds of every pacing that is read.
* `Operation.isPositive_of_pacing?`: an operation that waits sleeps for a positive and
  finite time, and waits for a finite one.
-/
import VectorClient.Operation
import VectorClient.Proofs.Number.Overflow
import VectorClient.Proofs.Param.Accepted

namespace VectorClient

set_option autoImplicit false

open Number

/-! ## Numbers within bounds -/

namespace Number

theorem int_le_int_iff {m n : Int} : (Number.int m).le (.int n) = true ↔ m ≤ n := by
  have positive : (0 : Int) < Double.one := Int.ofNat_lt.mpr Double.one_pos
  simp only [Number.le, place?, Place.le, decide_eq_true_iff]
  exact Int.mul_le_mul_right positive

theorem int_lt_int_iff {m n : Int} : (Number.int m).lt (.int n) = true ↔ m < n := by
  have reverse : (Number.int m).lt (.int n) = !(Number.int n).le (.int m) := rfl
  rw [reverse, Bool.not_eq_true', ← Bool.not_eq_true, int_le_int_iff, Int.not_le]

namespace Double

/-- The double is finite and above zero. -/
def IsPositive (d : Double) : Prop := d.signedUnits?.any (0 < ·) = true

instance (d : Double) : Decidable d.IsPositive := inferInstanceAs (Decidable (_ = true))

theorem isPositive_iff {d : Double} :
    d.IsPositive ↔ ∃ units, d.signedUnits? = some units ∧ 0 < units := by
  simp [IsPositive, Option.any_eq_true]

theorem zero_lt_double_iff {d : Double} {units : Int} (finite : d.signedUnits? = some units) :
    (Number.int 0).lt (.double d) = true ↔ 0 < units := by
  have zero : (Number.int 0).place? = some (.finite 0) :=
    congrArg (fun n => some (Place.finite n)) (Int.zero_mul _)
  have place : (Number.double d).place? = some (.finite units) := by
    cases d with
    | nan | infinite negative => cases finite
    | finite negative rank => exact congrArg (Option.map Place.finite) finite
  rw [Number.lt, zero, place]
  simp only [Place.le, Bool.not_eq_true', decide_eq_false_iff_not, Int.not_le]

/-- Above zero and with an upper bound. -/
theorem isPositive_of_lt_le {d : Double} {most : Int}
    (above : (Number.int 0).lt (.double d) = true)
    (bounded : (Number.double d).le (.int most) = true) : d.IsPositive := by
  cases d with
  | nan => cases above
  | infinite negative =>
      cases negative with
      | true => cases above
      | false => cases bounded
  | finite negative rank =>
      exact isPositive_iff.mpr ⟨_, rfl, (zero_lt_double_iff rfl).mp above⟩

end Double

end Number

namespace Codec

variable {α : Type}

theorem checked_eq_accepted_iff {c : Codec α} {fault? : α → Option Fault} {v : Value} {a : α} :
    (c.checked fault?).read v = .accepted a ↔ c.read v = .accepted a ∧ fault? a = none := by
  rw [checked, Verdict.bind_eq_accepted_iff]
  constructor
  · rintro ⟨b, read, passed⟩
    split at passed
    · cases passed
    · rename_i faultless
      cases passed
      exact ⟨read, faultless⟩
  · rintro ⟨read, faultless⟩
    exact ⟨a, read, by rw [faultless]⟩

/-- A number has no fault exactly if it is within each of the bounds. -/
theorem Bounds.fault?_eq_none_iff {b : Bounds} {n : Number} :
    b.fault? n = none ↔
      (∀ most, b.most = some most → n.le (.int most) = true) ∧
      (∀ least, b.least = some least → (Number.int least).le n = true) ∧
      ∀ above, b.above = some above → (Number.int above).lt n = true := by
  simp [fault?, Option.or_eq_none_iff, Option.filter_eq_none_iff]

/-- An integer that is read is within the bounds of its field. -/
theorem between_of_integer {b : Bounds} {v : Value} {n : Int}
    (read : (integer b).read v = .accepted n) :
    (∀ most, b.most = some most → n ≤ most) ∧ (∀ least, b.least = some least → least ≤ n) ∧
      ∀ above, b.above = some above → above < n := by
  simpa only [int_le_int_iff, int_lt_int_iff] using
    Bounds.fault?_eq_none_iff.mp (checked_eq_accepted_iff.mp read).2

/-- A number of seconds with an upper bound is finite and above zero. -/
theorem isPositive_of_seconds {most : Int} {v : Value} {d : Double}
    (read : (seconds (some most)).read v = .accepted d) : d.IsPositive := by
  obtain ⟨bounded, -, above⟩ := Bounds.fault?_eq_none_iff.mp (checked_eq_accepted_iff.mp read).2
  exact Double.isPositive_of_lt_le (above 0 rfl) (bounded most rfl)

/-- What holds of everything a codec reads holds of what is read where it may be missing. -/
theorem forall_of_optional {c : Codec α} {P : α → Prop}
    (reads : ∀ v a, c.read v = .accepted a → P a) {v : Value} {a? : Option α}
    (read : c.optional.read v = .accepted a?) : ∀ a, a? = some a → P a := by
  have present : ∀ v, (c.read v).map some = .accepted a? → ∀ a, a? = some a → P a := by
    intro v read a same
    obtain ⟨b, accepted, rfl⟩ := Verdict.map_eq_accepted_iff.mp read
    obtain rfl := Option.some.inj same
    exact reads v b accepted
  cases v with
  | none =>
      cases read
      exact nofun
  | _ => exact present _ read

end Codec

/-! ## Fields -/

namespace Fields

variable {α β : Type}

theorem read_cons_eq_accepted_iff {name : String} {codec : Codec α} {default? : Option α}
    {rest : Fields β} {kw : Keywords} {a : α} {more : β} :
    (Fields.cons name codec default? rest).read kw = .accepted (a, more) ↔
      readField name codec default? (kw.find? name) = .accepted a ∧
        rest.read kw = .accepted more := by
  simp [read, Verdict.both_eq_accepted_iff]

/-- What holds of everything a codec reads, and of the default, holds of the field. -/
theorem readField_ensures {name : String} {codec : Codec α} {default? : Option α}
    {v? : Option Value} (P : α → Prop) (reads : ∀ v a, codec.read v = .accepted a → P a)
    (default : ∀ a, default? = some a → P a) {a : α}
    (read : readField name codec default? v? = .accepted a) : P a := by
  unfold readField at read
  rw [Verdict.under_eq_accepted_iff] at read
  cases v? with
  | some v => exact reads v a read
  | none =>
      cases default? with
      | some b => exact default a (congrArg some (Verdict.accepted.inj read))
      | none => cases read

end Fields

/-! ## Integers -/

section Integers

variable {title : String} {kw : Keywords}

/-- A new collection has at least one shard. -/
theorem CollectionSchema.shards_pos {p : CollectionSchema}
    (built : (blueprint title).build kw = .accepted p) : 0 < p.shards := by
  obtain ⟨-, -, ⟨collection, shards, raw⟩, read, packed⟩ := Blueprint.build_eq_accepted_iff.mp built
  obtain ⟨-, read⟩ := Fields.read_cons_eq_accepted_iff.mp read
  obtain ⟨shards, -⟩ := Fields.read_cons_eq_accepted_iff.mp read
  cases packed
  refine Fields.readField_ensures (0 < ·) (fun v n read => ?_) (fun n same => ?_) shards
  · exact (Codec.between_of_integer read).2.2 0 rfl
  · cases same
    decide

theorem timestamp_nonneg {name : String} {v? : Option Value} {n : Int}
    (read : Fields.readField name .timestamp (some 0) v? = .accepted n) : 0 ≤ n := by
  refine Fields.readField_ensures (0 ≤ ·) (fun v n read => ?_) (fun n same => ?_) read
  · exact (Codec.between_of_integer read).2.1 0 rfl
  · cases same
    decide

/-- The timestamps of a query are natural numbers. -/
theorem Query.timestamps_nonneg {p : Query} (built : (blueprint title).build kw = .accepted p) :
    0 ≤ p.travelTimestamp ∧ 0 ≤ p.guaranteeTimestamp := by
  obtain ⟨-, -, ⟨collection, partitions, outFields, expr, travel, guarantee, ⟨⟩⟩, read, packed⟩ :=
    Blueprint.build_eq_accepted_iff.mp built
  obtain ⟨-, -, -, -, travel, guarantee, -⟩ : _ ∧ _ ∧ _ ∧ _ ∧ _ ∧ _ ∧ _ := by
    simpa only [blueprint, Blueprint.plain, Fields.name, Fields.anyNames,
      Fields.read_cons_eq_accepted_iff] using read
  cases packed
  exact ⟨timestamp_nonneg travel, timestamp_nonneg guarantee⟩

/-- The integers of a search: its decimals are few, and its timestamps natural numbers. -/
structure Search.Bounded (p : Search) : Prop where
  roundDecimal : -1 ≤ p.roundDecimal ∧ p.roundDecimal ≤ 6
  travelTimestamp : 0 ≤ p.travelTimestamp
  guaranteeTimestamp : 0 ≤ p.guaranteeTimestamp

theorem Search.bounded_of_build {p : Search} (built : (blueprint title).build kw = .accepted p) :
    p.Bounded := by
  obtain ⟨-, -, ⟨collection, partitions, metric, field, topK, expr, outFields, rows, decimals,
    params, travel, guarantee, ⟨⟩⟩, read, packed⟩ := Blueprint.build_eq_accepted_iff.mp built
  obtain ⟨-, -, -, -, -, -, -, -, decimals, -, travel, guarantee, -⟩ :
      _ ∧ _ ∧ _ ∧ _ ∧ _ ∧ _ ∧ _ ∧ _ ∧ _ ∧ _ ∧ _ ∧ _ ∧ _ := by
    simpa only [blueprint, Fields.name, Fields.anyNames, Fields.read_cons_eq_accepted_iff]
      using read
  simp only [blueprint] at packed
  split at packed
  · cases packed
  · split at packed
    · cases packed
    · cases packed
      refine ⟨?_, timestamp_nonneg travel, timestamp_nonneg guarantee⟩
      refine Fields.readField_ensures (fun n => -1 ≤ n ∧ n ≤ 6) (fun v n read => ?_)
        (fun n same => ?_) decimals
      · have between := Codec.between_of_integer read
        exact ⟨between.2.1 _ rfl, between.1 _ rfl⟩
      · cases same
        decide

end Integers

/-! ## Durations and pacings -/

theorem Defaults.above_zero_connectTimeout :
    (Number.int 0).lt (.double connectTimeout) = true := by decide +kernel

theorem Defaults.above_zero_keepAliveTimeout :
    (Number.int 0).lt (.double keepAliveTimeout) = true := by decide +kernel

theorem Defaults.above_zero_idleTimeout :
    (Number.int 0).lt (.double idleTimeout) = true := by decide +kernel

theorem Defaults.isPositive_waitInterval : waitInterval.IsPositive := by decide +kernel

theorem Defaults.isPositive_flushTimeout : flushTimeout.IsPositive := by decide +kernel

theorem Pacing.Limits.isPositive_load : load.timeout.IsPositive := by decide +kernel

theorem Pacing.Limits.isPositive_flush : flush.timeout.IsPositive := by
  dsimp only [flush]
  exact Defaults.isPositive_flushTimeout

theorem Pacing.Limits.isPositive_index : index.timeout.IsPositive := by decide +kernel

/-- The interval and the time to wait are finite and above zero. -/
structure Pacing.IsPositive (p : Pacing) : Prop where
  interval : p.interval.IsPositive
  timeout : p.timeout.IsPositive

/-- The pacing of a parameter is read from three fields. -/
def Pacing.ReadFrom (kw : Keywords) (limits : Limits) (p : Pacing) : Prop :=
  ∃ waits interval timeout raw,
    (Fields.pacing limits waits interval timeout).read kw = .accepted raw ∧ p = .ofFields raw

/-- What holds of all seconds within the limits, and of those that stand in for them, holds of
the seconds of a pacing. -/
theorem Pacing.ReadFrom.ensures {kw : Keywords} {limits : Limits} {p : Pacing}
    (readFrom : p.ReadFrom kw limits) (P Q : Double → Prop)
    (intervals : ∀ v d, (Codec.seconds (some limits.maxInterval)).read v = .accepted d → P d)
    (standardInterval : P Defaults.waitInterval)
    (timeouts : ∀ v d, (Codec.seconds (some limits.maxTimeout)).read v = .accepted d → Q d)
    (standardTimeout : Q limits.timeout) : P p.interval ∧ Q p.timeout := by
  obtain ⟨_, _, _, ⟨asked, sleeps, lasts, ⟨⟩⟩, read, rfl⟩ := readFrom
  simp only [Fields.pacing, Fields.switch, Fields.read_cons_eq_accepted_iff] at read
  obtain ⟨-, interval, timeout, -⟩ := read
  constructor
  · refine Fields.readField_ensures P intervals (fun d same => ?_) interval
    obtain rfl := Option.some.inj same
    exact standardInterval
  · refine Fields.readField_ensures Q timeouts (fun d same => ?_) timeout
    obtain rfl := Option.some.inj same
    exact standardTimeout

theorem Pacing.ReadFrom.isPositive {kw : Keywords} {limits : Limits} {p : Pacing}
    (readFrom : p.ReadFrom kw limits) (standard : limits.timeout.IsPositive) : p.IsPositive := by
  obtain ⟨interval, timeout⟩ := readFrom.ensures Double.IsPositive Double.IsPositive
    (fun _ _ => Codec.isPositive_of_seconds) Defaults.isPositive_waitInterval
    (fun _ _ => Codec.isPositive_of_seconds) standard
  exact ⟨interval, timeout⟩

section Built

variable {title : String} {kw : Keywords}

theorem CollectionLoad.pacing_of_build {p : CollectionLoad}
    (built : (blueprint title).build kw = .accepted p) : p.pacing.ReadFrom kw .load := by
  obtain ⟨-, -, ⟨collection, raw⟩, read, packed⟩ := Blueprint.build_eq_accepted_iff.mp built
  obtain ⟨-, pacing⟩ := Fields.read_cons_eq_accepted_iff.mp read
  cases packed
  exact ⟨_, _, _, raw, pacing, rfl⟩

theorem PartitionLoad.pacing_of_build {p : PartitionLoad}
    (built : (blueprint title).build kw = .accepted p) : p.pacing.ReadFrom kw .load := by
  obtain ⟨-, -, ⟨collection, partitions, raw⟩, read, packed⟩ :=
    Blueprint.build_eq_accepted_iff.mp built
  obtain ⟨-, read⟩ := Fields.read_cons_eq_accepted_iff.mp read
  obtain ⟨-, pacing⟩ := Fields.read_cons_eq_accepted_iff.mp read
  cases packed
  exact ⟨_, _, _, raw, pacing, rfl⟩

theorem Flush.pacing_of_build {p : Flush}
    (built : (blueprint title).build kw = .accepted p) : p.pacing.ReadFrom kw .flush := by
  obtain ⟨-, -, ⟨collections, raw⟩, read, packed⟩ := Blueprint.build_eq_accepted_iff.mp built
  obtain ⟨-, pacing⟩ := Fields.read_cons_eq_accepted_iff.mp read
  cases packed
  exact ⟨_, _, _, raw, pacing, rfl⟩

theorem IndexBuild.pacing_of_build {p : IndexBuild}
    (built : (blueprint title).build kw = .accepted p) : p.pacing.ReadFrom kw .index := by
  obtain ⟨-, -, ⟨collection, field, index, metric, extra, raw⟩, read, packed⟩ :=
    Blueprint.build_eq_accepted_iff.mp built
  obtain ⟨-, -, -, -, -, pacing⟩ : _ ∧ _ ∧ _ ∧ _ ∧ _ ∧ _ := by
    simpa only [blueprint, Blueprint.plain, Fields.name, Fields.read_cons_eq_accepted_iff]
      using read
  cases packed
  exact ⟨_, _, _, raw, pacing, rfl⟩

end Built

/-- A flush that is not asked for by a parameter of its own. -/
theorem Flush.isPositive_waiting (collection : String) :
    (Flush.waiting collection).pacing.IsPositive := by
  constructor
  case interval =>
    dsimp only [Flush.waiting]
    exact Defaults.isPositive_waitInterval
  case timeout =>
    dsimp only [Flush.waiting]
    exact Defaults.isPositive_flushTimeout

/-- The pacing, if it is to wait at all. -/
def Pacing.asked? (p : Pacing) : Option Pacing := if p.waits then some p else none

theorem Pacing.IsPositive.of_asked? {p pacing : Pacing} (positive : p.IsPositive)
    (asked : p.asked? = some pacing) : pacing.IsPositive := by
  unfold asked? at asked
  split at asked
  · cases asked
    exact positive
  · cases asked

/-- How an operation paces its wait, if it waits. -/
def Operation.pacing? : (o : Operation) → o.Param → Option Pacing
  | .loadCollection, p => (CollectionLoad.pacing p).asked?
  | .loadPartitions, p => (PartitionLoad.pacing p).asked?
  | .createIndex, p => (IndexBuild.pacing p).asked?
  | .flush, p => (Flush.pacing p).asked?
  | .getCollectionStatistics, p =>
      if StatisticsQuery.flushes p then (Flush.waiting (StatisticsQuery.collection p)).pacing.asked?
      else none
  | _, _ => none

/-- An operation that waits does so with positive and finite durations. -/
theorem Operation.isPositive_of_pacing? {o : Operation} {p : o.Param} {kw : Keywords}
    (built : o.blueprint.build kw = .accepted p) {pacing : Pacing}
    (waits : o.pacing? p = some pacing) : pacing.IsPositive := by
  cases o with
  | loadCollection =>
      have read := CollectionLoad.pacing_of_build built
      exact (read.isPositive Pacing.Limits.isPositive_load).of_asked? waits
  | loadPartitions =>
      have read := PartitionLoad.pacing_of_build built
      exact (read.isPositive Pacing.Limits.isPositive_load).of_asked? waits
  | createIndex =>
      have read := IndexBuild.pacing_of_build built
      exact (read.isPositive Pacing.Limits.isPositive_index).of_asked? waits
  | flush =>
      have read := Flush.pacing_of_build built
      exact (read.isPositive Pacing.Limits.isPositive_flush).of_asked? waits
  | getCollectionStatistics =>
      simp only [pacing?] at waits
      split at waits
      · exact (Flush.isPositive_waiting _).of_asked? waits
      · cases waits
  | _ => cases waits

end VectorClient
