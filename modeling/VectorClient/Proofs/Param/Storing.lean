/-
# VectorClient.Proofs.Param.Storing — parameters are built again from their fields

Every class reads its own stored fields as the parameter that stored them
(`ParamClass.build_view`).  Most store their fields as they were read.  A batch or a
column stores rows of its own making, which are spellings of the rows it was read
from, so they pass the same checks.

* `ParamClass.stable_fields`: every field restores what it read, and its default.
* `ParamClass.named`: fields have names of their own.
-/
import VectorClient.Param.Catalog
import VectorClient.Proofs.Form.Storing
import VectorClient.Proofs.Param.Rows

namespace VectorClient

set_option autoImplicit false

open Codec

/-! ## Defaults -/

namespace Defaults

@[simp]
theorem restores_host : name.Restores host := restores_name_iff.mpr (by decide)

@[simp]
theorem restores_partition : name.Restores Defaults.partition := restores_name_iff.mpr (by decide)

@[simp]
theorem restores_emptyObject : name.Restores emptyObject := restores_name_iff.mpr (by decide)

@[simp]
theorem restores_metric : metric.Restores .l2 := restores_metric_iff.mpr (by decide)

@[simp]
theorem restores_port : (integer ⟨none, some 0, some maxPort⟩).Restores port := by
  simp [restores_integer_iff, port, maxPort]

@[simp]
theorem restores_shards : (integer ⟨some 0, none, none⟩).Restores shards := by
  simp [restores_integer_iff, shards]

@[simp]
theorem restores_roundDecimal :
    (integer ⟨none, some roundDecimal, some maxRoundDecimal⟩).Restores roundDecimal := by
  simp [restores_integer_iff, roundDecimal, maxRoundDecimal]

@[simp]
theorem restores_timestamp : (integer ⟨none, some 0, none⟩).Restores 0 := by
  simp [restores_integer_iff]

@[simp]
theorem restores_connectTimeout : (seconds none).Restores connectTimeout :=
  restores_seconds_none_iff.mpr above_zero_connectTimeout

@[simp]
theorem restores_keepAliveTimeout : (seconds none).Restores keepAliveTimeout :=
  restores_seconds_none_iff.mpr above_zero_keepAliveTimeout

@[simp]
theorem restores_idleTimeout : (seconds none).Restores idleTimeout :=
  restores_seconds_none_iff.mpr above_zero_idleTimeout

end Defaults

namespace Pacing.Limits

/-- The limits allow the interval and the time-out that stand in for missing ones. -/
structure AllowDefaults (limits : Pacing.Limits) : Prop where
  interval : (seconds (some limits.maxInterval)).Restores Defaults.waitInterval
  timeout : (seconds (some limits.maxTimeout)).Restores limits.timeout

@[simp]
theorem allowDefaults_load : load.AllowDefaults where
  interval := restores_seconds_iff.mpr (by decide +kernel)
  timeout := restores_seconds_iff.mpr (by decide +kernel)

@[simp]
theorem allowDefaults_flush : flush.AllowDefaults where
  interval := restores_seconds_iff.mpr (by decide +kernel)
  timeout := restores_seconds_iff.mpr (by decide +kernel)

@[simp]
theorem allowDefaults_index : index.AllowDefaults where
  interval := restores_seconds_iff.mpr (by decide +kernel)
  timeout := restores_seconds_iff.mpr (by decide +kernel)

end Pacing.Limits

@[simp]
theorem Fields.stable_pacing {limits : Pacing.Limits} (allow : limits.AllowDefaults)
    (waits interval timeout : String) : (Fields.pacing limits waits interval timeout).Stable := by
  simp [Fields.pacing, Fields.switch, allow.interval, allow.timeout]

/-! ## Fields -/

@[simp]
theorem FieldSchema.stable_codec : FieldSchema.codec.Stable :=
  Codec.stable_parameter FieldSchema.blueprint fun _ => rfl

@[simp]
theorem NamedColumn.stable_codec : NamedColumn.codec.Stable :=
  Codec.stable_parameter NamedColumn.blueprint fun _ => rfl

namespace ParamClass

/-- Every field of every class restores what it has read, and its default. -/
theorem stable_fields (c : ParamClass) : c.blueprint.fields.Stable := by
  cases c with
  | fieldSchema => simp [blueprint, FieldSchema.blueprint, Fields.name, Fields.switch]
  | namedColumn => simp [blueprint, NamedColumn.blueprint, Fields.name]
  | connection => simp [blueprint, Connection.blueprint, Blueprint.plain, Fields.switch]
  | operation o =>
      cases o with
      | createCollection | insert =>
          simp [blueprint, Operation.blueprint, CollectionSchema.blueprint, Insertion.blueprint,
            Blueprint.plain, Fields.name, Codec.Stable.many]
      | loadCollection | loadPartitions | flush | createIndex =>
          simp [blueprint, Operation.blueprint, CollectionLoad.blueprint, PartitionLoad.blueprint,
            Flush.blueprint, IndexBuild.blueprint, Blueprint.plain, Fields.name, Fields.someNames]
      | delete | search | query | calcDistance =>
          simp [blueprint, Operation.blueprint, Deletion.blueprint, Search.blueprint,
            Query.blueprint, Distance.blueprint, Blueprint.plain, Fields.name, Fields.anyNames,
            Codec.timestamp]
      | _ =>
          simp [blueprint, Operation.blueprint, CollectionTarget.blueprint,
            PartitionTarget.blueprint, PartitionSet.blueprint, PartitionSet.listing,
            CollectionSet.listing, AliasTarget.blueprint, AliasBinding.blueprint,
            FieldTarget.blueprint, MetricsQuery.blueprint, StatisticsQuery.blueprint,
            Blueprint.plain, Fields.name, Fields.anyNames, Fields.someNames, Fields.switch]

theorem named (c : ParamClass) : c.blueprint.Named := by
  cases c with
  | operation o => cases o <;> exact ⟨by decide, by decide⟩
  | connection | fieldSchema | namedColumn => exact ⟨by decide, by decide⟩

end ParamClass

/-! ## Classes that store what they read -/

theorem FieldSchema.verbatim : blueprint.Verbatim := by
  intro raw f packed
  simp only [blueprint] at packed
  split at packed
  · cases packed
  · cases packed
    rfl

theorem Insertion.verbatim (title : String) : (blueprint title).Verbatim := by
  intro raw p packed
  simp only [blueprint] at packed
  split at packed
  · cases packed
  · cases packed
    rfl

/-! ## Classes that make rows of their own -/

/-- The rows of a batch are frozen already. -/
theorem Batch.restores_rows (b : Batch) : (rows 0).Restores b.toValues :=
  restores_rows_iff.mpr ⟨fun _ => freezeRow_of_mem_toValues, Nat.zero_le _⟩

theorem NamedColumn.build_view {kw : Keywords} {c : NamedColumn}
    (built : blueprint.build kw = .accepted c) :
    blueprint.build (blueprint.view c) = .accepted c := by
  obtain ⟨-, -, ⟨label, t, kept, ⟨⟩⟩, read, packed⟩ := Blueprint.build_eq_accepted_iff.mp built
  obtain ⟨labelled, typed, rows, -⟩ := (ParamClass.stable_fields .namedColumn).restores read
  obtain ⟨column, made, rfl⟩ := map_eq_ok_iff.mp packed
  obtain ⟨rfl, holds⟩ := Column.ofValues_eq_ok_iff.mp made
  have alike := holds.alike_toValues
  refine Blueprint.build_view (ParamClass.named .namedColumn) ⟨labelled, typed, ?_, trivial⟩ ?_
  · refine restores_rows_iff.mpr ⟨fun _ => Column.freezeRow_of_mem_toValues, ?_⟩
    rw [← alike.length_eq]
    exact (restores_rows_iff.mp rows).2
  · exact map_eq_ok_iff.mpr ⟨column, Column.ofValues_of_alike alike made, rfl⟩

theorem Search.build_view {title : String} {kw : Keywords} {p : Search}
    (built : (blueprint title).build kw = .accepted p) :
    (blueprint title).build ((blueprint title).view p) = .accepted p := by
  obtain ⟨-, -, ⟨collection, partitions, metric, field, topK, expr, outFields, kept, decimals,
    params, travel, guarantee, ⟨⟩⟩, read, packed⟩ := Blueprint.build_eq_accepted_iff.mp built
  obtain ⟨collections, partitioned, metrics, fielded, counted, expressed, listed, -, later⟩ :=
    (ParamClass.stable_fields (.operation .search)).restores read
  have named := ParamClass.named (.operation .search)
  simp only [blueprint] at packed
  split at packed
  · cases packed
  · rename_i vectors made
    split at packed
    · cases packed
    · rename_i fits
      cases packed
      refine Blueprint.build_view ⟨named.distinct, named.unreserved⟩
        ⟨collections, partitioned, metrics, fielded, counted, expressed, listed,
          vectors.restores_rows, later⟩ ?_
      have again := Batch.ofValues_toValues made
      simp only [blueprint, again, fits]

theorem Distance.build_view {title : String} {kw : Keywords} {p : Distance}
    (built : (blueprint title).build kw = .accepted p) :
    (blueprint title).build ((blueprint title).view p) = .accepted p := by
  obtain ⟨-, -, ⟨leftRows, rightRows, metric, ⟨⟩⟩, read, packed⟩ :=
    Blueprint.build_eq_accepted_iff.mp built
  obtain ⟨-, -, later⟩ := (ParamClass.stable_fields (.operation .calcDistance)).restores read
  have named := ParamClass.named (.operation .calcDistance)
  simp only [blueprint] at packed
  split at packed
  · cases packed
  · cases packed
  · rename_i left right leftMade rightMade
    split at packed
    · cases packed
    · rename_i consistent
      cases packed
      refine Blueprint.build_view ⟨named.distinct, named.unreserved⟩
        ⟨left.restores_rows, right.restores_rows, later⟩ ?_
      have leftAgain := Batch.ofValues_toValues leftMade
      have rightAgain := Batch.ofValues_toValues rightMade
      simp only [blueprint, leftAgain, rightAgain, consistent]

/-! ## All classes -/

/-- Every class builds a parameter from the fields that the parameter stores. -/
theorem ParamClass.build_view (c : ParamClass) {kw : Keywords} {p : c.Param}
    (built : c.blueprint.build kw = .accepted p) :
    c.blueprint.build (c.blueprint.view p) = .accepted p := by
  have verbatim : c.blueprint.Verbatim → c.blueprint.build (c.blueprint.view p) = .accepted p :=
    fun verbatim => Blueprint.build_view_of_verbatim c.named c.stable_fields verbatim built
  cases c with
  | connection => exact verbatim (Blueprint.verbatim_plain fun _ => rfl)
  | fieldSchema => exact verbatim FieldSchema.verbatim
  | namedColumn => exact NamedColumn.build_view built
  | operation o =>
      cases o with
      | insert => exact verbatim (Insertion.verbatim _)
      | search => exact Search.build_view built
      | calcDistance => exact Distance.build_view built
      | _ => exact verbatim (Blueprint.verbatim_plain fun _ => rfl)

end VectorClient
