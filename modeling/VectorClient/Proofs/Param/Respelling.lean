/-
# VectorClient.Proofs.Param.Respelling — parameters from keywords in other spellings

What counts as another spelling depends on the field (`ParamClass.spelling`): rows
of either kind, byte strings of either kind and members for their words everywhere,
an integer for the double of its value where a number of seconds is read, and in the
values of channel options, which are kept as they are, members for their words only.

Every class but one takes all spellings for the same and builds one parameter
(`ParamClass.build_of_respelled`).  A connection keeps option values, so it is the
same up to members and their words (`Connection.build_of_respelled`).
-/
import VectorClient.Param.Catalog
import VectorClient.Proofs.Form.Respelling
import VectorClient.Proofs.Param.Aborts
import VectorClient.Proofs.Param.Rows

namespace VectorClient

set_option autoImplicit false

namespace ParamClass

/-- The fields of a class that are pairs of a name and a value that is kept. -/
def options : ParamClass → List String
  | .connection => ["grpc_options"]
  | _ => []

/-- When two values are spellings of one value at a field of a class. -/
def spelling (c : ParamClass) (name : String) : Value → Value → Prop :=
  if name ∈ c.options then Value.AlikeOptions
  else if name ∈ c.durations then Value.AlikeSeconds
  else Value.Alike

theorem spelling_symm (c : ParamClass) (name : String) :
    ∀ v v', c.spelling name v v' → c.spelling name v' v := by
  unfold spelling
  split
  · exact fun _ _ => Value.AlikeOptions.symm
  · split
    · exact fun _ _ => Value.AlikeSeconds.symm
    · exact fun _ _ => Value.Alike.symm

/-- A class without numbers of seconds and without options. -/
theorem spelling_eq_alike {c : ParamClass} (options : c.options = [])
    (durations : c.durations = []) : c.spelling = fun _ => Value.Alike := by
  funext name
  simp [spelling, options, durations]

end ParamClass

/-! ## Columns and schemas -/

/-- Spellings of rows are read to spellings of rows. -/
theorem Fields.readRows_of_alike {kw kw' : Keywords} {name : String} {least : Nat}
    {kept : List Value} (alike : kw.Alike kw')
    (read : readField name (.rows least) none (kw.find? name) = .accepted kept) :
    ∃ kept', readField name (.rows least) none (kw'.find? name) = .accepted kept' ∧
      List.Forall₂ Value.Alike kept kept' :=
  readField_of_related (fun _ _ _ => Codec.read_rows_of_alike)
    (fun _ => List.forall₂_same.mpr fun v _ => .refl v) alike read

theorem FieldSchema.blind : blueprint.Blind := by
  intro kw kw' f alike built
  refine Blueprint.build_of_blind ?_ alike built
  simp [blueprint, Fields.name, Fields.switch]

theorem NamedColumn.blind : blueprint.Blind := by
  intro kw kw' c alike built
  obtain ⟨-, -, ⟨label, t, kept, ⟨⟩⟩, read, packed⟩ := Blueprint.build_eq_accepted_iff.mp built
  obtain ⟨column, made, rfl⟩ := map_eq_ok_iff.mp packed
  simp only [blueprint, Fields.name, Fields.read_cons_eq_accepted_iff] at read
  obtain ⟨labelRead, typeRead, rowsRead, -⟩ := read
  obtain ⟨kept', rowsRead', same⟩ := Fields.readRows_of_alike alike rowsRead
  have read' : blueprint.fields.read kw' = .accepted (label, t, kept', ()) := by
    simp only [blueprint, Fields.name, Fields.read_cons_eq_accepted_iff]
    exact ⟨Codec.blind_name.readField alike labelRead,
      Codec.blind_dataType.readField alike typeRead, rowsRead', rfl⟩
  have packed' : blueprint.pack (label, t, kept', ()) = .ok ⟨label, column⟩ :=
    map_eq_ok_iff.mpr ⟨column, Column.ofValues_of_alike same made, rfl⟩
  exact Blueprint.build_of_related alike built read' packed'

@[simp]
theorem FieldSchema.blind_codec : FieldSchema.codec.Blind := by
  refine Codec.Blind.parameter blind ?_
  intro v v' alike
  cases v with
  | field f => rw [alike.field]
  | _ => cases v' <;> first | rfl | cases alike

@[simp]
theorem NamedColumn.blind_codec : NamedColumn.codec.Blind := by
  refine Codec.Blind.parameter blind ?_
  intro v v' alike
  cases v with
  | column c => rw [alike.column]
  | _ => cases v' <;> first | rfl | cases alike

/-! ## Searches and distances -/

theorem Search.build_of_alike {title : String} {kw kw' : Keywords} {p : Search}
    (alike : kw.Alike kw') (built : (blueprint title).build kw = .accepted p) :
    (blueprint title).build kw' = .accepted p := by
  obtain ⟨-, -, ⟨collection, partitions, metric, field, topK, expr, outFields, kept, decimals,
    params, travel, guarantee, ⟨⟩⟩, read, packed⟩ := Blueprint.build_eq_accepted_iff.mp built
  simp only [blueprint, Fields.name, Fields.anyNames, Fields.read_cons_eq_accepted_iff] at read
  obtain ⟨collectionRead, partitionsRead, metricRead, fieldRead, topKRead, exprRead, outFieldsRead,
    rowsRead, decimalsRead, paramsRead, travelRead, guaranteeRead, -⟩ := read
  obtain ⟨kept', rowsRead', same⟩ := Fields.readRows_of_alike alike rowsRead
  have read' : (blueprint title).fields.read kw' = .accepted (collection, partitions, metric,
      field, topK, expr, outFields, kept', decimals, params, travel, guarantee, ()) := by
    simp only [blueprint, Fields.name, Fields.anyNames, Fields.read_cons_eq_accepted_iff]
    exact ⟨Codec.blind_name.readField alike collectionRead,
      (Codec.blind_names 0).readField alike partitionsRead,
      Codec.blind_metric.readField alike metricRead, Codec.blind_name.readField alike fieldRead,
      (Codec.blind_integer _).readField alike topKRead, Codec.blind_text.readField alike exprRead,
      (Codec.blind_names 0).readField alike outFieldsRead, rowsRead',
      (Codec.blind_integer _).readField alike decimalsRead,
      Codec.blind_name.readField alike paramsRead,
      (Codec.blind_integer _).readField alike travelRead,
      (Codec.blind_integer _).readField alike guaranteeRead, rfl⟩
  refine Blueprint.build_of_related alike built read' ?_
  simp only [blueprint] at packed ⊢
  split at packed
  · cases packed
  · rename_i vectors made
    simpa only [Batch.ofValues_of_alike same made] using packed

theorem Distance.build_of_alike {title : String} {kw kw' : Keywords} {p : Distance}
    (alike : kw.Alike kw') (built : (blueprint title).build kw = .accepted p) :
    (blueprint title).build kw' = .accepted p := by
  obtain ⟨-, -, ⟨leftRows, rightRows, metric, ⟨⟩⟩, read, packed⟩ :=
    Blueprint.build_eq_accepted_iff.mp built
  simp only [blueprint, Fields.read_cons_eq_accepted_iff] at read
  obtain ⟨leftRead, rightRead, metricRead, -⟩ := read
  obtain ⟨leftRows', leftRead', leftSame⟩ := Fields.readRows_of_alike alike leftRead
  obtain ⟨rightRows', rightRead', rightSame⟩ := Fields.readRows_of_alike alike rightRead
  have read' : (blueprint title).fields.read kw' =
      .accepted (leftRows', rightRows', metric, ()) := by
    simp only [blueprint, Fields.read_cons_eq_accepted_iff]
    exact ⟨leftRead', rightRead', Codec.blind_metric.readField alike metricRead, rfl⟩
  refine Blueprint.build_of_related alike built read' ?_
  simp only [blueprint] at packed ⊢
  split at packed
  · cases packed
  · cases packed
  · rename_i left right leftMade rightMade
    simpa only [Batch.ofValues_of_alike leftSame leftMade,
      Batch.ofValues_of_alike rightSame rightMade] using packed

/-! ## Connections -/

/-- Two connections that differ in option values, and there in members and their words only. -/
structure Connection.SameUpToWords (p q : Connection) : Prop where
  settings : { p with options := [] } = { q with options := [] }
  options : List.Forall₂ (fun o o' => o.1 = o'.1 ∧ o.2.worded = o'.2.worded) p.options q.options

theorem Connection.build_of_respelled {kw kw' : Keywords} {p : Connection}
    (related : kw.Related (ParamClass.spelling .connection) kw')
    (built : blueprint.build kw = .accepted p) :
    ∃ q, blueprint.build kw' = .accepted q ∧ p.SameUpToWords q := by
  obtain ⟨-, -, ⟨host, port, connectTimeout, keepAliveTime, keepAliveTimeout, withoutCalls,
    idleTimeout, timeout, secure, rootCerts, privateKey, chain, options, ⟨⟩⟩, read, packed⟩ :=
    Blueprint.build_eq_accepted_iff.mp built
  simp only [blueprint, Blueprint.plain, Fields.switch, Fields.read_cons_eq_accepted_iff] at read
  obtain ⟨hostRead, portRead, connectRead, timeRead, lengthRead, callsRead, idleRead, timeoutRead,
    secureRead, rootsRead, keyRead, chainRead, optionsRead, -⟩ := read
  obtain ⟨options', optionsRead', same⟩ := Fields.readField_of_related
    (fun _ _ _ => Codec.read_options_of_alike)
    (fun _ => List.forall₂_same.mpr fun _ _ => ⟨rfl, rfl⟩) related optionsRead
  have read' : blueprint.fields.read kw' = .accepted (host, port, connectTimeout, keepAliveTime,
      keepAliveTimeout, withoutCalls, idleTimeout, timeout, secure, rootCerts, privateKey, chain,
      options', ()) := by
    simp only [blueprint, Blueprint.plain, Fields.switch, Fields.read_cons_eq_accepted_iff]
    exact ⟨Codec.blind_name.readField related hostRead,
      (Codec.blind_integer _).readField related portRead,
      (Codec.blind_seconds none).readField related connectRead,
      (Codec.blind_optional_seconds none).readField related timeRead,
      (Codec.blind_seconds none).readField related lengthRead,
      Codec.blind_truth.readField related callsRead,
      (Codec.blind_seconds none).readField related idleRead,
      (Codec.blind_optional_seconds none).readField related timeoutRead,
      Codec.blind_truth.readField related secureRead,
      Codec.blind_bytes.optional.readField related rootsRead,
      Codec.blind_bytes.optional.readField related keyRead,
      Codec.blind_bytes.optional.readField related chainRead, optionsRead', rfl⟩
  refine ⟨_, Blueprint.build_of_related related built read' rfl, ?_⟩
  cases packed
  exact ⟨rfl, same⟩

/-! ## All classes -/

namespace ParamClass

/-- Classes whose fields do not tell spellings apart. -/
theorem blind_fields (c : ParamClass) (connection : c ≠ .connection) (column : c ≠ .namedColumn)
    (search : c ≠ .operation .search) (distance : c ≠ .operation .calcDistance) :
    c.blueprint.fields.Blind c.spelling := by
  cases c with
  | connection => exact absurd rfl connection
  | namedColumn => exact absurd rfl column
  | fieldSchema =>
      simp [blueprint, FieldSchema.blueprint, Fields.name, Fields.switch, spelling, options,
        durations]
  | operation o =>
      cases o with
      | search => exact absurd rfl search
      | calcDistance => exact absurd rfl distance
      | createCollection | insert =>
          simp [blueprint, Operation.blueprint, CollectionSchema.blueprint, Insertion.blueprint,
            Blueprint.plain, Fields.name, spelling, options, durations]
      | loadCollection | loadPartitions | flush | createIndex =>
          simp [blueprint, Operation.blueprint, CollectionLoad.blueprint, PartitionLoad.blueprint,
            Flush.blueprint, IndexBuild.blueprint, Blueprint.plain, Fields.name, Fields.someNames,
            Fields.pacing, Fields.switch, spelling, options, durations]
      | _ =>
          simp [blueprint, Operation.blueprint, CollectionTarget.blueprint,
            PartitionTarget.blueprint, PartitionSet.blueprint, PartitionSet.listing,
            CollectionSet.listing, AliasTarget.blueprint, AliasBinding.blueprint,
            FieldTarget.blueprint, MetricsQuery.blueprint, StatisticsQuery.blueprint,
            Deletion.blueprint, Query.blueprint, Blueprint.plain, Fields.name, Fields.anyNames,
            Fields.someNames, Fields.switch, Codec.timestamp, spelling, options, durations]

/-- Every class but one builds one parameter from all spellings of its keywords. -/
theorem build_of_respelled (c : ParamClass) (connection : c ≠ .connection) {kw kw' : Keywords}
    (related : kw.Related c.spelling kw') {p : c.Param}
    (built : c.blueprint.build kw = .accepted p) : c.blueprint.build kw' = .accepted p := by
  by_cases column : c = .namedColumn
  · subst column
    rw [spelling_eq_alike rfl rfl] at related
    exact NamedColumn.blind kw kw' p related built
  by_cases search : c = .operation .search
  · subst search
    rw [spelling_eq_alike rfl rfl] at related
    exact Search.build_of_alike related built
  by_cases distance : c = .operation .calcDistance
  · subst distance
    rw [spelling_eq_alike rfl rfl] at related
    exact Distance.build_of_alike related built
  exact Blueprint.build_of_blind (c.blind_fields connection column search distance) related built

end ParamClass

end VectorClient
