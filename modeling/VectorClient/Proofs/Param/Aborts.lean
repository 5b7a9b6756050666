/-
# VectorClient.Proofs.Param.Aborts — when no parameter and no report is made

Building a parameter gives the parameter or a report, with three exceptions that
the fields of each class decide (`ParamClass.abort?`): a keyword takes the name
that the parameter has for itself, a number of seconds is an integer past the
doubles, or a dictionary in the place of a nested parameter cannot be handed on.

* `ParamClass.abort?_build`: these are all the aborts of every class.
* `Parameter.require_settled`: everywhere else there is a parameter or a report.
* `Parameter.require_endlessLoad`: an integer that makes a construction abort.
-/
import VectorClient.Failure
import VectorClient.Proofs.Form.Aborts

namespace VectorClient

set_option autoImplicit false

namespace ParamClass

/-- The fields of a class that are numbers of seconds. -/
def durations : ParamClass → List String
  | .connection =>
      ["connect_timeout", "keep_alive_time", "keep_alive_timeout", "idle_timeout", "timeout"]
  | .operation .loadCollection | .operation .loadPartitions =>
      ["sync_load_waiting_interval", "sync_load_waiting_timeout"]
  | .operation .flush => ["sync_flush_waiting_interval", "sync_flush_waiting_timeout"]
  | .operation .createIndex => ["sync_waiting_interval", "sync_waiting_timeout"]
  | _ => []

/-- The fields of a class that are lists of nested parameters. -/
def nested : ParamClass → List String
  | .operation .createCollection => ["field_types"]
  | .operation .insert => ["fields"]
  | _ => []

/-- The abort of a list of nested parameters: that of its first dictionary that cannot be
handed on. -/
def abortOfItems? (v : Value) : Option Abort :=
  v.asRow?.bind fun items => items.findSome? Codec.handOver?

/-- Why building a parameter of a class aborts, if it does. -/
def abort? (c : ParamClass) (kw : Keywords) : Option Abort :=
  if (kw.find? Blueprint.receiver).isSome then some .receiverNamed
  else if c.durations.any fun name => (kw.find? name).any Codec.pastDoubles then
    some .integerTooLarge
  else c.nested.findSome? fun name => (kw.find? name).bind abortOfItems?

end ParamClass

/-! ## Fields -/

namespace Fields

variable {α β : Type} {name : String} {rest : Fields β} {kw : Keywords}

@[simp]
theorem abort?_cons_seconds {default? : Option Number.Double} (most : Option Int) :
    (Fields.cons name (.seconds most) default? rest).abort? kw =
      if (kw.find? name).any Codec.pastDoubles then some .integerTooLarge
      else rest.abort? kw := by
  rw [abort?]
  cases kw.find? name with
  | none => rfl
  | some v =>
      rw [Option.bind_some, Codec.abort?_seconds, Option.any_some]
      cases Codec.pastDoubles v <;> rfl

@[simp]
theorem abort?_cons_optional_seconds {default? : Option (Option Number.Double)}
    (most : Option Int) :
    (Fields.cons name (Codec.seconds most).optional default? rest).abort? kw =
      if (kw.find? name).any Codec.pastDoubles then some .integerTooLarge
      else rest.abort? kw := by
  rw [abort?]
  cases kw.find? name with
  | none => rfl
  | some v =>
      rw [Option.bind_some, Codec.abort?_optional rfl, Codec.abort?_seconds, Option.any_some]
      cases Codec.pastDoubles v <;> rfl

/-- A list of nested parameters whose own fields abort nothing. -/
theorem abort?_cons_parameters {b : Blueprint α} (refuses : b.extras = .refused)
    (quiet : ∀ kw, b.fields.abort? kw = none) {wrap : α → Value} {unwrap? : Value → Option α}
    (unbuilt : ∀ entries, unwrap? (.dict entries) = none) (least : Nat)
    (default? : Option (List α)) :
    (Fields.cons name (.many least (.parameter b wrap unwrap?)) default? rest).abort? kw =
      ((kw.find? name).bind ParamClass.abortOfItems?).or (rest.abort? kw) := by
  have items : ∀ v, ((Codec.many least (.parameter b wrap unwrap?)).read v).abort? =
      ParamClass.abortOfItems? v := by
    intro v
    simp only [Codec.abort?_many, Codec.abort?_parameter refuses quiet wrap unbuilt,
      ParamClass.abortOfItems?]
  simp only [abort?, items]

end Fields

theorem FieldSchema.abort?_fields (kw : Keywords) : blueprint.fields.abort? kw = none := by
  simp [blueprint, Fields.name, Fields.switch, Codec.Quiet.optional]

theorem NamedColumn.abort?_fields (kw : Keywords) : blueprint.fields.abort? kw = none := by
  simp [blueprint, Fields.name]

namespace Fields

variable {α : Type} {name : String} {rest : Fields α} {kw : Keywords}

@[simp]
theorem abort?_cons_schemas {default? : Option (List FieldSchema)} (least : Nat) :
    (Fields.cons name (.many least FieldSchema.codec) default? rest).abort? kw =
      ((kw.find? name).bind ParamClass.abortOfItems?).or (rest.abort? kw) :=
  abort?_cons_parameters rfl FieldSchema.abort?_fields (fun _ => rfl) least default?

@[simp]
theorem abort?_cons_columns {default? : Option (List NamedColumn)} (least : Nat) :
    (Fields.cons name (.many least NamedColumn.codec) default? rest).abort? kw =
      ((kw.find? name).bind ParamClass.abortOfItems?).or (rest.abort? kw) :=
  abort?_cons_parameters rfl NamedColumn.abort?_fields (fun _ => rfl) least default?

end Fields

/-! ## Classes -/

namespace ParamClass

theorem extras_blueprint (c : ParamClass) : c.blueprint.extras = .refused := by
  cases c with
  | operation o => cases o <;> rfl
  | connection => rfl
  | fieldSchema => rfl
  | namedColumn => rfl

/-- The fields of every class abort with its durations and its nested parameters, and with
nothing else. -/
theorem abort?_fields (c : ParamClass) (kw : Keywords) :
    c.blueprint.fields.abort? kw =
      if c.durations.any fun name => (kw.find? name).any Codec.pastDoubles then
        some .integerTooLarge
      else c.nested.findSome? fun name => (kw.find? name).bind abortOfItems? := by
  cases c with
  | fieldSchema => exact FieldSchema.abort?_fields kw
  | namedColumn => exact NamedColumn.abort?_fields kw
  | connection =>
      have options : (Codec.many 0 (.pair .text .anything)).Quiet :=
        (Codec.quiet_text.pair Codec.quiet_anything).many 0
      simp [blueprint, Connection.blueprint, Blueprint.plain, Fields.switch, durations, nested,
        Codec.Quiet.optional, options, ite_or]
  | operation o =>
      cases o with
      | createCollection | insert =>
          simp [blueprint, Operation.blueprint, CollectionSchema.blueprint, Insertion.blueprint,
            Blueprint.plain, Fields.name, durations, nested]
      | loadCollection | loadPartitions | flush | createIndex =>
          simp [blueprint, Operation.blueprint, CollectionLoad.blueprint, PartitionLoad.blueprint,
            Flush.blueprint, IndexBuild.blueprint, Blueprint.plain, Fields.name, Fields.someNames,
            Fields.pacing, Fields.switch, durations, nested, ite_or]
      | _ =>
          simp [blueprint, Operation.blueprint, CollectionTarget.blueprint,
            PartitionTarget.blueprint, PartitionSet.blueprint, PartitionSet.listing,
            CollectionSet.listing, AliasTarget.blueprint, AliasBinding.blueprint,
            FieldTarget.blueprint, MetricsQuery.blueprint, StatisticsQuery.blueprint,
            Deletion.blueprint, Search.blueprint, Query.blueprint, Distance.blueprint,
            Blueprint.plain, Fields.name, Fields.anyNames, Fields.someNames, Fields.switch,
            Codec.timestamp, durations, nested]

theorem abort?_build (c : ParamClass) (kw : Keywords) :
    (c.blueprint.build kw).abort? = c.abort? kw := by
  rw [Blueprint.abort?_build, Blueprint.namesReceiver, extras_blueprint, abort?_fields, abort?]
  rfl

end ParamClass

/-! ## Parameters -/

namespace Parameter

variable {c : ParamClass} {kw : Keywords}

theorem require_eq_aborted_iff {cause : Abort} :
    require c kw = .error (.aborted cause) ↔ c.abort? kw = some cause := by
  rw [← c.abort?_build kw, require, build]
  cases c.blueprint.build kw <;> simp [Verdict.map, Verdict.require]

theorem require_parameter_or_report_iff :
    ((∃ p, require c kw = .ok ⟨c, p⟩) ∨
        ∃ entries, require c kw = .error (.refused ⟨c.title, entries⟩)) ↔
      c.abort? kw = none := by
  rw [← c.abort?_build kw, require, build]
  cases c.blueprint.build kw <;>
    simp [Verdict.map, Verdict.require, Blueprint.report, ParamClass.title]

/-- Building a parameter gives the parameter or a report, except that it aborts exactly where
its class says, and then with the cause it says. -/
theorem require_settled (c : ParamClass) (kw : Keywords) :
    (((∃ p, require c kw = .ok ⟨c, p⟩) ∨
          ∃ entries, require c kw = .error (.refused ⟨c.title, entries⟩)) ↔
        c.abort? kw = none) ∧
      ∀ cause, require c kw = .error (.aborted cause) ↔ c.abort? kw = some cause :=
  ⟨require_parameter_or_report_iff, fun _ => require_eq_aborted_iff⟩

/-- Waiting for a load with a timeout that is the smallest integer past the doubles. -/
def endlessLoad : Keywords :=
  [("collection_name", .text "c"),
   ("sync_load_waiting_timeout", .number (.int Number.Double.overflow))]

/-- The construction ends with neither a parameter nor a report. -/
theorem require_endlessLoad :
    require (.operation .loadCollection) endlessLoad = .error (.aborted .integerTooLarge) := by
  have past : Codec.pastDoubles (.number (.int Number.Double.overflow)) = true := by
    rw [Codec.pastDoubles, Int.natAbs_natCast]
    exact decide_eq_true (Nat.le_refl _)
  have unnamed : endlessLoad.find? Blueprint.receiver = none := rfl
  have interval : endlessLoad.find? "sync_load_waiting_interval" = none := rfl
  have timeout : endlessLoad.find? "sync_load_waiting_timeout" =
      some (.number (.int Number.Double.overflow)) := rfl
  rw [require_eq_aborted_iff]
  simp only [ParamClass.abort?, ParamClass.durations, unnamed, interval, timeout, List.any_cons,
    Option.any_some, Option.any_none, past, Option.isSome_none, Bool.true_or, Bool.or_true,
    Bool.false_eq_true, if_true, if_false]

end Parameter

end VectorClient
