/-
# VectorClient.Proofs.Param.Nesting — nested parameters as dictionaries and as objects

Collections are created from field schemas and rows are inserted from named columns, each of
which may be given as a parameter or as a dictionary of its keywords.  Dictionaries that build
alone stand for what they build; those that are refused alone are reported at their index, with
the report of their own; and one that cannot be built at all keeps the whole from being built.

* `Nesting.require_built`: the whole from dictionaries, and from what they build.
* `Nesting.require_refused`: the report of the whole, if some are refused.
* `Nesting.require_aborted`: a dictionary that names the receiver.
* `Nesting.dictionaries_stand_in`: the three together, for every row of dictionaries.
-/
import VectorClient.Proofs.Form.Nesting
import VectorClient.Proofs.Param.Reports

namespace VectorClient

set_option autoImplicit false

namespace Parameter

/-- The text of the report that keywords are refused with. -/
def refusal? (c : ParamClass) (kw : Keywords) : Option String :=
  match require c kw with
  | .error (.refused report) => some report.text
  | _ => none

theorem refusal?_eq (c : ParamClass) (kw : Keywords) :
    refusal? c kw = (c.blueprint.refusal? kw).map fun entries => (c.blueprint.report entries).text := by
  unfold refusal? require build Blueprint.refusal?
  cases c.blueprint.build kw <;> rfl

end Parameter

/-- The fields that hold nested parameters: the schemas of a collection and the columns of an
insertion. -/
inductive Nesting where
  | schemas | columns
  deriving DecidableEq, Repr

namespace Nesting

/-- The class with the field. -/
def outer : Nesting → ParamClass
  | .schemas => .operation .createCollection
  | .columns => .operation .insert

def field : Nesting → String
  | .schemas => "field_types"
  | .columns => "fields"

/-- The class of the parameters that the field holds. -/
def inner : Nesting → ParamClass
  | .schemas => .fieldSchema
  | .columns => .namedColumn

/-- Keywords with a value for the field, others before and after it. -/
def keywords (n : Nesting) (before after : Keywords) (v : Value) : Keywords :=
  before ++ (n.field, v) :: after

/-- What is told of dictionaries in the field: of each that is refused alone, its index and the
report; and that there are too few, if all are refused. -/
def complaints (n : Nesting) (ds : List Keywords) : List String :=
  (ds.zipIdx.filterMap fun e => (Parameter.refusal? n.inner e.1).map fun text =>
    n.field ++ "." ++ toString e.2 ++ ": " ++ text) ++
  if ds.all fun d => (Parameter.refusal? n.inner d).isSome then
    [n.field ++ ": Tuple should have at least 1 item after validation, not 0"] else []

variable {n : Nesting} {before after : Keywords} {v v' : Value} {items : List Value}
  {ds : List Keywords}

/-! ## Keywords -/

theorem find?_keywords_field (new : n.field ∉ before.map Prod.fst) :
    (n.keywords before after v).find? n.field = some v := by
  have absent : List.find? (fun e => e.1 == n.field) before = none := by
    rw [List.find?_eq_none]
    intro e member same
    exact new (beq_iff_eq.mp same ▸ List.mem_map_of_mem member)
  simp [Keywords.find?, keywords, List.find?_append, absent]

theorem find?_keywords_of_ne {name : String} (other : name ≠ n.field) :
    (n.keywords before after v).find? name = (n.keywords before after v').find? name := by
  simp [Keywords.find?, keywords, List.find?_append, other.symm]

/-! ## Aborts -/

theorem abort?_inner (d : Keywords) :
    n.inner.abort? d = if (d.find? Blueprint.receiver).isSome then some .receiverNamed else none := by
  cases n <;> rfl

theorem abort?_outer (kw : Keywords) :
    n.outer.abort? kw = if (kw.find? Blueprint.receiver).isSome then some .receiverNamed
      else (kw.find? n.field).bind ParamClass.abortOfItems? := by
  cases n <;> simp [ParamClass.abort?, outer, field, ParamClass.durations, ParamClass.nested]

/-- Keywords with a row of dictionaries abort if they name the receiver, or one of these does. -/
theorem abort?_keywords (new : n.field ∉ before.map Prod.fst) (row : v.asRow? = some items)
    (hands : List.Forall₂ Codec.HandsOver items ds) :
    n.outer.abort? (n.keywords before after v) =
      if ((n.keywords before after v).find? Blueprint.receiver).isSome then some .receiverNamed
      else if ds.any fun d => (d.find? Blueprint.receiver).isSome then some .receiverNamed
      else none := by
  rw [abort?_outer, find?_keywords_field new, Option.bind_some, ParamClass.abortOfItems?, row,
    Option.bind_some, Codec.findSome?_handOver? hands]

/-! ## What is reported of the field -/

theorem settled_inner {d : Keywords} (unnamed : d.find? Blueprint.receiver = none) :
    (n.inner.blueprint.build d).abort? = none := by
  rw [ParamClass.abort?_build, abort?_inner, unnamed]
  rfl

theorem entriesAt_field (row : v.asRow? = some items)
    (hands : List.Forall₂ Codec.HandsOver items ds)
    (unnamed : ∀ d ∈ ds, d.find? Blueprint.receiver = none) :
    n.outer.blueprint.fields.entriesAt n.field (some v) =
      (n.inner.blueprint.nestedEntries ds).map fun e => (.name n.field :: e.1, e.2) := by
  have settled : ∀ d ∈ ds, (n.inner.blueprint.build d).abort? = none := fun d member =>
    settled_inner (unnamed d member)
  cases n with
  | schemas =>
      have reported : ((Codec.many 1 FieldSchema.codec).read v).entries =
          FieldSchema.blueprint.nestedEntries ds :=
        Codec.entries_many_parameter (fun _ => rfl) row hands settled
      have last : (outer .schemas).blueprint.fields.entriesAt "field_types" (some v) =
          (((Codec.many 1 FieldSchema.codec).read v).under (.name "field_types")).entries := by
        simp [outer, ParamClass.blueprint, Operation.blueprint, CollectionSchema.blueprint,
          Blueprint.plain, Fields.name, Fields.entriesAt, Fields.readField]
      exact last.trans (by rw [Verdict.entries_under, reported]; rfl)
  | columns =>
      have reported : ((Codec.many 1 NamedColumn.codec).read v).entries =
          NamedColumn.blueprint.nestedEntries ds :=
        Codec.entries_many_parameter (fun _ => rfl) row hands settled
      have last : (outer .columns).blueprint.fields.entriesAt "fields" (some v) =
          (((Codec.many 1 NamedColumn.codec).read v).under (.name "fields")).entries := by
        simp [outer, ParamClass.blueprint, Operation.blueprint, Insertion.blueprint, Fields.name,
          Fields.entriesAt, Fields.readField]
      exact last.trans (by rw [Verdict.entries_under, reported]; rfl)

/-- The texts of what is reported of the field. -/
theorem messages_field (n : Nesting) (ds : List Keywords) :
    Fault.messages ((n.inner.blueprint.nestedEntries ds).map fun e => (.name n.field :: e.1, e.2)) =
      n.complaints ds := by
  have named : n.field ≠ "" := by cases n <;> decide
  rw [Blueprint.messages_nestedEntries _ named, complaints]
  simp only [Parameter.refusal?_eq, Option.isSome_map, Option.map_map, Function.comp_def]

/-! ## Dictionaries and objects -/

section Built

variable {α : Type} {b : Blueprint α} {wrap : α → Value} {unwrap? : Value → Option α}
  {ps : List Parameter}

/-- A field is read alike from dictionaries and from what they build. -/
theorem readField_of_built (unbuilt : ∀ entries, unwrap? (.dict entries) = none)
    (row : v.asRow? = some items) (hands : List.Forall₂ Codec.HandsOver items ds)
    (row' : v'.asRow? = some (ps.map Parameter.toValue))
    (built : List.Forall₂ (fun d p => ∃ a, b.build d = .accepted a ∧
      unwrap? p.toValue = some a) ds ps) (name : String) :
    Fields.readField name (.many 1 (.parameter b wrap unwrap?)) none (some v) =
      Fields.readField name (.many 1 (.parameter b wrap unwrap?)) none (some v') := by
  have elements : List.Forall₂ (fun u u' => (Codec.parameter b wrap unwrap?).read u =
      (Codec.parameter b wrap unwrap?).read u') items (ps.map Parameter.toValue) := by
    clear row row'
    induction hands generalizing ps with
    | nil =>
        cases built
        exact .nil
    | cons here _ ih =>
        obtain ⟨p, ps, ⟨a, accepted, back⟩, later, rfl⟩ := List.forall₂_cons_left_iff.mp built
        refine .cons ?_ (ih later)
        rw [Codec.read_parameter_of_build unbuilt here accepted, Codec.parameter_eq_accepted_iff.mpr]
        exact .inl back
  rw [Fields.readField, Fields.readField, Codec.read_many_congr row row' elements]

end Built

/-- **Dictionaries stand for what they build.** -/
theorem require_built (new : n.field ∉ before.map Prod.fst) (row : v.asRow? = some items)
    (hands : List.Forall₂ Codec.HandsOver items ds) {ps : List Parameter}
    (built : List.Forall₂ (fun d p => Parameter.build n.inner d = .accepted p) ds ps)
    (row' : v'.asRow? = some (ps.map Parameter.toValue)) :
    Parameter.require n.outer (n.keywords before after v) =
      Parameter.require n.outer (n.keywords before after v') := by
  have names : (n.keywords before after v).map Prod.fst =
      (n.keywords before after v').map Prod.fst := by
    simp [keywords]
  have others : ∀ {α} {codec : Codec α} {default? : Option α} {name}, name ≠ n.field →
      Fields.readField name codec default? ((n.keywords before after v).find? name) =
        Fields.readField name codec default? ((n.keywords before after v').find? name) :=
    fun other => congrArg _ (find?_keywords_of_ne other)
  suffices alike : n.outer.blueprint.fields.ReadsAlike (n.keywords before after v)
      (n.keywords before after v') by
    rw [Parameter.require, Parameter.require, Parameter.build, Parameter.build,
      Blueprint.build_congr names alike]
  have here : (n.keywords before after v).find? n.field = some v := find?_keywords_field new
  have here' : (n.keywords before after v').find? n.field = some v' := find?_keywords_field new
  cases n with
  | schemas =>
      have last : Fields.readField "field_types" (.many 1 FieldSchema.codec) none
          ((schemas.keywords before after v).find? schemas.field) =
          Fields.readField "field_types" (.many 1 FieldSchema.codec) none
            ((schemas.keywords before after v').find? schemas.field) := by
        rw [here, here']
        refine readField_of_built (fun _ => rfl) row hands row' (built.imp fun d p made => ?_) _
        obtain ⟨f, accepted, rfl⟩ := Verdict.map_eq_accepted_iff.mp made
        exact ⟨f, accepted, rfl⟩
      exact ⟨others (by decide), others (by decide), others (by decide), last, trivial⟩
  | columns =>
      have last : Fields.readField "fields" (.many 1 NamedColumn.codec) none
          ((columns.keywords before after v).find? columns.field) =
          Fields.readField "fields" (.many 1 NamedColumn.codec) none
            ((columns.keywords before after v').find? columns.field) := by
        rw [here, here']
        refine readField_of_built (fun _ => rfl) row hands row' (built.imp fun d p made => ?_) _
        obtain ⟨c, accepted, rfl⟩ := Verdict.map_eq_accepted_iff.mp made
        exact ⟨c, accepted, rfl⟩
      exact ⟨others (by decide), others (by decide), last, trivial⟩

/-- A refusal is told of. -/
theorem complaints_ne_nil {d : Keywords} (member : d ∈ ds)
    (refused : (Parameter.refusal? n.inner d).isSome) : n.complaints ds ≠ [] := by
  obtain ⟨text, told⟩ := Option.isSome_iff_exists.mp refused
  rw [← List.zipIdx_map_fst 0 ds] at member
  obtain ⟨e, among, rfl⟩ := List.mem_map.mp member
  intro empty
  have nothing := List.filterMap_eq_nil_iff.mp (List.append_eq_nil_iff.mp empty).1 e among
  rw [told] at nothing
  cases nothing

/-- **Dictionaries that are refused are reported at their index, with the report of their own.** -/
theorem require_refused (new : n.field ∉ before.map Prod.fst) (row : v.asRow? = some items)
    (hands : List.Forall₂ Codec.HandsOver items ds)
    (unnamed : (n.keywords before after v).find? Blueprint.receiver = none)
    (innerUnnamed : ∀ d ∈ ds, d.find? Blueprint.receiver = none)
    (refused : ∃ d ∈ ds, (Parameter.refusal? n.inner d).isSome) :
    ∃ entries, Parameter.require n.outer (n.keywords before after v) =
        .error (.refused ⟨n.outer.title, entries⟩) ∧
      Fault.messages (entries.filter (Entry.isAt n.field)) = n.complaints ds ∧
      (n.outer.blueprint.OtherwiseValid [n.field] (n.keywords before after v) →
        ∀ e ∈ entries, e.isAt n.field) := by
  have settled : (Parameter.build n.outer (n.keywords before after v)).abort? = none := by
    have none_named : (ds.any fun d => (d.find? Blueprint.receiver).isSome) = false := by
      rw [List.any_eq_false]
      intro d member
      rw [innerUnnamed d member]
      exact Bool.false_ne_true
    rw [Parameter.build, Verdict.abort?_map, ParamClass.abort?_build,
      abort?_keywords new row hands, unnamed, none_named]
    rfl
  have told : Fault.messages (n.outer.blueprint.fields.entriesAt n.field
      ((n.keywords before after v).find? n.field)) = n.complaints ds := by
    rw [find?_keywords_field new, entriesAt_field row hands innerUnnamed, messages_field]
  have complained : n.complaints ds ≠ [] := by
    obtain ⟨d, member, refused⟩ := refused
    exact complaints_ne_nil member refused
  have among : n.field ∈ n.outer.blueprint.fields.names := by cases n <;> decide
  have reports := Parameter.reports_entries settled
  have reported : Fault.messages
      ((Parameter.build n.outer (n.keywords before after v)).entries.filter
        (Entry.isAt n.field)) = n.complaints ds := by
    rw [reports.filter_isAt n.outer.named.distinct among, told]
  refine ⟨_, ?_, reported, fun valid => reports.isAt_of_otherwiseValid valid ?_⟩
  · have faulty : (Parameter.build n.outer (n.keywords before after v)).entries ≠ [] := by
      intro sound
      rw [sound] at reported
      exact complained reported.symm
    rw [Parameter.require, Verdict.eq_rejected_of_entries_ne_nil faulty]
    rfl
  · intro sound
    rw [← Fields.filter_entries n.outer.named.distinct, sound] at told
    exact complained told.symm

/-- **A dictionary that names the receiver keeps the whole from being built.** -/
theorem require_aborted (new : n.field ∉ before.map Prod.fst) (row : v.asRow? = some items)
    (hands : List.Forall₂ Codec.HandsOver items ds) {d : Keywords} (member : d ∈ ds)
    (named : (d.find? Blueprint.receiver).isSome) :
    Parameter.require n.inner d = .error (.aborted .receiverNamed) ∧
      Parameter.require n.outer (n.keywords before after v) =
        .error (.aborted .receiverNamed) := by
  have some_named : (ds.any fun d => (d.find? Blueprint.receiver).isSome) = true :=
    List.any_eq_true.mpr ⟨d, member, named⟩
  constructor
  · rw [Parameter.require_eq_aborted_iff, abort?_inner, if_pos named]
  · rw [Parameter.require_eq_aborted_iff, abort?_keywords new row hands, some_named, if_pos rfl,
      ite_self]

/-- Of dictionaries in the field: if each builds alone, the whole comes out as it does from what
they build, with the same report, or with the same parameter and so with the same request.  If
some are refused alone and none names the receiver, the whole is refused; of the field its report
tells just the refusals in order, and that there are too few if all are refused, and it tells of
nothing else if the other keywords are valid.  If one names the receiver, neither it nor the
whole ends with a parameter or a report. -/
theorem dictionaries_stand_in (n : Nesting) (before after : Keywords) {v : Value}
    {items : List Value} {ds : List Keywords} (new : n.field ∉ before.map Prod.fst)
    (row : v.asRow? = some items) (hands : List.Forall₂ Codec.HandsOver items ds) :
    (∀ (ps : List Parameter) (v' : Value),
      List.Forall₂ (fun d p => Parameter.build n.inner d = .accepted p) ds ps →
      v'.asRow? = some (ps.map Parameter.toValue) →
      Parameter.require n.outer (n.keywords before after v) =
        Parameter.require n.outer (n.keywords before after v')) ∧
    ((n.keywords before after v).find? Blueprint.receiver = none →
      (∀ d ∈ ds, d.find? Blueprint.receiver = none) →
      (∃ d ∈ ds, (Parameter.refusal? n.inner d).isSome) →
      ∃ entries, Parameter.require n.outer (n.keywords before after v) =
          .error (.refused ⟨n.outer.title, entries⟩) ∧
        Fault.messages (entries.filter (Entry.isAt n.field)) = n.complaints ds ∧
        (n.outer.blueprint.OtherwiseValid [n.field] (n.keywords before after v) →
          ∀ e ∈ entries, e.isAt n.field)) ∧
    ∀ d ∈ ds, (d.find? Blueprint.receiver).isSome →
      Parameter.require n.inner d = .error (.aborted .receiverNamed) ∧
        Parameter.require n.outer (n.keywords before after v) =
          .error (.aborted .receiverNamed) :=
  ⟨fun _ _ built row' => require_built new row hands built row',
    fun unnamed innerUnnamed refused =>
      require_refused new row hands unnamed innerUnnamed refused,
    fun _ member named => require_aborted new row hands member named⟩

/-! ## Columns of people -/

/-- The collection of people. -/
def people : Keywords := [("collection_name", .text "people")]

/-- A column as a dictionary. -/
def ages : List (Value × Value) :=
  [(.text "name", .text "age"), (.text "data_type", .text "INT64"),
   (.text "values", .list [.int 31, .int 54])]

/-- The keywords of the column. -/
def agesGiven : Keywords :=
  [("name", .text "age"), ("data_type", .text "INT64"), ("values", .list [.int 31, .int 54])]

/-- The column as a parameter, beside an empty dictionary, and beside one that names the
receiver. -/
theorem dictionaries_stand_in_people :
    (∃ p, Parameter.build .namedColumn agesGiven = .accepted p ∧
      Parameter.require (.operation .insert)
          (columns.keywords people [] (.list [.dict ages])) =
        Parameter.require (.operation .insert)
          (columns.keywords people [] (.list [p.toValue]))) ∧
    (∃ entries, Parameter.require (.operation .insert)
          (columns.keywords people [] (.list [.dict ages, .dict []])) =
        .error (.refused ⟨"InsertParam", entries⟩) ∧
      Fault.messages (entries.filter (Entry.isAt "fields")) =
        ["fields.1: Invalid InsertField: name: Field required; data_type: Field required; " ++
          "values: Field required"] ∧
      ∀ e ∈ entries, e.isAt "fields") ∧
    Parameter.require (.operation .insert)
        (columns.keywords people [] (.list [.dict ages, .dict [(.text "self", .none)]])) =
      .error (.aborted .receiverNamed) := by
  have new : columns.field ∉ people.map Prod.fst := by decide
  have given : Codec.HandsOver (.dict ages) agesGiven := ⟨ages, rfl, rfl⟩
  have empty : Codec.HandsOver (.dict []) [] := ⟨[], rfl, rfl⟩
  have named : Codec.HandsOver (.dict [(.text "self", .none)]) [("self", .none)] := ⟨_, rfl, rfl⟩
  refine ⟨⟨_, rfl, ?_⟩, ?_, ?_⟩
  · exact (dictionaries_stand_in columns people [] new rfl (.cons given .nil)).1 [_] (.list [_])
      (.cons rfl .nil) rfl
  · have row : (Value.list [.dict ages, .dict []]).asRow? = some [.dict ages, .dict []] := rfl
    obtain ⟨entries, refused, told, alone⟩ :=
      (dictionaries_stand_in columns people [] new row (.cons given (.cons empty .nil))).2.1
        (by decide) (by decide) ⟨[], by simp, by decide +kernel⟩
    exact ⟨entries, refused, told.trans (by decide +kernel), alone ⟨by decide, by decide +kernel⟩⟩
  · exact ((dictionaries_stand_in columns people [] new rfl
      (.cons given (.cons named .nil))).2.2 _ (.tail _ (.head _)) rfl).2

/-- Insertion from a dictionary that is refused alone, and one that names the receiver, ends
without a report. -/
theorem require_refusedBesideReceiver :
    (Parameter.refusal? .namedColumn []).isSome ∧
      Parameter.require (.operation .insert)
          [("collection_name", .text "c"),
           ("fields", .list [.dict [], .dict [(.text "self", .int 1)]])] =
        .error (.aborted .receiverNamed) := by
  refine ⟨by decide +kernel, ?_⟩
  rw [Parameter.require_eq_aborted_iff]
  rfl

end Nesting

end VectorClient
