/-
# VectorClient.Proofs.Param.Reports — reports are put together field by field

What a report says at a field is the same whatever other keywords are given, right
or wrong, known or unknown.  Every report is those of the declared fields in order,
then one entry for each keyword that names no field, and the cross-field check
adds its one entry to reports that would be empty without it.

* `ParamClass.grounded_fields`: no class rejects a field without an entry.
* `Parameter.reports_compose`: the report of every class, and what it does not depend on.
-/
import VectorClient.Proofs.Form.Reports
import VectorClient.Proofs.Param.Aborts
import VectorClient.Proofs.Param.Storing

namespace VectorClient

set_option autoImplicit false

/-! ## Fields -/

@[simp]
theorem FieldSchema.grounded_codec : FieldSchema.codec.Grounded := by
  refine Codec.grounded_parameter _ _ _ (Blueprint.grounded_build (by decide) ?_)
  simp [blueprint, Fields.name, Fields.switch]

@[simp]
theorem NamedColumn.grounded_codec : NamedColumn.codec.Grounded := by
  refine Codec.grounded_parameter _ _ _ (Blueprint.grounded_build (by decide) ?_)
  simp [blueprint, Fields.name]

namespace ParamClass

theorem grounded_fields (c : ParamClass) : c.blueprint.fields.Grounded := by
  cases c with
  | fieldSchema => simp [blueprint, FieldSchema.blueprint, Fields.name, Fields.switch]
  | namedColumn => simp [blueprint, NamedColumn.blueprint, Fields.name]
  | connection => simp [blueprint, Connection.blueprint, Blueprint.plain, Fields.switch]
  | operation o =>
      cases o with
      | createCollection | insert =>
          simp [blueprint, Operation.blueprint, CollectionSchema.blueprint, Insertion.blueprint,
            Blueprint.plain, Fields.name, Codec.Grounded.many]
      | loadCollection | loadPartitions | flush | createIndex =>
          simp [blueprint, Operation.blueprint, CollectionLoad.blueprint, PartitionLoad.blueprint,
            Flush.blueprint, IndexBuild.blueprint, Blueprint.plain, Fields.name, Fields.someNames,
            Fields.pacing, Fields.switch]
      | delete | search | query | calcDistance =>
          simp [blueprint, Operation.blueprint, Deletion.blueprint, Search.blueprint,
            Query.blueprint, Distance.blueprint, Blueprint.plain, Fields.name, Fields.anyNames,
            Codec.timestamp]
      | _ =>
          simp [blueprint, Operation.blueprint, CollectionTarget.blueprint,
            PartitionTarget.blueprint, PartitionSet.blueprint, PartitionSet.listing,
            CollectionSet.listing, AliasTarget.blueprint, AliasBinding.blueprint,
            FieldTarget.blueprint, MetricsQuery.blueprint, StatisticsQuery.blueprint,
            Blueprint.plain, Fields.name, Fields.anyNames, Fields.someNames, Fields.switch]

/-- Each keyword that names no field is reported by its name, in the order given. -/
theorem unknown_eq (c : ParamClass) (kw : Keywords) : c.blueprint.unknown kw =
    (kw.filter fun e => decide (e.1 ∉ c.blueprint.fields.names)).map fun e =>
      ([.name e.1], .unknownKeyword) := by
  simp only [Blueprint.unknown, c.extras_blueprint, Fields.unknown, List.contains_eq_mem,
    decide_not]

end ParamClass

/-! ## Reports -/

namespace Parameter

variable {c : ParamClass} {kw : Keywords}

theorem grounded_build (c : ParamClass) (kw : Keywords) : (build c kw).Grounded :=
  (Blueprint.grounded_build c.named.distinct c.grounded_fields kw).map _

/-- The report of what was built, whether accepted or not. -/
theorem reports_entries (settled : (build c kw).abort? = none) :
    c.blueprint.Reports kw (build c kw).entries := by
  rw [build, Verdict.abort?_map] at settled
  rw [build, Verdict.entries_map]
  rcases Blueprint.build_reports c.named.distinct c.grounded_fields settled with
    ⟨⟨param, built⟩, sound⟩ | ⟨report, refused, reports, -⟩
  · rwa [built]
  · rwa [refused]

/-- The report of a class is made of reports on single fields, each of which depends on the
value of that field alone; of the keywords that name no field, each has an entry of its own,
in the order given; and how fields clash is the whole report, wherever it is part of one. -/
theorem reports_compose (c : ParamClass) :
    (∀ (kw kw' : Keywords) (name : String), (build c kw).abort? = none →
      (build c kw').abort? = none → name ∈ c.blueprint.fields.names →
      kw.find? name = kw'.find? name →
      (build c kw).entries.filter (Entry.isAt name) =
        (build c kw').entries.filter (Entry.isAt name)) ∧
    (∀ kw : Keywords, (build c kw).abort? = none → ∃ report,
      (∀ other, c.blueprint.Reports kw other ↔ other = report) ∧
      ((∃ p, build c kw = .accepted p) ↔ report = []) ∧
      ∀ entries, build c kw = .rejected entries ↔ entries = report ∧ report ≠ []) ∧
    (∀ (kw : Keywords) (entries : List Entry), build c kw = .rejected entries →
      ∀ e ∈ entries, e.1 = [] → entries = [e] ∧ ∃ cause, e.2 = .inconsistent cause) ∧
    (∀ (name : String) (v? : Option Value),
      (∀ e ∈ c.blueprint.fields.entriesAt name v?, e.isAt name) ∧
        (v? = none → c.blueprint.fields.entriesAt name v? = [] ∨
          c.blueprint.fields.entriesAt name v? = [([.name name], .missing)])) ∧
    ∀ kw : Keywords, c.blueprint.unknown kw =
      (kw.filter fun e => decide (e.1 ∉ c.blueprint.fields.names)).map fun e =>
        ([.name e.1], .unknownKeyword) := by
  refine ⟨fun kw kw' name settled settled' among same => ?_, fun kw settled => ?_,
    fun kw entries refused e member nowhere => ?_, fun name v? => ⟨fun e => ?_, ?_⟩, fun kw => ?_⟩
  · rw [(reports_entries settled).filter_isAt c.named.distinct among,
      (reports_entries settled').filter_isAt c.named.distinct among, same]
  · refine ⟨(build c kw).entries, fun other => ⟨fun reports => ?_, fun same => ?_⟩, ?_, ?_⟩
    · exact reports.unique (reports_entries settled)
    · exact same ▸ reports_entries settled
    · rw [Verdict.exists_accepted_iff (grounded_build c kw)]
      exact and_iff_right settled
    · exact fun entries => Verdict.eq_rejected_iff (grounded_build c kw) settled
  · have settled : (build c kw).abort? = none := by rw [refused]; rfl
    have reports := reports_entries settled
    rw [refused] at reports
    exact reports.eq_singleton_of_nowhere member nowhere
  · exact Fields.isAt_of_mem_entriesAt
  · rintro rfl
    exact c.blueprint.fields.entriesAt_none name
  · exact c.unknown_eq kw

/-- A search for no neighbours, which is all that is wrong with it. -/
def searchForNone : Keywords :=
  [("collection_name", .text "films"), ("vector_field_name", .text "embedding"),
   ("top_k", .int 0), ("vectors", .list [.bytes [7]]), ("metric_type", .text "HAMMING")]

/-- A search for no neighbours among other mistakes: names are missing, the metric is none, and
there is a keyword that no search has. -/
def searchForNothing : Keywords :=
  [("speed", .int 1), ("top_k", .int 0), ("metric_type", .text "INVALID")]

theorem reports_compose_searchForNothing :
    (build (.operation .search) searchForNone).abort? = none ∧
      (build (.operation .search) searchForNothing).abort? = none ∧
      (build (.operation .search) searchForNothing).entries.filter (Entry.isAt "top_k") =
        (build (.operation .search) searchForNone).entries.filter (Entry.isAt "top_k") ∧
      Fault.messages (build (.operation .search) searchForNone).entries =
        ["top_k: Input should be greater than 0"] ∧
      (ParamClass.operation .search).blueprint.unknown searchForNothing =
        [([.name "speed"], .unknownKeyword)] ∧
      Fault.messages (build (.operation .search) searchForNothing).entries =
        ["collection_name: Field required",
         "metric_type: metric type is invalid",
         "vector_field_name: Field required",
         "top_k: Input should be greater than 0",
         "vectors: Field required",
         "speed: Extra inputs are not permitted"] := by
  have alone : (build (.operation .search) searchForNone).abort? = none := by decide +kernel
  have among : (build (.operation .search) searchForNothing).abort? = none := by decide +kernel
  obtain ⟨same, -, -, -, strangers⟩ := reports_compose (.operation .search)
  refine ⟨alone, among, ?_, by decide +kernel, ?_, by decide +kernel⟩
  · exact same searchForNothing searchForNone "top_k" among alone (by decide) rfl
  · rw [strangers]
    rfl

end Parameter

end VectorClient
