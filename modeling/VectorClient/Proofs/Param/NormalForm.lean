/-
# VectorClient.Proofs.Param.NormalForm — one normal form for parameters

However the keywords of a parameter are spelled, what comes of them is the same: either
nothing is built, or parameters with the same fields, the same derived values and the
same request or conversion fault (`Parameter.Matches`).  And what a parameter stores is
its normal form: built again from its own fields, it is itself.
-/
import VectorClient.Proofs.Param.Respelling
import VectorClient.Proofs.Param.Storing
import VectorClient.Request.Catalog

namespace VectorClient

set_option autoImplicit false

namespace ParamClass

/-- When two stored values are equal: exactly, and in the values of options up to members
and their words. -/
def storedAlike (c : ParamClass) (name : String) (v v' : Value) : Prop :=
  v = v' ∨ name ∈ c.options ∧ v.worded = v'.worded

end ParamClass

/-! ## Parameters that match -/

namespace Parameter

/-- Two parameters that are the same to everybody who reads their fields or sends their
requests. -/
structure Matches (p q : Parameter) : Prop where
  fields : p.fields.Related p.paramClass.storedAlike q.fields
  derived : p.derived = q.derived
  message : p.message? = q.message?
  /-- Only connections keep values that a caller can still tell apart. -/
  same : p.paramClass ≠ .connection → p = q

theorem Matches.refl (p : Parameter) : p.Matches p where
  fields := List.forall₂_same.mpr fun _ _ => ⟨rfl, .inl rfl⟩
  derived := rfl
  message := rfl
  same _ := rfl

/-- Options that are the same up to members and their words are stored as such. -/
theorem worded_options {options options' : List (String × Value)}
    (same : List.Forall₂ (fun o o' => o.1 = o'.1 ∧ o.2.worded = o'.2.worded) options options') :
    ((Codec.many 0 (.pair .text .anything)).write options).worded =
      ((Codec.many 0 (.pair .text .anything)).write options').worded := by
  have stored : ∀ options : List (String × Value),
      ((Codec.many 0 (.pair .text .anything)).write options).worded =
        .tuple (options.map fun o => .tuple [.text o.1, o.2.worded]) := by
    intro options
    refine congrArg Value.tuple ((Value.spelledItems_eq_map false _).trans ?_)
    rw [List.map_map]
    rfl
  rw [stored, stored, Value.tuple.injEq, Value.map_eq_map_iff_forall₂]
  refine same.imp fun o o' both => ?_
  rw [both.1, both.2]

/-- Connections that are the same up to members and their words match. -/
theorem matches_connection {p q : Connection} (same : p.SameUpToWords q) :
    Matches ⟨.connection, p⟩ ⟨.connection, q⟩ := by
  obtain ⟨settings, options⟩ := same
  cases p
  cases q
  simp only [Connection.mk.injEq, and_true] at settings
  obtain ⟨rfl, rfl, rfl, rfl, rfl, rfl, rfl, rfl, rfl, rfl, rfl, rfl⟩ := settings
  refine ⟨?_, rfl, rfl, fun other => absurd rfl other⟩
  -- The settings before the options are equal one by one.
  iterate 12 refine .cons ⟨rfl, .inl rfl⟩ ?_
  exact .cons ⟨rfl, .inr ⟨List.mem_singleton_self _, worded_options options⟩⟩ .nil

/-- Spellings of keywords build parameters that match. -/
theorem build_of_respelled {c : ParamClass} {kw kw' : Keywords} {p : Parameter}
    (related : kw.Related c.spelling kw') (built : build c kw = .accepted p) :
    ∃ q, build c kw' = .accepted q ∧ p.Matches q := by
  obtain ⟨param, made, rfl⟩ := Verdict.map_eq_accepted_iff.mp built
  by_cases connection : c = .connection
  · subst connection
    obtain ⟨other, made', same⟩ := Connection.build_of_respelled related made
    exact ⟨_, Verdict.map_eq_accepted_iff.mpr ⟨other, made', rfl⟩, matches_connection same⟩
  · have made' := c.build_of_respelled connection related made
    exact ⟨_, Verdict.map_eq_accepted_iff.mpr ⟨param, made', rfl⟩, .refl _⟩

/-- A parameter is built again from its own fields. -/
theorem build_fields {c : ParamClass} {kw : Keywords} {p : Parameter}
    (built : build c kw = .accepted p) : build c p.fields = .accepted p := by
  obtain ⟨param, made, rfl⟩ := Verdict.map_eq_accepted_iff.mp built
  exact Verdict.map_eq_accepted_iff.mpr ⟨param, c.build_view made, rfl⟩

/-- **Parameters have one normal form.**  Keywords in two spellings both build nothing, or
build parameters with the same fields, derived values and request; and a parameter is
built again, as it is, from the fields that it stores. -/
theorem one_normal_form (c : ParamClass) (kw : Keywords) :
    (∀ kw', kw.Related c.spelling kw' →
      ((∀ p, build c kw ≠ .accepted p) ∧ ∀ q, build c kw' ≠ .accepted q) ∨
        ∃ p q, build c kw = .accepted p ∧ build c kw' = .accepted q ∧ p.Matches q) ∧
      ∀ p, build c kw = .accepted p → build c p.fields = .accepted p := by
  refine ⟨fun kw' related => ?_, fun p => build_fields⟩
  by_cases builds : ∃ p, build c kw = .accepted p
  · obtain ⟨p, built⟩ := builds
    obtain ⟨q, built', same⟩ := build_of_respelled related built
    exact .inr ⟨p, q, built, built', same⟩
  · refine .inl ⟨fun p built => builds ⟨p, built⟩, fun q built' => ?_⟩
    -- The other spelling builds nothing either, since spellings go both ways.
    obtain ⟨p, built, -⟩ := build_of_respelled (related.symm c.spelling_symm) built'
    exact builds ⟨p, built⟩

/-- A load with its partitions in a list and an interval of one second. -/
def listedLoad : Keywords :=
  [("collection_name", .text "c"), ("partition_names", .list [.text "p"]),
    ("sync_load_waiting_interval", Value.int 1)]

/-- The same load with a tuple and a double. -/
def tupledLoad : Keywords :=
  [("collection_name", .text "c"), ("partition_names", .tuple [.text "p"]),
    ("sync_load_waiting_interval", .double (Number.Double.ofInt 1))]

theorem related_listedLoad :
    listedLoad.Related (ParamClass.spelling (.operation .loadPartitions)) tupledLoad := by
  have seconds : (Value.int 1).AlikeSeconds (.double (Number.Double.ofInt 1)) :=
    .inr ⟨_, _, rfl, rfl, by decide +kernel⟩
  exact .cons ⟨rfl, rfl⟩ (.cons ⟨rfl, rfl⟩ (.cons ⟨rfl, seconds⟩ .nil))

/-- What both of them build. -/
def partitionLoad : PartitionLoad :=
  ⟨"c", ["p"], false, Number.Double.ofInt 1, Defaults.loadTimeout⟩

theorem build_listedLoad :
    build (.operation .loadPartitions) listedLoad =
      .accepted ⟨.operation .loadPartitions, partitionLoad⟩ := by
  have made : (PartitionLoad.blueprint (Operation.paramTitle .loadPartitions)).build listedLoad =
      .accepted partitionLoad :=
    Verdict.accepted?_eq_some_iff.mp (by decide +kernel)
  exact Verdict.map_eq_accepted_iff.mpr ⟨partitionLoad, made, rfl⟩

/-- Both spellings build the load, and so do the fields that it stores. -/
theorem one_normal_form_partitionLoad :
    (((∀ p, build (.operation .loadPartitions) listedLoad ≠ .accepted p) ∧
          ∀ q, build (.operation .loadPartitions) tupledLoad ≠ .accepted q) ∨
        ∃ p q, build (.operation .loadPartitions) listedLoad = .accepted p ∧
          build (.operation .loadPartitions) tupledLoad = .accepted q ∧ p.Matches q) ∧
      build (.operation .loadPartitions) (fields ⟨.operation .loadPartitions, partitionLoad⟩) =
        .accepted ⟨.operation .loadPartitions, partitionLoad⟩ := by
  obtain ⟨spelled, stored⟩ := one_normal_form (.operation .loadPartitions) listedLoad
  exact ⟨spelled tupledLoad related_listedLoad, stored _ build_listedLoad⟩

end Parameter

end VectorClient
