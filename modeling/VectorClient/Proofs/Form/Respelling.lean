/-
# VectorClient.Proofs.Form.Respelling — one parameter from two dictionaries

Two dictionaries of keywords with the same names in the same order, whose values are
related at each name (`Keywords.Related`), leave the same keywords unknown.  If no
field tells the values apart, they build one parameter (`Blueprint.build_of_blind`);
a field that keeps them apart is read to related values
(`Fields.readField_of_related`), and the cross-field check decides.

A nested parameter is read alike from every spelling of its dictionary
(`Codec.Blind.parameter`).
-/
import VectorClient.Proofs.Form.Spelling
import VectorClient.Proofs.Param.Accepted
import Mathlib.Data.Option.Defs

namespace VectorClient

set_option autoImplicit false

/-! ## Keywords -/

namespace Keywords

variable {R : String → Value → Value → Prop} {kw kw' : Keywords}

/-- The same names in the same order, with values that are related at each name. -/
def Related (kw : Keywords) (R : String → Value → Value → Prop) (kw' : Keywords) : Prop :=
  List.Forall₂ (fun e e' => e.1 = e'.1 ∧ R e.1 e.2 e'.2) kw kw'

/-- The same names in the same order, with spellings of the same values. -/
abbrev Alike (kw kw' : Keywords) : Prop := kw.Related (fun _ => Value.Alike) kw'

theorem Related.symm (symmetric : ∀ name v v', R name v v' → R name v' v)
    (related : kw.Related R kw') : kw'.Related R kw := by
  induction related with
  | nil => exact .nil
  | cons here _ ih =>
      refine .cons ⟨here.1.symm, ?_⟩ ih
      rw [← here.1]
      exact symmetric _ _ _ here.2

theorem Related.find? (related : kw.Related R kw') (name : String) :
    Option.Rel (R name) (kw.find? name) (kw'.find? name) := by
  induction related with
  | nil => exact .none
  | @cons e e' rest rest' here later ih =>
      obtain ⟨key, v⟩ := e
      obtain ⟨key', v'⟩ := e'
      obtain ⟨rfl, values⟩ : key = key' ∧ R key v v' := here
      by_cases found : key = name
      · subst found
        simpa [Keywords.find?] using values
      · simpa [Keywords.find?, List.find?_cons_of_neg, found] using ih

theorem Related.isSome_find? (related : kw.Related R kw') (name : String) :
    (kw.find? name).isSome = (kw'.find? name).isSome := by
  have found := related.find? name
  generalize kw.find? name = v? at found
  generalize kw'.find? name = v?' at found
  cases found <;> rfl

end Keywords

namespace Blueprint

variable {α : Type} {R : String → Value → Value → Prop} {b : Blueprint α} {kw kw' : Keywords}

theorem namesReceiver_of_related (related : kw.Related R kw') :
    b.namesReceiver kw = b.namesReceiver kw' := by
  rw [namesReceiver, namesReceiver, related.isSome_find?]

theorem unknown_of_related (related : kw.Related R kw') : b.unknown kw = b.unknown kw' := by
  have unknowns : ∀ {β : Type} (fields : Fields β), fields.unknown kw = fields.unknown kw' := by
    intro β fields
    unfold Fields.unknown
    induction related with
    | nil => rfl
    | cons here _ ih =>
        rw [List.filter_cons, List.filter_cons, here.1]
        split
        · rw [List.map_cons, List.map_cons, ih, here.1]
        · exact ih
  unfold unknown
  split
  · exact unknowns b.fields
  · rfl

/-- A parameter is built from related keywords if their fields are read and fit. -/
theorem build_of_related (related : kw.Related R kw') {a a' : α} {raw : b.Raw}
    (built : b.build kw = .accepted a) (read : b.fields.read kw' = .accepted raw)
    (packed : b.pack raw = .ok a') : b.build kw' = .accepted a' := by
  obtain ⟨unnamed, known, -⟩ := build_eq_accepted_iff.mp built
  rw [namesReceiver_of_related related] at unnamed
  rw [unknown_of_related related] at known
  exact build_eq_accepted_iff.mpr ⟨unnamed, known, raw, read, packed⟩

end Blueprint

/-! ## Fields -/

namespace Fields

variable {α : Type} {R : String → Value → Value → Prop} {kw kw' : Keywords} {name : String}
  {codec : Codec α} {default? : Option α} {a : α}

/-- Related values are read to related values, if every codec does so and the default is
related to itself. -/
theorem readField_of_related {E : α → α → Prop}
    (reads : ∀ v v' a, R name v v' → codec.read v = .accepted a →
      ∃ a', codec.read v' = .accepted a' ∧ E a a')
    (standard : ∀ a, E a a) (related : kw.Related R kw')
    (read : readField name codec default? (kw.find? name) = .accepted a) :
    ∃ a', readField name codec default? (kw'.find? name) = .accepted a' ∧ E a a' := by
  unfold readField at read ⊢
  simp only [Verdict.under_eq_accepted_iff] at read ⊢
  have found := related.find? name
  generalize kw.find? name = v? at read found
  generalize kw'.find? name = v?' at found ⊢
  cases found with
  | some values => exact reads _ _ a values read
  | none => exact ⟨a, read, standard a⟩

end Fields

/-- A codec that does not tell related values apart reads its field alike. -/
theorem Codec.BlindTo.readField {α : Type} {R : String → Value → Value → Prop}
    {kw kw' : Keywords} {name : String} {codec : Codec α} {default? : Option α} {a : α}
    (blind : codec.BlindTo (R name)) (related : kw.Related R kw')
    (read : Fields.readField name codec default? (kw.find? name) = .accepted a) :
    Fields.readField name codec default? (kw'.find? name) = .accepted a := by
  obtain ⟨a', read', rfl⟩ := Fields.readField_of_related
    (fun v v' a values read => ⟨a, blind v v' a values read, rfl⟩) Eq.refl related read
  exact read'

namespace Fields

variable {α : Type} {R : String → Value → Value → Prop} {kw kw' : Keywords} {name : String}
  {codec : Codec α} {default? : Option α}

/-- No field tells related values apart. -/
def Blind (R : String → Value → Value → Prop) : {α : Type} → Fields α → Prop
  | _, .nil => True
  | _, .cons name codec _ rest => codec.BlindTo (R name) ∧ rest.Blind R

@[simp]
theorem blind_nil : Fields.nil.Blind R := trivial

@[simp]
theorem blind_cons_iff {β : Type} {rest : Fields β} :
    (Fields.cons name codec default? rest).Blind R ↔ codec.BlindTo (R name) ∧ rest.Blind R :=
  Iff.rfl

theorem read_of_blind (related : kw.Related R kw') :
    ∀ {α : Type} {fields : Fields α} {raw : α}, fields.Blind R →
      fields.read kw = .accepted raw → fields.read kw' = .accepted raw
  | _, .nil, _, _, read => read
  | _, .cons name codec default? rest, (a, more), blind, read => by
      rw [read_cons_eq_accepted_iff] at read ⊢
      exact ⟨blind.1.readField related read.1, read_of_blind related blind.2 read.2⟩

end Fields

namespace Blueprint

variable {α : Type} {R : String → Value → Value → Prop} {b : Blueprint α}

/-- Keywords that no field tells apart build one parameter. -/
theorem build_of_blind (blind : b.fields.Blind R) {kw kw' : Keywords} (related : kw.Related R kw')
    {a : α} (built : b.build kw = .accepted a) : b.build kw' = .accepted a := by
  obtain ⟨-, -, raw, read, packed⟩ := build_eq_accepted_iff.mp built
  exact build_of_related related built (Fields.read_of_blind related blind read) packed

/-- A class that takes all spellings of its keywords for the same. -/
def Blind (b : Blueprint α) : Prop :=
  ∀ kw kw' a, kw.Alike kw' → b.build kw = .accepted a → b.build kw' = .accepted a

end Blueprint

/-! ## Nested parameters -/

namespace Codec

/-- Spellings of a dictionary are handed on as spellings of its keywords. -/
theorem keywords?_of_alike {entries entries' : List (Value × Value)}
    (alike : List.Forall₂ (fun e e' => e.1.Alike e'.1 ∧ e.2.Alike e'.2) entries entries')
    {kw : Keywords} (handed : keywords? entries = some kw) :
    ∃ kw', keywords? entries' = some kw' ∧ kw.Alike kw' := by
  induction alike generalizing kw with
  | nil =>
      cases handed
      exact ⟨[], rfl, .nil⟩
  | @cons e e' rest rest' here _ ih =>
      rw [keywords?] at handed
      split at handed
      · rename_i name more key later
        cases handed
        obtain ⟨more', later', alike⟩ := ih later
        refine ⟨(name, e'.2) :: more', ?_, .cons ⟨rfl, here.2⟩ alike⟩
        rw [keywords?, ← here.1.asText?, key, later']
      · cases handed

/-- A nested parameter is read alike from every spelling, if its class is blind and a
parameter that was built before has but one spelling. -/
theorem Blind.parameter {α : Type} {b : Blueprint α} (blind : b.Blind) {wrap : α → Value}
    {unwrap? : Value → Option α} (unspelled : ∀ v v', v.Alike v' → unwrap? v = unwrap? v') :
    (Codec.parameter b wrap unwrap?).Blind := by
  intro v v' a alike read
  rw [parameter_eq_accepted_iff] at read ⊢
  rw [← unspelled v v' alike]
  rcases read with built | ⟨unbuilt, entries, kw, rfl, handed, built⟩
  · exact .inl built
  · obtain ⟨entries', rfl, same⟩ := alike.dict
    obtain ⟨kw', handed', alike'⟩ := keywords?_of_alike same handed
    exact .inr ⟨unbuilt, entries', kw', rfl, handed', blind kw kw' a alike' built⟩

end Codec

end VectorClient
