/-
# VectorClient.Form.Blueprint — classes of parameters

A class of parameters is a title, a list of named fields, and a cross-field
check.  `Fields` is the list: each field has a codec and perhaps a default, and
the type of the whole is the nested product of the field types.  `Blueprint`
adds the check, `pack`, which turns the product into the parameter itself, and
its inverse `unpack`.

Building (`Blueprint.build`) reports the faults of the fields in order of
declaration, then every unknown keyword in the order given; the cross-field
check speaks only when there is nothing else to report.  A keyword that takes
the name a parameter has for itself is not reported: it aborts the building.
-/
import VectorClient.Form.Codec

namespace VectorClient

set_option autoImplicit false

/-- Named fields in order of declaration. -/
inductive Fields : Type → Type 1 where
  | nil : Fields Unit
  | cons {α β : Type} (name : String) (codec : Codec α) (default? : Option α)
      (rest : Fields β) : Fields (α × β)

namespace Fields

/-- Reads one field under its name; a missing one takes its default. -/
def readField {α : Type} (name : String) (codec : Codec α) (default? : Option α)
    (v? : Option Value) : Verdict α :=
  (match v?, default? with
    | some v, _ => codec.read v
    | none, some a => .accepted a
    | none, none => .refuse .missing).under (.name name)

def names : {α : Type} → Fields α → List String
  | _, .nil => []
  | _, .cons name _ _ rest => name :: rest.names

/-- Reads every field from the keywords. -/
def read : {α : Type} → Fields α → Keywords → Verdict α
  | _, .nil, _ => .accepted ()
  | _, .cons name codec default? rest, kw =>
      .both Prod.mk (readField name codec default? (Keywords.find? kw name)) (rest.read kw)

/-- Every field with its value as stored. -/
def write : {α : Type} → Fields α → α → Keywords
  | _, .nil, _ => []
  | _, .cons name codec _ rest, (a, more) => (name, codec.write a) :: rest.write more

/-- One entry for each keyword that names no field, in the order given. -/
def unknown {α : Type} (fields : Fields α) (kw : Keywords) : List Entry :=
  (kw.filter fun e => !fields.names.contains e.1).map fun e => ([.name e.1], .unknownKeyword)

end Fields

/-- What becomes of keywords that name no field. -/
inductive Extras where
  | refused
  | ignored
  deriving DecidableEq, Repr

/-- A class of parameters of type `α`. -/
structure Blueprint (α : Type) : Type 1 where
  title : String
  /-- The product of the field types. -/
  Raw : Type
  fields : Fields Raw
  /-- The cross-field check. -/
  pack : Raw → Except Inconsistency α
  unpack : α → Raw
  extras : Extras := .refused

namespace Blueprint

variable {α : Type}

/-- A class without a cross-field check. -/
def plain (title : String) {ρ : Type} (fields : Fields ρ) (pack : ρ → α) (unpack : α → ρ) :
    Blueprint α where
  title
  Raw := ρ
  fields
  pack raw := .ok (pack raw)
  unpack

/-- The entries for unknown keywords. -/
def unknown (b : Blueprint α) (kw : Keywords) : List Entry :=
  match b.extras with
  | .refused => b.fields.unknown kw
  | .ignored => []

/-- The name that a parameter has for itself while it is built. -/
def receiver : String := "self"

/-- Does a keyword take the name that the parameter has for itself?  Classes that
ignore unknown keywords ignore that one as well. -/
def namesReceiver (b : Blueprint α) (kw : Keywords) : Bool :=
  b.extras == .refused && (kw.find? receiver).isSome

/-- Reads the fields, then checks them against each other. -/
def buildFields (b : Blueprint α) (kw : Keywords) : Verdict α :=
  ((b.fields.read kw).alsoRefuse (b.unknown kw)).bind fun raw =>
    match b.pack raw with
    | .ok a => .accepted a
    | .error cause => .refuse (.inconsistent cause)

/-- Builds the parameter from keywords. -/
def build (b : Blueprint α) (kw : Keywords) : Verdict α :=
  if b.namesReceiver kw then .aborted .receiverNamed else b.buildFields kw

/-- The report of a rejection. -/
def report (b : Blueprint α) (entries : List Entry) : Report := ⟨b.title, entries⟩

/-- The fields of a parameter as they are stored. -/
def view (b : Blueprint α) (a : α) : Keywords := b.fields.write (b.unpack a)

end Blueprint

namespace Codec

variable {α : Type}

/-- The keywords of a dictionary, if all its keys are texts. -/
def keywords? : List (Value × Value) → Option Keywords
  | [] => some []
  | (k, v) :: rest =>
      match k.asText?, keywords? rest with
      | some name, some kw => some ((name, v) :: kw)
      | _, _ => none

/-- A nested parameter: one that was built before, or a dictionary of keywords.
Its own rejection is a single fault. -/
def parameter (b : Blueprint α) (wrap : α → Value) (unwrap? : Value → Option α) : Codec α where
  read v := match unwrap? v with
    | some a => .accepted a
    | none => match v with
      | .dict entries => match keywords? entries with
        | none => .aborted .keywordNotText
        | some kw => match b.build kw with
          | .rejected inner => .refuse (.refused b.title inner)
          | verdict => verdict
      | _ => .refuse (.notAParameter b.title)
  write := wrap

end Codec

end VectorClient
