/-
# VectorClient.Proofs.Form.Aborts — where reading ends without a report

A rejection comes with a report; an abort does not.  Every way of putting
readers together passes aborts on and adds none of its own, so what a whole
class aborts with is known from its fields alone (`Blueprint.abort?_build`).  Of
the readers of single values only numbers of seconds abort, and only on integers
past the last finite double (`Codec.abort?_seconds`); a nested parameter aborts
where its keywords cannot be handed on (`Codec.abort?_parameter`).
-/
import VectorClient.Form.Blueprint
import VectorClient.Proofs.Number.Overflow

namespace VectorClient

set_option autoImplicit false

/-! ## Verdicts -/

namespace Verdict

variable {α β γ : Type}

/-- The cause that ended the reading. -/
def abort? : Verdict α → Option Abort
  | .aborted cause => some cause
  | _ => none

@[simp]
theorem abort?_accepted (a : α) : (accepted a).abort? = none := rfl

@[simp]
theorem abort?_rejected (entries : List Entry) : (rejected entries : Verdict α).abort? = none := rfl

@[simp]
theorem abort?_aborted (cause : Abort) : (aborted cause : Verdict α).abort? = some cause := rfl

@[simp]
theorem abort?_refuse (fault : Fault) : (refuse fault : Verdict α).abort? = none := rfl

@[simp]
theorem abort?_map (f : α → β) (v : Verdict α) : (v.map f).abort? = v.abort? := by
  cases v <;> rfl

@[simp]
theorem abort?_under (step : Step) (v : Verdict α) : (v.under step).abort? = v.abort? := by
  cases v <;> rfl

@[simp]
theorem abort?_both (combine : α → β → γ) (v : Verdict α) (w : Verdict β) :
    (both combine v w).abort? = v.abort?.or w.abort? := by
  cases v <;> cases w <;> rfl

@[simp]
theorem abort?_alsoRefuse (v : Verdict α) (more : List Entry) :
    (v.alsoRefuse more).abort? = v.abort? := by
  cases v <;> cases more <;> rfl

/-- A further check that aborts nothing leaves the abort as it is. -/
theorem abort?_bind {f : α → Verdict β} (quiet : ∀ a, (f a).abort? = none) (v : Verdict α) :
    (v.bind f).abort? = v.abort? := by
  cases v with
  | accepted a => exact quiet a
  | rejected entries => rfl
  | aborted cause => rfl

end Verdict

/-! ## Readers -/

namespace Codec

variable {α β : Type}

/-- A reader that never aborts. -/
def Quiet (c : Codec α) : Prop := ∀ v, (c.read v).abort? = none

theorem abort?_checked (c : Codec α) (fault? : α → Option Fault) (v : Value) :
    ((c.checked fault?).read v).abort? = (c.read v).abort? := by
  refine Verdict.abort?_bind (fun a => ?_) _
  cases fault? a <;> rfl

/-- Reading none is no abort; anything else is read as it would be. -/
theorem abort?_optional {c : Codec α} (absent : (c.read .none).abort? = none) (v : Value) :
    (c.optional.read v).abort? = (c.read v).abort? := by
  cases v with
  | none => exact absent.symm
  | _ => exact Verdict.abort?_map _ _

theorem Quiet.checked {c : Codec α} (quiet : c.Quiet) (fault? : α → Option Fault) :
    (c.checked fault?).Quiet := fun v => (c.abort?_checked fault? v).trans (quiet v)

theorem Quiet.optional {c : Codec α} (quiet : c.Quiet) : c.optional.Quiet :=
  fun v => (abort?_optional (quiet .none) v).trans (quiet v)

theorem abort?_readText (v : Value) : (readText v).abort? = none := by
  unfold readText
  split
  · rfl
  · split <;> rfl
  · rfl

@[simp]
theorem quiet_anything : anything.Quiet := fun _ => rfl

@[simp]
theorem quiet_text : text.Quiet := abort?_readText

@[simp]
theorem quiet_name : name.Quiet := quiet_text.checked _

@[simp]
theorem quiet_bytes : bytes.Quiet := by
  intro v
  simp only [bytes]
  split <;> rfl

@[simp]
theorem quiet_truth : truth.Quiet := by
  intro v
  cases v <;> rfl

@[simp]
theorem quiet_integer (b : Bounds) : (integer b).Quiet := by
  refine Quiet.checked (fun v => ?_) _
  change (integer.readInteger v).abort? = none
  unfold integer.readInteger
  split <;> rfl

theorem quiet_choice (α : Type) [Vocabulary α] (wrap : α → Member) : (choice α wrap).Quiet := by
  intro v
  simp only [choice]
  split <;> rfl

@[simp]
theorem quiet_dataType : dataType.Quiet := quiet_choice _ _

@[simp]
theorem quiet_metric : metric.Quiet := (quiet_choice _ _).checked _

@[simp]
theorem quiet_index : index.Quiet := (quiet_choice _ _).checked _

/-- The first element of a tuple that aborts, aborts it. -/
theorem abort?_readItems (c : Codec α) :
    ∀ (first : Nat) (items : List Value),
      (readItems c first items).abort? = items.findSome? fun item => (c.read item).abort?
  | _, [] => rfl
  | first, item :: rest => by
      rw [readItems, Verdict.abort?_both, Verdict.abort?_under,
        abort?_readItems c (first + 1) rest, List.findSome?_cons]
      cases (c.read item).abort? <;> rfl

theorem abort?_many (least : Nat) (c : Codec α) (v : Value) :
    ((many least c).read v).abort? =
      v.asRow?.bind fun items => items.findSome? fun item => (c.read item).abort? := by
  simp only [many]
  cases v.asRow? with
  | none => rfl
  | some items => rw [Verdict.abort?_alsoRefuse, abort?_readItems, Option.bind_some]

theorem Quiet.many {c : Codec α} (quiet : c.Quiet) (least : Nat) : (many least c).Quiet := by
  intro v
  rw [abort?_many]
  cases v.asRow? with
  | none => rfl
  | some items => simp [quiet _]

@[simp]
theorem quiet_names (least : Nat) : (names least).Quiet := quiet_name.many least

@[simp]
theorem quiet_rows (least : Nat) : (rows least).Quiet := Quiet.many (fun _ => rfl) least

theorem Quiet.pair {c : Codec α} {d : Codec β} (first : c.Quiet) (second : d.Quiet) :
    (pair c d).Quiet := by
  have part : ∀ {γ : Type} {e : Codec γ}, e.Quiet → ∀ i v?, (readPart e i v?).abort? = none := by
    intro γ e quiet i v?
    cases v? with
    | none => rfl
    | some v => exact (Verdict.abort?_under _ _).trans (quiet v)
  intro v
  simp only [Codec.pair]
  split
  · rfl
  · split
    · rfl
    · rw [Verdict.abort?_both, part first, part second]
      rfl

@[simp]
theorem quiet_texts : texts.Quiet := by
  have entries : ∀ es, (readEntries es).abort? = none := by
    intro es
    induction es with
    | nil => rfl
    | cons e rest ih => simp [readEntries, ih, quiet_text _]
  intro v
  cases v with
  | dict es => exact (Verdict.abort?_map _ _).trans (entries es)
  | _ => rfl

/-! ## Numbers of seconds -/

/-- The value is an integer that is past the last finite double even when rounded. -/
def pastDoubles : Value → Bool
  | .number (.int n) => Number.Double.overflow ≤ n.natAbs
  | _ => false

theorem abort?_readSeconds (n : Number) :
    (readSeconds (.number n)).abort? =
      if n.toDouble?.isSome then none else some .integerTooLarge := by
  unfold readSeconds
  dsimp only
  cases n.toDouble? <;> rfl

/-- Only an integer past the doubles aborts the reading of a number of seconds. -/
theorem abort?_seconds (most : Option Int) (v : Value) :
    ((seconds most).read v).abort? = if pastDoubles v then some .integerTooLarge else none := by
  rw [seconds, abort?_checked]
  cases v with
  | number n =>
      refine (abort?_readSeconds n).trans ?_
      cases n with
      | double d => rfl
      | int n =>
          have finite : (Number.int n).toDouble?.isSome = true ↔ n.natAbs < Number.Double.overflow :=
            Number.Double.ofInt?_isSome_iff n
          by_cases large : Number.Double.overflow ≤ n.natAbs
          · rw [if_neg (fun some => Nat.not_lt.mpr large (finite.mp some)), pastDoubles,
              decide_eq_true large, if_pos rfl]
          · rw [if_pos (finite.mpr (Nat.lt_of_not_le large)), pastDoubles,
              decide_eq_false large, if_neg (by decide)]
  | _ => rfl

end Codec

/-! ## Classes -/

namespace Fields

/-- The abort of the first field, in order of declaration, whose value aborts its reading. -/
def abort? : {α : Type} → Fields α → Keywords → Option Abort
  | _, .nil, _ => none
  | _, .cons name codec _ rest, kw =>
      ((kw.find? name).bind fun v => (codec.read v).abort?).or (rest.abort? kw)

theorem abort?_readField {α : Type} (name : String) (codec : Codec α) (default? : Option α)
    (v? : Option Value) :
    (readField name codec default? v?).abort? = v?.bind fun v => (codec.read v).abort? := by
  refine (Verdict.abort?_under _ _).trans ?_
  cases v? with
  | some v => rfl
  | none => cases default? <;> rfl

theorem abort?_read : ∀ {α : Type} (fields : Fields α) (kw : Keywords),
    (fields.read kw).abort? = fields.abort? kw
  | _, .nil, _ => rfl
  | _, .cons name codec default? rest, kw => by
      rw [read, Verdict.abort?_both, abort?_readField, abort?_read rest, abort?]

section Cons

variable {α β : Type} {name : String} {codec : Codec α} {default? : Option α} {rest : Fields β}
  {kw : Keywords}

@[simp]
theorem abort?_nil : Fields.nil.abort? kw = none := rfl

@[simp]
theorem abort?_cons_of_quiet (quiet : codec.Quiet) :
    (Fields.cons name codec default? rest).abort? kw = rest.abort? kw := by
  rw [abort?]
  cases kw.find? name with
  | none => rfl
  | some v => simp [quiet v]

end Cons

end Fields

namespace Blueprint

variable {α : Type}

/-- A class aborts when it is given its own name as a keyword, and else as its fields do. -/
theorem abort?_build (b : Blueprint α) (kw : Keywords) :
    (b.build kw).abort? =
      if b.namesReceiver kw then some .receiverNamed else b.fields.abort? kw := by
  unfold build
  split
  · rfl
  · rw [buildFields, Verdict.abort?_bind, Verdict.abort?_alsoRefuse, Fields.abort?_read]
    intro raw
    cases b.pack raw <;> rfl

end Blueprint

/-! ## Nested parameters -/

namespace Codec

variable {α : Type}

/-- Why a dictionary cannot be handed on as keywords, if it cannot: a key is no text, or takes
the name that the parameter has for itself. -/
def handOver? : Value → Option Abort
  | .dict entries =>
      if entries.any fun e => e.1.asText?.isNone then some .keywordNotText
      else if entries.any fun e => e.1.asText? == some Blueprint.receiver then
        some .receiverNamed
      else none
  | _ => none

theorem isNone_keywords? (entries : List (Value × Value)) :
    (keywords? entries).isNone = entries.any fun e => e.1.asText?.isNone := by
  induction entries with
  | nil => rfl
  | cons e rest ih =>
      rw [List.any_cons, ← ih, keywords?]
      cases e.1.asText? <;> cases keywords? rest <;> rfl

/-- A keyword is given exactly if an entry has it as its key. -/
theorem isSome_find?_of_keywords? (name : String) :
    ∀ {entries : List (Value × Value)} {kw : Keywords}, keywords? entries = some kw →
      (kw.find? name).isSome = entries.any fun e => e.1.asText? == some name
  | [], _, handed => by
      cases handed
      rfl
  | e :: rest, kw, handed => by
      rw [keywords?] at handed
      split at handed
      · rename_i key more here later
        cases handed
        have ih := isSome_find?_of_keywords? name later
        rw [List.any_cons, ← ih, here, Keywords.find?, List.find?_cons, Option.some_beq_some]
        cases key == name <;> rfl
      · cases handed

/-- A nested parameter aborts where its keywords cannot be handed on, if its fields abort
nothing. -/
theorem abort?_parameter {b : Blueprint α} (refuses : b.extras = .refused)
    (quiet : ∀ kw, b.fields.abort? kw = none) (wrap : α → Value) {unwrap? : Value → Option α}
    (unbuilt : ∀ entries, unwrap? (.dict entries) = none) (v : Value) :
    ((parameter b wrap unwrap?).read v).abort? = handOver? v := by
  cases v with
  | dict entries =>
      have handed := isNone_keywords? entries
      simp only [parameter, unbuilt, handOver?, ← handed]
      cases given : keywords? entries with
      | none => rfl
      | some kw =>
          have named := isSome_find?_of_keywords? Blueprint.receiver given
          have built := b.abort?_build kw
          rw [Blueprint.namesReceiver, refuses, named, quiet kw] at built
          refine Eq.trans ?_ built
          dsimp only
          -- A rejection becomes one fault; the other outcomes are passed on.
          cases b.build kw <;> rfl
  | _ =>
      simp only [parameter]
      split
      · rfl
      · rfl

end Codec

end VectorClient
