/-
# VectorClient.Proofs.Form.Reports — what a report is made of

A report says of each field what is wrong with its value, and what that is depends
on the value alone (`Fields.entriesAt`): fields are read side by side, and none sees
another.  The cross-field check speaks where nothing else is wrong, so it takes
nothing away and hides nothing.

* `Codec.Grounded`: no codec rejects without an entry, so what is not aborted and has no
  entries is accepted (`Verdict.exists_accepted_iff`).
* `Fields.entries_read`: the entries of all fields, in order of declaration.
* `Blueprint.Reports`: the report of a class as a whole; `Blueprint.build_reports`: keywords
  are accepted if it is empty, and else rejected with it.
-/
import VectorClient.Proofs.Form.Aborts
import VectorClient.Proofs.Form.Storing

namespace VectorClient

set_option autoImplicit false

/-! ## Verdicts -/

namespace Verdict

variable {α β γ : Type} {v : Verdict α} {w : Verdict β}

/-- A rejection says why. -/
def Grounded (v : Verdict α) : Prop := v ≠ .rejected []

theorem ne_aborted_of_abort? (settled : v.abort? = none) : ∀ cause, v ≠ .aborted cause := by
  rintro cause rfl
  cases settled

/-- What is not aborted and has nothing reported is accepted. -/
theorem exists_accepted_iff (grounded : v.Grounded) :
    (∃ a, v = .accepted a) ↔ v.abort? = none ∧ v.entries = [] := by
  cases v with
  | accepted a => exact iff_of_true ⟨a, rfl⟩ ⟨rfl, rfl⟩
  | aborted cause => exact iff_of_false nofun nofun
  | rejected entries =>
      refine iff_of_false nofun fun ⟨_, empty⟩ => ?_
      exact grounded (congrArg rejected empty)

/-- What is not aborted and has something reported is rejected with all of it. -/
theorem eq_rejected_iff (grounded : v.Grounded) (settled : v.abort? = none)
    {entries : List Entry} : v = .rejected entries ↔ entries = v.entries ∧ v.entries ≠ [] := by
  cases v with
  | accepted a => exact iff_of_false nofun fun empty => empty.2 rfl
  | aborted cause => cases settled
  | rejected report =>
      have some : report ≠ [] := fun empty => grounded (congrArg rejected empty)
      rw [rejected.injEq]
      exact ⟨fun same => ⟨same.symm, some⟩, fun same => same.1.symm⟩

theorem isAccepted_iff : v.isAccepted = true ↔ ∃ a, v = .accepted a := by
  cases v <;> simp [isAccepted, accepted?]

instance : Decidable (∃ a, v = .accepted a) := decidable_of_iff _ isAccepted_iff

/-- A rejection has all its entries. -/
theorem eq_rejected_of_entries_ne_nil (some : v.entries ≠ []) : v = .rejected v.entries := by
  cases v with
  | rejected entries => rfl
  | accepted | aborted => exact absurd rfl some

@[simp]
theorem grounded_accepted (a : α) : (accepted a).Grounded := nofun

@[simp]
theorem grounded_aborted (cause : Abort) : (aborted cause : Verdict α).Grounded := nofun

@[simp]
theorem grounded_refuse (fault : Fault) : (refuse fault : Verdict α).Grounded := nofun

theorem Grounded.map (grounded : v.Grounded) (f : α → β) : (v.map f).Grounded := by
  cases v with
  | rejected entries =>
      intro none
      cases none
      exact grounded rfl
  | accepted a => exact grounded_accepted (f a)
  | aborted cause => exact grounded_aborted cause

theorem Grounded.bind (grounded : v.Grounded) {f : α → Verdict β} (later : ∀ a, (f a).Grounded) :
    (v.bind f).Grounded := by
  cases v with
  | accepted a => exact later a
  | rejected entries =>
      intro none
      cases none
      exact grounded rfl
  | aborted cause => exact grounded_aborted cause

theorem Grounded.under (grounded : v.Grounded) (step : Step) : (v.under step).Grounded := by
  cases v with
  | rejected entries =>
      intro none
      rw [Verdict.under, rejected.injEq, List.map_eq_nil_iff] at none
      exact grounded (congrArg rejected none)
  | accepted a => exact grounded_accepted a
  | aborted cause => exact grounded_aborted cause

theorem Grounded.both (left : v.Grounded) (right : w.Grounded) (combine : α → β → γ) :
    (Verdict.both combine v w).Grounded := by
  intro none
  cases v with
  | accepted a =>
      cases w with
      | rejected ys => exact right (congrArg rejected (rejected.inj none))
      | accepted | aborted => cases none
  | rejected xs =>
      cases w with
      | accepted b => exact left (congrArg rejected (rejected.inj none))
      | rejected ys =>
          exact left (congrArg rejected (List.append_eq_nil_iff.mp (rejected.inj none)).1)
      | aborted => cases none
  | aborted => cases none

theorem Grounded.alsoRefuse (grounded : v.Grounded) (more : List Entry) :
    (v.alsoRefuse more).Grounded := by
  refine grounded.both ?_ _
  cases more with
  | nil => exact nofun
  | cons => exact nofun

@[simp]
theorem entries_map (f : α → β) (v : Verdict α) : (v.map f).entries = v.entries := by
  cases v <;> rfl

@[simp]
theorem entries_under (step : Step) (v : Verdict α) :
    (v.under step).entries = v.entries.map fun e => (step :: e.1, e.2) := by
  cases v <;> rfl

theorem entries_alsoRefuse (settled : v.abort? = none) (more : List Entry) :
    (v.alsoRefuse more).entries = v.entries ++ more := by
  cases v <;> cases more <;> simp_all [Verdict.alsoRefuse, Verdict.both, ofEntries, entries]

end Verdict

/-! ## Codecs -/

namespace Codec

variable {α β : Type} {c : Codec α} {d : Codec β}

/-- A reader that rejects nothing without an entry. -/
def Grounded (c : Codec α) : Prop := ∀ v, (c.read v).Grounded

theorem Grounded.checked (grounded : c.Grounded) (fault? : α → Option Fault) :
    (c.checked fault?).Grounded := by
  refine fun v => (grounded v).bind fun a => ?_
  cases fault? a <;> exact nofun

theorem Grounded.optional (grounded : c.Grounded) : c.optional.Grounded := by
  intro v
  cases v with
  | none => exact nofun
  | _ => exact (grounded _).map _

@[simp]
theorem grounded_anything : anything.Grounded := fun _ => nofun

@[simp]
theorem grounded_text : text.Grounded := by
  intro v
  change (readText v).Grounded
  unfold readText
  split
  · simp
  · split <;> simp
  · simp

@[simp]
theorem grounded_name : name.Grounded := grounded_text.checked _

@[simp]
theorem grounded_bytes : bytes.Grounded := by
  intro v
  simp only [bytes]
  split <;> simp

@[simp]
theorem grounded_optional_bytes : bytes.optional.Grounded := grounded_bytes.optional

@[simp]
theorem grounded_truth : truth.Grounded := by
  intro v
  cases v <;> exact nofun

@[simp]
theorem grounded_integer (b : Bounds) : (integer b).Grounded := by
  refine Grounded.checked (fun v => ?_) _
  change (integer.readInteger v).Grounded
  unfold integer.readInteger
  split <;> simp

@[simp]
theorem grounded_optional_integer (b : Bounds) : (integer b).optional.Grounded :=
  (grounded_integer b).optional

@[simp]
theorem grounded_seconds (most : Option Int) : (seconds most).Grounded := by
  refine Grounded.checked (fun v => ?_) _
  change (readSeconds v).Grounded
  unfold readSeconds
  split
  · split <;> simp
  · simp

@[simp]
theorem grounded_optional_seconds (most : Option Int) : (seconds most).optional.Grounded :=
  (grounded_seconds most).optional

theorem grounded_choice (α : Type) [Vocabulary α] (wrap : α → Member) :
    (choice α wrap).Grounded := by
  intro v
  simp only [choice]
  split <;> simp

@[simp]
theorem grounded_dataType : dataType.Grounded := grounded_choice _ _

@[simp]
theorem grounded_metric : metric.Grounded := (grounded_choice _ _).checked _

@[simp]
theorem grounded_index : index.Grounded := (grounded_choice _ _).checked _

theorem Grounded.readItems (grounded : c.Grounded) :
    ∀ (first : Nat) (items : List Value), (readItems c first items).Grounded
  | _, [] => Verdict.grounded_accepted []
  | first, v :: rest =>
      ((grounded v).under _).both (grounded.readItems (first + 1) rest) _

theorem Grounded.many (grounded : c.Grounded) (least : Nat) : (many least c).Grounded := by
  intro v
  simp only [Codec.many]
  split
  · simp
  · exact (grounded.readItems 0 _).alsoRefuse _

@[simp]
theorem grounded_names (least : Nat) : (names least).Grounded := grounded_name.many least

@[simp]
theorem grounded_rows (least : Nat) : (rows least).Grounded :=
  Grounded.many (fun v => Verdict.grounded_accepted v.freezeRow) least

theorem Grounded.pair (first : c.Grounded) (second : d.Grounded) : (pair c d).Grounded := by
  have part : ∀ {γ : Type} {e : Codec γ}, e.Grounded → ∀ i v?, (readPart e i v?).Grounded := by
    intro γ e grounded i v?
    cases v? with
    | none => exact nofun
    | some v => exact (grounded v).under _
  intro v
  simp only [Codec.pair]
  split
  · simp
  · split
    · simp
    · exact (part first 0 _).both (part second 1 _) _

@[simp]
theorem grounded_options (least : Nat) : (many least (pair text anything)).Grounded :=
  (grounded_text.pair grounded_anything).many least

@[simp]
theorem grounded_texts : texts.Grounded := by
  have entries : ∀ es, (readEntries es).Grounded := by
    intro es
    induction es with
    | nil => exact nofun
    | cons e rest ih =>
        have key := ((grounded_text e.1).under .key).under (.name (keyText e.1))
        have value := (grounded_text e.2).under (.name (keyText e.1))
        exact (key.both value _).both ih _
  intro v
  cases v with
  | dict es => exact (entries es).map _
  | _ => exact nofun

/-- A nested parameter is rejected for one fault, whatever that fault tells. -/
theorem grounded_parameter (b : Blueprint α) (wrap : α → Value) (unwrap? : Value → Option α)
    (built : ∀ kw, (b.build kw).Grounded) : (parameter b wrap unwrap?).Grounded := by
  intro v
  simp only [parameter]
  split
  · simp
  · split
    · split
      · simp
      · rename_i kw _
        split
        · simp
        · exact built kw
    · simp

end Codec

/-! ## Fields -/

namespace Fields

variable {α β : Type} {name : String} {codec : Codec α} {default? : Option α} {rest : Fields β}

/-- Every codec is grounded. -/
def Grounded : {α : Type} → Fields α → Prop
  | _, .nil => True
  | _, .cons _ codec _ rest => codec.Grounded ∧ rest.Grounded

@[simp]
theorem grounded_nil : Fields.nil.Grounded := trivial

@[simp]
theorem grounded_cons_iff :
    (Fields.cons name codec default? rest).Grounded ↔ codec.Grounded ∧ rest.Grounded := Iff.rfl

theorem grounded_readField (grounded : codec.Grounded) (v? : Option Value) :
    (readField name codec default? v?).Grounded := by
  refine Verdict.Grounded.under ?_ _
  cases v? with
  | some v => exact grounded v
  | none => cases default? <;> exact nofun

theorem Grounded.read {kw : Keywords} :
    ∀ {α : Type} {fields : Fields α}, fields.Grounded → (fields.read kw).Grounded
  | _, .nil, _ => Verdict.grounded_accepted ()
  | _, .cons _ _ _ _, grounded => (grounded_readField grounded.1 _).both grounded.2.read _

/-- What is reported of the field of a name, by its value; nothing, if no field has the name. -/
def entriesAt : {α : Type} → Fields α → String → Option Value → List Entry
  | _, .nil, _, _ => []
  | _, .cons name codec default? rest, label, v? =>
      if label = name then (readField name codec default? v?).entries
      else rest.entriesAt label v?

/-- What is reported of all fields, in order of declaration. -/
def entries (fields : Fields α) (kw : Keywords) : List Entry :=
  fields.names.flatMap fun name => fields.entriesAt name (kw.find? name)

theorem entriesAt_cons_self (v? : Option Value) :
    (Fields.cons name codec default? rest).entriesAt name v? =
      (readField name codec default? v?).entries := if_pos rfl

theorem entriesAt_cons_of_ne {label : String} (other : label ≠ name) (v? : Option Value) :
    (Fields.cons name codec default? rest).entriesAt label v? = rest.entriesAt label v? :=
  if_neg other

theorem entriesAt_of_notMem {label : String} {v? : Option Value} :
    ∀ {α : Type} {fields : Fields α}, label ∉ fields.names → fields.entriesAt label v? = []
  | _, .nil, _ => rfl
  | _, .cons name codec default? rest, new => by
      rw [names, List.mem_cons, not_or] at new
      rw [entriesAt_cons_of_ne new.1, entriesAt_of_notMem new.2]

theorem entries_cons (new : name ∉ rest.names) (kw : Keywords) :
    (Fields.cons name codec default? rest).entries kw =
      (readField name codec default? (kw.find? name)).entries ++ rest.entries kw := by
  rw [entries, names, List.flatMap_cons, entriesAt_cons_self, entries]
  congr 1
  refine List.flatMap_congr fun label among => entriesAt_cons_of_ne ?_ _
  rintro rfl
  exact new among

/-- Fields of distinct names report one after the other. -/
theorem entries_read {kw : Keywords} :
    ∀ {α : Type} {fields : Fields α}, fields.names.Nodup → fields.abort? kw = none →
      (fields.read kw).entries = fields.entries kw
  | _, .nil, _, _ => rfl
  | _, .cons name codec default? rest, distinct, settled => by
      obtain ⟨new, distinct⟩ := List.nodup_cons.mp distinct
      rw [abort?, Option.or_eq_none_iff, ← abort?_readField name codec default?] at settled
      have later : (rest.read kw).abort? = none := (abort?_read rest kw).trans settled.2
      rw [read, Verdict.entries_both (Verdict.ne_aborted_of_abort? settled.1)
        (Verdict.ne_aborted_of_abort? later), entries_read distinct settled.2, entries_cons new]

/-- A field that is left out is reported as missing, unless it has a default. -/
theorem entriesAt_none (label : String) :
    ∀ {α : Type} (fields : Fields α), fields.entriesAt label none = [] ∨
      fields.entriesAt label none = [([.name label], .missing)]
  | _, .nil => .inl rfl
  | _, .cons name codec default? rest => by
      rw [entriesAt]
      split
      · rename_i same
        obtain rfl := same
        cases default? with
        | none => exact .inr rfl
        | some a => exact .inl rfl
      · exact entriesAt_none label rest

/-- A field whose value is read, or that has a default to stand for it. -/
def AcceptsAt : {α : Type} → Fields α → String → Option Value → Prop
  | _, .nil, _, _ => False
  | _, .cons name codec default? rest, label, v? =>
      if label = name then ∃ a, readField name codec default? v? = .accepted a
      else rest.AcceptsAt label v?

theorem entriesAt_of_acceptsAt {label : String} {v? : Option Value} :
    ∀ {α : Type} {fields : Fields α}, fields.AcceptsAt label v? → fields.entriesAt label v? = []
  | _, .nil, _ => rfl
  | _, .cons name codec default? rest, accepts => by
      rw [AcceptsAt] at accepts
      rw [entriesAt]
      split at accepts
      · rename_i same
        obtain ⟨a, read⟩ := accepts
        rw [if_pos same, read]
        rfl
      · rename_i other
        rw [if_neg other, entriesAt_of_acceptsAt accepts]

/-- Every field but those excepted is read, or left to its default. -/
def AcceptsBut (fields : Fields α) (excepted : List String) (kw : Keywords) : Prop :=
  ∀ name ∈ fields.names, name ∉ excepted → fields.AcceptsAt name (kw.find? name)

instance decidableAcceptsAt : {α : Type} → (fields : Fields α) → (label : String) →
    (v? : Option Value) → Decidable (fields.AcceptsAt label v?)
  | _, .nil, _, _ => inferInstanceAs (Decidable False)
  | _, .cons name codec default? rest, label, v? =>
      have := decidableAcceptsAt rest label v?
      inferInstanceAs (Decidable (if label = name then
        ∃ a, readField name codec default? v? = .accepted a else rest.AcceptsAt label v?))

instance (fields : Fields α) (excepted : List String) (kw : Keywords) :
    Decidable (fields.AcceptsBut excepted kw) :=
  inferInstanceAs (Decidable (∀ name ∈ fields.names, name ∉ excepted →
    fields.AcceptsAt name (kw.find? name)))

theorem acceptsBut_cons_iff {excepted : List String} {kw : Keywords} (new : name ∉ rest.names) :
    (Fields.cons name codec default? rest).AcceptsBut excepted kw ↔
      (name ∉ excepted → ∃ a, readField name codec default? (kw.find? name) = .accepted a) ∧
        rest.AcceptsBut excepted kw := by
  have here : (Fields.cons name codec default? rest).AcceptsAt name (kw.find? name) ↔
      ∃ a, readField name codec default? (kw.find? name) = .accepted a := by
    rw [AcceptsAt, if_pos rfl]
  unfold AcceptsBut
  rw [names, List.forall_mem_cons, here]
  refine and_congr_right fun _ => forall₂_congr fun label among => ?_
  have other : label ≠ name := by
    rintro rfl
    exact new among
  rw [AcceptsAt, if_neg other]

end Fields

/-! ## Entries at a field -/

/-- Is the entry located at a field? -/
def Entry.isAt (name : String) (e : Entry) : Bool := e.1.head? == some (.name name)

theorem Verdict.isAt_of_mem_under {α : Type} {v : Verdict α} {name : String} {e : Entry}
    (member : e ∈ (v.under (.name name)).entries) (label : String) :
    e.isAt label = decide (name = label) := by
  cases v with
  | rejected entries =>
      obtain ⟨inner, -, rfl⟩ := List.mem_map.mp member
      by_cases same : name = label <;> simp [Entry.isAt, same]
  | accepted | aborted => cases member

/-- What is reported of a field is located there. -/
theorem Fields.isAt_of_mem_entriesAt {label : String} {v? : Option Value} {e : Entry} :
    ∀ {α : Type} {fields : Fields α}, e ∈ fields.entriesAt label v? → e.isAt label = true
  | _, .nil, member => by cases member
  | _, .cons name codec default? rest, member => by
      rw [entriesAt] at member
      split at member
      · rename_i same
        rw [Verdict.isAt_of_mem_under member, decide_eq_true same.symm]
      · exact isAt_of_mem_entriesAt member

/-- Of all entries, those at a field are those of its own value. -/
theorem Fields.filter_entries {kw : Keywords} {label : String} :
    ∀ {α : Type} {fields : Fields α}, fields.names.Nodup →
      (fields.entries kw).filter (Entry.isAt label) = fields.entriesAt label (kw.find? label)
  | _, .nil, _ => rfl
  | _, .cons name codec default? rest, distinct => by
      obtain ⟨new, distinct⟩ := List.nodup_cons.mp distinct
      rw [entries_cons new, List.filter_append, filter_entries distinct]
      by_cases same : name = label
      · obtain rfl := same
        rw [entriesAt_of_notMem new, List.append_nil, entriesAt_cons_self, List.filter_eq_self]
        intro e member
        rw [Verdict.isAt_of_mem_under member, decide_eq_true rfl]
      · rw [entriesAt_cons_of_ne (Ne.symm same), List.filter_eq_nil_iff.mpr, List.nil_append]
        intro e member
        rw [Verdict.isAt_of_mem_under member, decide_eq_false same]
        exact Bool.false_ne_true

/-! ## Classes -/

namespace Blueprint

variable {α : Type} {b : Blueprint α} {kw : Keywords}

/-- The keywords name fields of the class, and what may be wrong with them is wrong with the
fields excepted. -/
structure OtherwiseValid (b : Blueprint α) (excepted : List String) (kw : Keywords) : Prop where
  known : ∀ e ∈ kw, e.1 ∈ b.fields.names
  read : b.fields.AcceptsBut excepted kw

theorem OtherwiseValid.unknown {excepted : List String} (valid : b.OtherwiseValid excepted kw) :
    b.unknown kw = [] := by
  unfold Blueprint.unknown
  split
  · rw [Fields.unknown, List.map_eq_nil_iff, List.filter_eq_nil_iff]
    intro e member
    simp [valid.known e member]
  · rfl

theorem OtherwiseValid.find?_receiver {excepted : List String}
    (valid : b.OtherwiseValid excepted kw) (unreserved : receiver ∉ b.fields.names) :
    kw.find? receiver = none := by
  rw [Keywords.find?, Option.map_eq_none_iff, List.find?_eq_none]
  intro e member
  have own := ne_of_mem_of_not_mem (valid.known e member) unreserved
  simpa using own

theorem OtherwiseValid.namesReceiver {excepted : List String}
    (valid : b.OtherwiseValid excepted kw) (unreserved : receiver ∉ b.fields.names) :
    b.namesReceiver kw = false := by
  rw [Blueprint.namesReceiver, valid.find?_receiver unreserved, Option.isSome_none, Bool.and_false]

/-- What is reported of keywords: what is wrong with the fields and then the names of no field;
if there is no such thing, how the fields clash; and nothing, if they do not. -/
inductive Reports (b : Blueprint α) (kw : Keywords) : List Entry → Prop
  | faults (some : b.fields.entries kw ++ b.unknown kw ≠ []) :
      Reports b kw (b.fields.entries kw ++ b.unknown kw)
  | clash {raw : b.Raw} {cause : Inconsistency} (sound : b.fields.entries kw ++ b.unknown kw = [])
      (read : b.fields.read kw = .accepted raw) (clashes : b.pack raw = .error cause) :
      Reports b kw [([], .inconsistent cause)]
  | nothing {raw : b.Raw} {a : α} (sound : b.fields.entries kw ++ b.unknown kw = [])
      (read : b.fields.read kw = .accepted raw) (packed : b.pack raw = .ok a) : Reports b kw []

/-- There is one report on keywords. -/
theorem Reports.unique {report report' : List Entry} (reports : b.Reports kw report)
    (reports' : b.Reports kw report') : report = report' := by
  cases reports with
  | faults some =>
      cases reports' with
      | faults => rfl
      | clash sound | nothing sound => exact absurd sound some
  | clash sound read clashes =>
      cases reports' with
      | faults some => exact absurd sound some
      | clash _ read' clashes' =>
          obtain rfl := Verdict.accepted.inj (read.symm.trans read')
          obtain rfl := Except.error.inj (clashes.symm.trans clashes')
          rfl
      | nothing _ read' packed =>
          obtain rfl := Verdict.accepted.inj (read.symm.trans read')
          cases clashes.symm.trans packed
  | nothing sound read packed =>
      cases reports' with
      | faults some => exact absurd sound some
      | clash _ read' clashes =>
          obtain rfl := Verdict.accepted.inj (read.symm.trans read')
          cases packed.symm.trans clashes
      | nothing => rfl

/-- Keywords are accepted if nothing is reported, and rejected with what is. -/
theorem build_reports (distinct : b.fields.names.Nodup) (grounded : b.fields.Grounded)
    (settled : (b.build kw).abort? = none) :
    (∃ a, b.build kw = .accepted a) ∧ b.Reports kw [] ∨
      ∃ report, b.build kw = .rejected report ∧ b.Reports kw report ∧ report ≠ [] := by
  rw [abort?_build] at settled
  unfold build
  split at settled
  · cases settled
  · rename_i own
    rw [if_neg own, buildFields]
    have quiet : (b.fields.read kw).abort? = none := (Fields.abort?_read _ _).trans settled
    have listed : ((b.fields.read kw).alsoRefuse (b.unknown kw)).entries =
        b.fields.entries kw ++ b.unknown kw := by
      rw [Verdict.entries_alsoRefuse quiet, Fields.entries_read distinct settled]
    by_cases sound : b.fields.entries kw ++ b.unknown kw = []
    · -- Nothing is wrong with the fields, so it is for the check to say.
      obtain ⟨raw, passed⟩ := (Verdict.exists_accepted_iff (grounded.read.alsoRefuse _)).mpr
        ⟨(Verdict.abort?_alsoRefuse _ _).trans quiet, listed.trans sound⟩
      have read := (Verdict.alsoRefuse_eq_accepted_iff.mp passed).1
      rw [passed]
      cases packed : b.pack raw with
      | ok a => exact .inl ⟨⟨a, by simp [Verdict.bind, packed]⟩, .nothing sound read packed⟩
      | error cause =>
          exact .inr ⟨_, by simp [Verdict.bind, packed, Verdict.refuse],
            .clash sound read packed, List.cons_ne_nil _ _⟩
    · have rejected := Verdict.eq_rejected_of_entries_ne_nil (listed ▸ sound)
      rw [rejected, listed]
      exact .inr ⟨_, rfl, .faults sound, sound⟩

theorem grounded_build (distinct : b.fields.names.Nodup) (grounded : b.fields.Grounded)
    (kw : Keywords) : (b.build kw).Grounded := by
  intro empty
  rcases build_reports distinct grounded (congrArg Verdict.abort? empty) with
    ⟨⟨a, built⟩, -⟩ | ⟨report, built, -, some⟩
  · cases built.symm.trans empty
  · exact some (Verdict.rejected.inj (built.symm.trans empty))

/-- The entries at a field of the class are those of its own value. -/
theorem Reports.filter_isAt (distinct : b.fields.names.Nodup) {report : List Entry}
    (reports : b.Reports kw report) {name : String} (among : name ∈ b.fields.names) :
    report.filter (Entry.isAt name) = b.fields.entriesAt name (kw.find? name) := by
  have strangers : (b.unknown kw).filter (Entry.isAt name) = [] := by
    rw [List.filter_eq_nil_iff]
    intro e member
    unfold unknown at member
    split at member
    · obtain ⟨e', other, rfl⟩ := List.mem_map.mp member
      have new : e'.1 ∉ b.fields.names := by simpa using (List.mem_filter.mp other).2
      have apart : e'.1 ≠ name := fun same => new (same ▸ among)
      simpa [Entry.isAt] using apart
    · cases member
  have whole : (b.fields.entries kw ++ b.unknown kw).filter (Entry.isAt name) =
      b.fields.entriesAt name (kw.find? name) := by
    rw [List.filter_append, Fields.filter_entries distinct, strangers, List.append_nil]
  cases reports with
  | faults => exact whole
  | clash sound =>
      -- A report of the check is located nowhere, and nothing is wrong with the field.
      rw [← whole, sound]
      rfl
  | nothing sound => rw [← whole, sound]

/-- If only one field may be at fault and is, everything is reported of that field. -/
theorem Reports.isAt_of_otherwiseValid {field : String} (valid : b.OtherwiseValid [field] kw)
    {report : List Entry} (reports : b.Reports kw report) (faulty : b.fields.entries kw ≠ []) :
    ∀ e ∈ report, e.isAt field := by
  cases reports with
  | faults =>
      intro e member
      rw [valid.unknown, List.append_nil] at member
      obtain ⟨name, among, at_field⟩ := List.mem_flatMap.mp member
      by_cases same : name = field
      · exact same ▸ Fields.isAt_of_mem_entriesAt at_field
      · have accepts := valid.read name among (by simpa using same)
        rw [Fields.entriesAt_of_acceptsAt accepts] at at_field
        cases at_field
  | clash sound => exact absurd (List.append_eq_nil_iff.mp sound).1 faulty
  | nothing => exact nofun

/-- What is located nowhere is how the fields clash, and then there is nothing else. -/
theorem Reports.eq_singleton_of_nowhere {report : List Entry} (reports : b.Reports kw report)
    {e : Entry} (member : e ∈ report) (nowhere : e.1 = []) :
    report = [e] ∧ ∃ cause, e.2 = .inconsistent cause := by
  cases reports with
  | faults =>
      rcases List.mem_append.mp member with known | unknown
      · obtain ⟨name, -, at_field⟩ := List.mem_flatMap.mp known
        have located := Fields.isAt_of_mem_entriesAt at_field
        simp [Entry.isAt, nowhere] at located
      · unfold Blueprint.unknown at unknown
        split at unknown
        · obtain ⟨_, -, rfl⟩ := List.mem_map.mp unknown
          cases nowhere
        · cases unknown
  | clash =>
      obtain rfl := List.mem_singleton.mp member
      exact ⟨rfl, _, rfl⟩
  | nothing => cases member

end Blueprint

end VectorClient
