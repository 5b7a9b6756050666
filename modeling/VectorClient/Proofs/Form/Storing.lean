/-
# VectorClient.Proofs.Form.Storing — what is stored is read back

A codec restores a value if it reads back what it writes for it
(`Codec.Restores`), and is stable if it restores whatever it has read
(`Codec.Stable`): its reading changes a value once, and never again.  Fields are
stable if their codecs are and restore their defaults, which no reading has checked
(`Fields.Stable`).

* `Codec.Stable.many`, `Codec.Stable.pair`, `Codec.stable_texts`: codecs put together.
* `Codec.restores_rows_iff`: rows are restored if they are kept as they are.
* `Blueprint.build_view`: a class builds a parameter from its own stored fields.
-/
import VectorClient.Proofs.Form.Acceptance
import VectorClient.Proofs.Param.Bounds
import VectorClient.Proofs.Request.Pairs

namespace VectorClient

set_option autoImplicit false

/-! ## Codecs -/

namespace Codec

variable {α β : Type} {c : Codec α} {d : Codec β}

/-- What is written for the value is read as the value. -/
def Restores (c : Codec α) (a : α) : Prop := c.read (c.write a) = .accepted a

/-- Whatever is read is restored. -/
def Stable (c : Codec α) : Prop := ∀ v a, c.read v = .accepted a → c.Restores a

/-- A codec that restores everything. -/
theorem stable_of_restores (restores : ∀ a, c.Restores a) : c.Stable := fun _ a _ => restores a

theorem restores_checked_iff {fault? : α → Option Fault} {a : α} :
    (c.checked fault?).Restores a ↔ c.Restores a ∧ fault? a = none :=
  checked_eq_accepted_iff

theorem Stable.checked (stable : c.Stable) (fault? : α → Option Fault) :
    (c.checked fault?).Stable := by
  intro v a read
  obtain ⟨read, faultless⟩ := checked_eq_accepted_iff.mp read
  exact restores_checked_iff.mpr ⟨stable v a read, faultless⟩

/-- What is restored is not written as none, if none is not read. -/
theorem restores_optional_some {a : α} (absent : ∀ a, c.read .none ≠ .accepted a)
    (restores : c.Restores a) : c.optional.Restores (some a) := by
  refine optional_eq_accepted_iff.mpr (.inr ⟨?_, a, restores, rfl⟩)
  intro written
  exact absent a ((congrArg c.read written).symm.trans restores)

theorem Stable.optional (stable : c.Stable) (absent : ∀ a, c.read .none ≠ .accepted a) :
    c.optional.Stable := by
  intro v a? read
  rcases optional_eq_accepted_iff.mp read with ⟨-, rfl⟩ | ⟨-, a, given, rfl⟩
  · exact rfl
  · exact restores_optional_some absent (stable v a given)

@[simp]
theorem restores_optional_none : c.optional.Restores none := rfl

@[simp]
theorem restores_text (s : String) : text.Restores s := rfl

@[simp]
theorem stable_text : text.Stable := stable_of_restores restores_text

theorem restores_name_iff {s : String} : name.Restores s ↔ Text.isBlank s = false := by
  rw [name, restores_checked_iff]
  cases Text.isBlank s <;> simp

@[simp]
theorem stable_name : name.Stable := stable_text.checked _

@[simp]
theorem stable_anything : anything.Stable := stable_of_restores fun _ => rfl

@[simp]
theorem stable_bytes : bytes.Stable := stable_of_restores fun _ => rfl

@[simp]
theorem stable_optional_bytes : bytes.optional.Stable := stable_bytes.optional nofun

@[simp]
theorem restores_truth (b : Bool) : truth.Restores b := rfl

@[simp]
theorem stable_truth : truth.Stable := stable_of_restores restores_truth

/-- An integer is restored if it is within each of the bounds. -/
theorem restores_integer_iff {b : Bounds} {n : Int} :
    (integer b).Restores n ↔ (∀ most, b.most = some most → n ≤ most) ∧
      (∀ least, b.least = some least → least ≤ n) ∧ ∀ above, b.above = some above → above < n := by
  rw [integer, restores_checked_iff]
  refine (and_iff_right rfl).trans ?_
  simp only [Bounds.fault?_eq_none_iff, Number.int_le_int_iff, Number.int_lt_int_iff]

@[simp]
theorem stable_integer (b : Bounds) : (integer b).Stable := by
  have whole : (Codec.mk integer.readInteger Value.int).Stable := stable_of_restores fun _ => rfl
  exact whole.checked _

@[simp]
theorem stable_optional_integer (b : Bounds) : (integer b).optional.Stable :=
  (stable_integer b).optional nofun

theorem restores_seconds_iff {most : Option Int} {x : Number.Double} :
    (seconds most).Restores x ↔ (Bounds.mk (some 0) none most).fault? (.double x) = none := by
  rw [seconds, restores_checked_iff]
  exact and_iff_right rfl

/-- Seconds without an upper bound are restored if they are above zero. -/
theorem restores_seconds_none_iff {x : Number.Double} :
    (seconds none).Restores x ↔ (Number.int 0).lt (.double x) = true := by
  rw [restores_seconds_iff, Bounds.fault?_eq_none_iff]
  simp

@[simp]
theorem stable_seconds (most : Option Int) : (seconds most).Stable := by
  have anyLength : (Codec.mk readSeconds Value.double).Stable := stable_of_restores fun _ => rfl
  exact anyLength.checked _

@[simp]
theorem stable_optional_seconds (most : Option Int) : (seconds most).optional.Stable :=
  (stable_seconds most).optional nofun

/-- A member is read back by its word. -/
theorem restores_choice [Vocabulary α] {wrap : α → Member}
    (worded : ∀ m, (wrap m).word = Vocabulary.word m) (m : α) : (choice α wrap).Restores m := by
  refine choice_eq_accepted_iff.mpr ⟨(wrap m).word, rfl, ?_⟩
  rw [worded, Vocabulary.ofWord?_word]

@[simp]
theorem stable_dataType : dataType.Stable :=
  stable_of_restores (restores_choice fun _ => rfl)

theorem restores_metric_iff {m : MetricType} : metric.Restores m ↔ m ≠ .invalid := by
  rw [metric, restores_checked_iff, and_iff_right (restores_choice (fun _ => rfl) m)]
  simp

@[simp]
theorem stable_metric : metric.Stable :=
  (stable_of_restores (restores_choice fun _ => rfl)).checked _

@[simp]
theorem stable_index : index.Stable :=
  (stable_of_restores (restores_choice fun _ => rfl)).checked _

theorem restores_many_iff {least : Nat} {as : List α} :
    (many least c).Restores as ↔ (∀ a ∈ as, c.Restores a) ∧ least ≤ as.length := by
  refine many_eq_accepted_iff.trans ?_
  have row : (Value.tuple (as.map c.write)).asRow? = some (as.map c.write) := rfl
  simp only [many, row, Option.some.injEq, exists_eq_left', List.forall₂_map_left_iff,
    List.forall₂_same]
  rfl

theorem Stable.many (stable : c.Stable) (least : Nat) : (many least c).Stable := by
  intro v as read
  obtain ⟨items, -, along, enough⟩ := many_eq_accepted_iff.mp read
  exact restores_many_iff.mpr ⟨forall_mem_of_forall₂ along stable, enough⟩

@[simp]
theorem restores_names_nil : (names 0).Restores [] := rfl

@[simp]
theorem stable_names (least : Nat) : (names least).Stable := stable_name.many least

/-- Rows are restored if freezing leaves them as they are. -/
theorem restores_rows_iff {least : Nat} {kept : List Value} :
    (rows least).Restores kept ↔ (∀ v ∈ kept, v.freezeRow = v) ∧ least ≤ kept.length := by
  refine restores_many_iff.trans (and_congr_left fun _ => forall₂_congr fun v _ => ?_)
  exact Verdict.accepted.injEq _ _ ▸ Iff.rfl

@[simp]
theorem stable_rows (least : Nat) : (rows least).Stable := by
  intro v kept read
  obtain ⟨items, -, rfl, enough⟩ := rows_eq_accepted_iff.mp read
  refine restores_rows_iff.mpr ⟨?_, enough⟩
  rintro _ member
  obtain ⟨item, -, rfl⟩ := List.mem_map.mp member
  cases item <;> rfl

theorem Stable.pair (first : c.Stable) (second : d.Stable) : (pair c d).Stable := by
  intro v p read
  obtain ⟨x, y, -, readFirst, readSecond⟩ := pair_eq_accepted_iff.mp read
  exact pair_eq_accepted_iff.mpr
    ⟨c.write p.1, d.write p.2, rfl, first x _ readFirst, second y _ readSecond⟩

@[simp]
theorem stable_options (least : Nat) : (many least (pair text anything)).Stable :=
  (stable_text.pair stable_anything).many least

@[simp]
theorem restores_options_nil : (many 0 (pair text anything)).Restores [] := rfl

/-- Texts of distinct keys are one entry each. -/
theorem restores_texts {pairs : Text.Pairs} (distinct : pairs.keys.Nodup) :
    texts.Restores pairs := by
  refine texts_eq_accepted_iff.mpr ⟨_, pairs, rfl, ?_, Text.Pairs.ofList_of_nodup distinct⟩
  rw [List.forall₂_map_left_iff, List.forall₂_same]
  exact fun p _ => ⟨rfl, rfl⟩

@[simp]
theorem restores_texts_nil : texts.Restores [] := rfl

@[simp]
theorem stable_texts : texts.Stable := by
  intro v pairs read
  -- Reading has overwritten equal keys already.
  obtain ⟨entries, written, -, -, rfl⟩ := texts_eq_accepted_iff.mp read
  exact restores_texts (Text.Pairs.nodup_keys_ofList written)

/-- A parameter that was built is taken as it is. -/
theorem stable_parameter (b : Blueprint α) {wrap : α → Value} {unwrap? : Value → Option α}
    (unwraps : ∀ a, unwrap? (wrap a) = some a) : (parameter b wrap unwrap?).Stable :=
  stable_of_restores fun a => parameter_eq_accepted_iff.mpr (.inl (unwraps a))

end Codec

/-! ## Fields -/

namespace Fields

variable {α β : Type} {name : String} {codec : Codec α} {default? : Option α} {rest : Fields β}

/-- Every codec is stable, and restores its default. -/
def Stable : {α : Type} → Fields α → Prop
  | _, .nil => True
  | _, .cons _ codec default? rest =>
      codec.Stable ∧ (∀ a, default? = some a → codec.Restores a) ∧ rest.Stable

/-- Every codec restores the value of its field. -/
def Restores : {α : Type} → Fields α → α → Prop
  | _, .nil, _ => True
  | _, .cons _ codec _ rest, (a, more) => codec.Restores a ∧ rest.Restores more

@[simp]
theorem stable_nil : Fields.nil.Stable := trivial

@[simp]
theorem stable_cons_iff : (Fields.cons name codec default? rest).Stable ↔
    codec.Stable ∧ (∀ a, default? = some a → codec.Restores a) ∧ rest.Stable := Iff.rfl

/-- What stable fields have read, they restore. -/
theorem Stable.restores {kw : Keywords} :
    ∀ {α : Type} {fields : Fields α} {raw : α}, fields.Stable → fields.read kw = .accepted raw →
      fields.Restores raw
  | _, .nil, _, _, _ => trivial
  | _, .cons name codec default? rest, (a, more), stable, read => by
      obtain ⟨first, later⟩ := read_cons_eq_accepted_iff.mp read
      obtain ⟨own, standard, others⟩ := stable
      exact ⟨readField_ensures codec.Restores own standard first, others.restores later⟩

theorem map_fst_write : ∀ {α : Type} (fields : Fields α) (raw : α),
    (fields.write raw).map Prod.fst = fields.names
  | _, .nil, _ => rfl
  | _, .cons name codec _ rest, (a, more) => by
      rw [write, List.map_cons, names, map_fst_write rest more]

/-- A keyword of another name is not read. -/
theorem read_cons_of_notMem {name : String} {v : Value} {kw : Keywords} :
    ∀ {α : Type} {fields : Fields α}, name ∉ fields.names →
      fields.read ((name, v) :: kw) = fields.read kw
  | _, .nil, _ => rfl
  | _, .cons other codec default? rest, new => by
      rw [names, List.mem_cons, not_or] at new
      have skipped : Keywords.find? ((name, v) :: kw) other = Keywords.find? kw other := by
        simp [Keywords.find?, List.find?_cons_of_neg, new.1]
      rw [read, read, skipped, read_cons_of_notMem new.2]

/-- Fields of distinct names read back what they write, if they restore it. -/
theorem read_write : ∀ {α : Type} {fields : Fields α} {raw : α}, fields.names.Nodup →
    fields.Restores raw → fields.read (fields.write raw) = .accepted raw
  | _, .nil, _, _, _ => rfl
  | _, .cons name codec default? rest, (a, more), distinct, restores => by
      rw [names, List.nodup_cons] at distinct
      have found : Keywords.find? ((name, codec.write a) :: rest.write more) name =
          some (codec.write a) := by
        simp [Keywords.find?]
      -- The other fields do not see the first keyword.
      rw [write, read_cons_eq_accepted_iff, found, read_cons_of_notMem distinct.1]
      exact ⟨Verdict.under_eq_accepted_iff.mpr restores.1, read_write distinct.2 restores.2⟩

end Fields

namespace Blueprint

variable {α : Type} {b : Blueprint α} {a : α} {kw : Keywords}

/-- No two fields share a name, and none has the name of the parameter itself. -/
structure Named (b : Blueprint α) : Prop where
  distinct : b.fields.names.Nodup
  unreserved : receiver ∉ b.fields.names

/-- A class builds a parameter from the fields that it stores, if its codecs restore them
and they pass its check. -/
theorem build_view (named : b.Named) (restores : b.fields.Restores (b.unpack a))
    (packed : b.pack (b.unpack a) = .ok a) : b.build (b.view a) = .accepted a := by
  have names := Fields.map_fst_write b.fields (b.unpack a)
  have mem_names : ∀ e ∈ b.view a, e.1 ∈ b.fields.names := by
    intro e member
    rw [← names]
    exact List.mem_map_of_mem member
  have unnamed : b.namesReceiver (b.view a) = false := by
    rw [namesReceiver, Bool.and_eq_false_iff]
    right
    rw [Keywords.find?, Option.isSome_map, Option.isSome_eq_false_iff, Option.isNone_iff_eq_none,
      List.find?_eq_none]
    intro e member same
    exact named.unreserved (eq_of_beq same ▸ mem_names e member)
  have known : b.unknown (b.view a) = [] := by
    unfold unknown
    split
    · rw [Fields.unknown, List.filter_eq_nil_iff.mpr, List.map_nil]
      intro e member
      simp [mem_names e member]
    · rfl
  exact build_eq_accepted_iff.mpr
    ⟨unnamed, known, b.unpack a, Fields.read_write named.distinct restores, packed⟩

/-- A class that stores its fields as they were read. -/
def Verbatim (b : Blueprint α) : Prop := ∀ raw a, b.pack raw = .ok a → b.unpack a = raw

theorem verbatim_plain {ρ : Type} {title : String} {fields : Fields ρ} {pack : ρ → α}
    {unpack : α → ρ} (inverse : ∀ raw, unpack (pack raw) = raw) :
    (plain title fields pack unpack).Verbatim := by
  intro raw a packed
  cases packed
  exact inverse raw

theorem build_view_of_verbatim (named : b.Named) (stable : b.fields.Stable)
    (verbatim : b.Verbatim) (built : b.build kw = .accepted a) :
    b.build (b.view a) = .accepted a := by
  obtain ⟨-, -, raw, read, packed⟩ := build_eq_accepted_iff.mp built
  have stored := verbatim raw a packed
  exact build_view named (stored ▸ stable.restores read) (stored ▸ packed)

end Blueprint

end VectorClient
