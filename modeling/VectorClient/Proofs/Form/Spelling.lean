/-
# VectorClient.Proofs.Form.Spelling — spellings of one value

A row may be written as a list or as a tuple, a byte string as bytes or as a byte
array, and a text as the member whose word it is.  `Value.normal` undoes the choice
at every depth, so two values with one normal form are two spellings of one value.
What is kept as it is distinguishes rows of the two kinds, and there only members
are put into words (`Value.worded`).

A reader that takes all spellings of a value for the same is blind to them
(`Codec.Blind`).

* `Value.Alike`: one normal form; what it says of each shape of value.
* `Codec.Blind.many`, `Codec.blind_texts`, `Codec.Blind.optional`: readers put together.
* `Codec.blind_seconds`: seconds are read alike as an integer and as a double.
* `Codec.read_options_of_alike`: pairs of a name and a value that is kept.
-/
import VectorClient.Proofs.Form.Acceptance
import VectorClient.Proofs.Number.Exact
import VectorClient.Proofs.Param.Bounds

namespace VectorClient

set_option autoImplicit false

/-! ## The normal form -/

namespace Value

mutual

/-- The value with members as their words.  If `loose`, rows become tuples and byte
strings become bytes besides. -/
def spelled (loose : Bool) : Value → Value
  | .list items =>
      if loose then .tuple (spelledItems loose items) else .list (spelledItems loose items)
  | .tuple items => .tuple (spelledItems loose items)
  | .byteArray bs => if loose then .bytes bs else .byteArray bs
  | .member m => .text m.word
  | .dict entries => .dict (spelledEntries loose entries)
  | v => v

def spelledItems (loose : Bool) : List Value → List Value
  | [] => []
  | v :: rest => spelled loose v :: spelledItems loose rest

def spelledEntries (loose : Bool) : List (Value × Value) → List (Value × Value)
  | [] => []
  | (k, v) :: rest => (spelled loose k, spelled loose v) :: spelledEntries loose rest

end

/-- One spelling for all of a value. -/
def normal (v : Value) : Value := v.spelled true

/-- The value with its members in words, and else as it is. -/
def worded (v : Value) : Value := v.spelled false

/-- Two spellings of one value. -/
def Alike (v v' : Value) : Prop := v.normal = v'.normal

theorem spelledItems_eq_map (loose : Bool) (items : List Value) :
    spelledItems loose items = items.map (spelled loose) := by
  induction items with
  | nil => rfl
  | cons v rest ih => rw [spelledItems, ih, List.map_cons]

theorem spelledEntries_eq_map (loose : Bool) (entries : List (Value × Value)) :
    spelledEntries loose entries = entries.map fun e => (e.1.spelled loose, e.2.spelled loose) := by
  induction entries with
  | nil => rfl
  | cons e rest ih => rw [spelledEntries, ih, List.map_cons]

theorem map_eq_map_iff_forall₂ {α β : Type} {f : α → β} :
    ∀ {as bs : List α}, as.map f = bs.map f ↔ List.Forall₂ (fun a b => f a = f b) as bs
  | [], bs => by cases bs <;> simp
  | a :: as, [] => by simp
  | a :: as, b :: bs => by simp [map_eq_map_iff_forall₂]

variable {v v' : Value}

theorem asText?_normal (v : Value) : v.normal.asText? = v.asText? := by
  cases v <;> rfl

theorem asBytes?_normal (v : Value) : v.normal.asBytes? = v.asBytes? := by
  cases v <;> rfl

theorem asRow?_normal (v : Value) : v.normal.asRow? = v.asRow?.map (List.map normal) := by
  cases v with
  | list items | tuple items => exact congrArg some (spelledItems_eq_map true items)
  | _ => rfl

/-- Whichever way a row was written, it is kept as the same. -/
theorem normal_freezeRow (v : Value) : v.freezeRow.normal = v.normal := by
  cases v <;> rfl

/-- A text and a member with that word, a byte string and a row of either kind. -/
theorem alike_of_asText? {s : String} (text : v.asText? = some s) : v.Alike (.text s) := by
  cases v <;> cases text <;> rfl

theorem alike_of_asBytes? {bs : List UInt8} (content : v.asBytes? = some bs) :
    v.Alike (.bytes bs) := by
  cases v <;> cases content <;> rfl

theorem alike_of_asRow? {items : List Value} (row : v.asRow? = some items) :
    v.Alike (.tuple items) := by
  cases v <;> cases row <;> rfl

namespace Alike

theorem refl (v : Value) : v.Alike v := Eq.refl v.normal

theorem symm (alike : v.Alike v') : v'.Alike v := Eq.symm alike

theorem asText? (alike : v.Alike v') : v.asText? = v'.asText? := by
  rw [← asText?_normal v, alike, asText?_normal]

theorem asBytes? (alike : v.Alike v') : v.asBytes? = v'.asBytes? := by
  rw [← asBytes?_normal v, alike, asBytes?_normal]

/-- Spellings of a row are rows of spellings. -/
theorem asRow? (alike : v.Alike v') {items : List Value} (row : v.asRow? = some items) :
    ∃ items', v'.asRow? = some items' ∧ List.Forall₂ Alike items items' := by
  have rows : v.asRow?.map (List.map normal) = v'.asRow?.map (List.map normal) := by
    rw [← asRow?_normal v, alike, asRow?_normal]
  rw [row, Option.map_some, eq_comm, Option.map_eq_some_iff] at rows
  obtain ⟨items', row', same⟩ := rows
  exact ⟨items', row', map_eq_map_iff_forall₂.mp same.symm⟩

theorem none (alike : Value.none.Alike v') : v' = .none := by
  cases v' <;> first | rfl | cases alike

theorem bool {b : Bool} (alike : (Value.bool b).Alike v') : v' = .bool b := by
  cases v' <;> first | exact Eq.symm alike | cases alike

theorem number {n : Number} (alike : (Value.number n).Alike v') : v' = .number n := by
  cases v' <;> first | exact Eq.symm alike | cases alike

theorem field {f : FieldSchema} (alike : (Value.field f).Alike v') : v' = .field f := by
  cases v' <;> first | exact Eq.symm alike | cases alike

theorem column {c : NamedColumn} (alike : (Value.column c).Alike v') : v' = .column c := by
  cases v' <;> first | exact Eq.symm alike | cases alike

/-- Spellings of a dictionary have spellings of its keys and values. -/
theorem dict {entries : List (Value × Value)} (alike : (Value.dict entries).Alike v') :
    ∃ entries', v' = .dict entries' ∧
      List.Forall₂ (fun e e' => e.1.Alike e'.1 ∧ e.2.Alike e'.2) entries entries' := by
  cases v' with
  | dict entries' =>
      have same : spelledEntries true entries = spelledEntries true entries' :=
        Value.dict.inj alike
      rw [spelledEntries_eq_map, spelledEntries_eq_map, map_eq_map_iff_forall₂] at same
      exact ⟨entries', rfl, same.imp fun _ _ both => Prod.mk.inj both⟩
  | _ => cases alike

theorem freezeRow (alike : v.Alike v') : v.freezeRow.Alike v'.freezeRow := by
  show v.freezeRow.normal = v'.freezeRow.normal
  rw [normal_freezeRow, normal_freezeRow, alike]

end Alike

/-! ## Spellings at one place -/

/-- Two numbers of one value, of either kind. -/
def SameNumber (v v' : Value) : Prop :=
  ∃ m n : Number, v = .number m ∧ v' = .number n ∧ m.same n = true

/-- Two spellings of a number of seconds. -/
def AlikeSeconds (v v' : Value) : Prop := v.Alike v' ∨ v.SameNumber v'

theorem AlikeSeconds.symm (alike : v.AlikeSeconds v') : v'.AlikeSeconds v := by
  rcases alike with alike | ⟨m, n, first, second, same⟩
  · exact .inl alike.symm
  · exact .inr ⟨n, m, second, first, Number.same_comm m n ▸ same⟩

/-- A pair of a name and a value that is kept: the name in its one spelling, the value
in words. -/
def asOption (v : Value) : Value :=
  match v.asRow? with
  | some (name :: rest) => .tuple (name.normal :: rest.map worded)
  | _ => v.normal

/-- A row of such pairs. -/
def asOptions (v : Value) : Value :=
  match v.asRow? with
  | some items => .tuple (items.map asOption)
  | Option.none => v.normal

/-- Two spellings of a row of options: rows of both kinds, names in all spellings, values
that differ in members and their words only. -/
def AlikeOptions (v v' : Value) : Prop := v.asOptions = v'.asOptions

theorem AlikeOptions.symm (alike : v.AlikeOptions v') : v'.AlikeOptions v := Eq.symm alike

/-- What has the normal form of a row is a row. -/
theorem asRow?_ne_none {items : List Value} (normal : v.normal = .tuple items) :
    v.asRow? ≠ Option.none := by
  intro row
  have normalRow := asRow?_normal v
  rw [normal, row] at normalRow
  cases normalRow

theorem AlikeOptions.asRow? (alike : v.AlikeOptions v') {items : List Value}
    (row : v.asRow? = some items) :
    ∃ items', v'.asRow? = some items' ∧
      List.Forall₂ (fun x y => x.asOption = y.asOption) items items' := by
  unfold AlikeOptions asOptions at alike
  simp only [row] at alike
  split at alike
  · rename_i items' row'
    exact ⟨items', row', map_eq_map_iff_forall₂.mp (Value.tuple.inj alike)⟩
  · rename_i row'
    exact absurd row' (asRow?_ne_none alike.symm)

theorem asRow?_of_asOption {name kept : Value} (same : v.asOption = v'.asOption)
    (row : v.asRow? = some [name, kept]) :
    ∃ name' kept', v'.asRow? = some [name', kept'] ∧ name.Alike name' ∧
      kept.worded = kept'.worded := by
  unfold asOption at same
  simp only [row] at same
  split at same
  · rename_i name' rest' row'
    obtain ⟨names, rests⟩ := List.cons.inj (Value.tuple.inj same)
    rw [map_eq_map_iff_forall₂] at rests
    cases rests with
    | cons kept later =>
        cases later
        exact ⟨name', _, row', names, kept⟩
  · -- What is no pair keeps its normal form, which is that of the row of `v` only for a row.
    rename_i unpaired
    cases row' : v'.asRow? with
    | none => exact absurd row' (asRow?_ne_none same.symm)
    | some items =>
        cases items with
        | nil =>
            have normalRow := asRow?_normal v'
            rw [← same, row'] at normalRow
            cases normalRow
        | cons name' rest' => exact absurd row' (unpaired name' rest')

end Value

/-! ## Readers -/

namespace Codec

variable {α β : Type} {c : Codec α} {d : Codec β}

/-- A reader that takes related values for the same. -/
def BlindTo (R : Value → Value → Prop) (c : Codec α) : Prop :=
  ∀ v v' a, R v v' → c.read v = .accepted a → c.read v' = .accepted a

/-- A reader that takes all spellings of a value for the same. -/
abbrev Blind (c : Codec α) : Prop := c.BlindTo Value.Alike

theorem readText_of_alike {v v' : Value} (alike : v.Alike v') : readText v = readText v' := by
  rw [readText, readText, alike.asText?, alike.asBytes?]

theorem BlindTo.checked {R : Value → Value → Prop} (blind : c.BlindTo R)
    (fault? : α → Option Fault) : (c.checked fault?).BlindTo R := by
  intro v v' a alike read
  rw [checked_eq_accepted_iff] at read ⊢
  exact ⟨blind v v' a alike read.1, read.2⟩

@[simp]
theorem blind_text : text.Blind := by
  intro v v' s alike read
  exact (readText_of_alike alike).symm.trans read

@[simp]
theorem blind_name : name.Blind := blind_text.checked _

@[simp]
theorem blind_bytes : bytes.Blind := by
  intro v v' bs alike read
  simp only [bytes] at read ⊢
  rwa [← alike.asBytes?, ← alike.asText?]

@[simp]
theorem blind_truth : truth.Blind := by
  intro v v' b alike read
  cases v with
  | bool b' => rwa [alike.bool]
  | _ => cases read

@[simp]
theorem blind_integer (b : Bounds) : (integer b).Blind := by
  refine BlindTo.checked ?_ _
  intro v v' n alike read
  cases v with
  | number m => rwa [alike.number]
  | _ => cases read

@[simp]
theorem blind_choice (α : Type) [Vocabulary α] (wrap : α → Member) : (choice α wrap).Blind := by
  intro v v' m alike read
  rw [choice_eq_accepted_iff] at read ⊢
  rwa [← readText_of_alike alike]

@[simp]
theorem blind_dataType : dataType.Blind := blind_choice _ _

@[simp]
theorem blind_metric : metric.Blind := (blind_choice _ _).checked _

@[simp]
theorem blind_index : index.Blind := (blind_choice _ _).checked _

/-- None stays none where it is related to nothing else. -/
theorem BlindTo.optional {R : Value → Value → Prop} (blind : c.BlindTo R)
    (absent : ∀ v v', R v v' → (v = .none ↔ v' = .none)) : c.optional.BlindTo R := by
  intro v v' a? related read
  rw [optional_eq_accepted_iff] at read ⊢
  rcases read with ⟨given, rfl⟩ | ⟨given, a, read, rfl⟩
  · exact .inl ⟨(absent v v' related).mp given, rfl⟩
  · exact .inr ⟨mt (absent v v' related).mpr given, a, blind v v' a related read, rfl⟩

theorem none_iff_of_alike (v v' : Value) (alike : v.Alike v') : v = .none ↔ v' = .none := by
  constructor
  · rintro rfl
    exact alike.none
  · rintro rfl
    exact alike.symm.none

@[simp]
theorem Blind.optional (blind : c.Blind) : c.optional.Blind :=
  BlindTo.optional blind none_iff_of_alike

@[simp]
theorem Blind.many (blind : c.Blind) (least : Nat) : (many least c).Blind := by
  intro v v' as alike read
  rw [many_eq_accepted_iff] at read ⊢
  obtain ⟨items, row, read, enough⟩ := read
  obtain ⟨items', row', same⟩ := alike.asRow? row
  exact ⟨items', row', forall₂_of_forall₂ blind same read, enough⟩

@[simp]
theorem blind_names (least : Nat) : (names least).Blind := blind_name.many least

/-- A dictionary of texts is read alike in every spelling. -/
@[simp]
theorem blind_texts : texts.Blind := by
  intro v v' pairs alike read
  rw [texts_eq_accepted_iff] at read ⊢
  obtain ⟨entries, written, rfl, read, done⟩ := read
  obtain ⟨entries', rfl, same⟩ := alike.dict
  refine ⟨entries', written, rfl, forall₂_of_forall₂ ?_ same read, done⟩
  rintro e e' p ⟨keys, values⟩ ⟨key, value⟩
  exact ⟨blind_text _ _ _ keys key, blind_text _ _ _ values value⟩

/-! ## Readers of seconds, rows and options -/

theorem readSeconds_eq_accepted_iff {v : Value} {x : Number.Double} :
    readSeconds v = .accepted x ↔ ∃ n, v = .number n ∧ n.toDouble? = some x := by
  cases v with
  | number n =>
      simp only [readSeconds]
      cases rounded : n.toDouble? <;> simp [rounded]
  | _ => exact iff_of_false nofun nofun

/-- A number of seconds is read as the same double as an integer and as a double. -/
@[simp]
theorem blind_seconds (most : Option Int) : (seconds most).BlindTo Value.AlikeSeconds := by
  intro v v' x alike read
  obtain ⟨read, bounded⟩ := checked_eq_accepted_iff.mp read
  refine checked_eq_accepted_iff.mpr ⟨?_, bounded⟩
  obtain ⟨n, rfl, rounded⟩ := readSeconds_eq_accepted_iff.mp read
  rcases alike with alike | ⟨m, m', same, rfl, equal⟩
  · rwa [alike.number]
  · cases same
    -- Zeros of both signs are the same number; seconds are above zero.
    have positive := (Bounds.fault?_eq_none_iff.mp bounded).2.2 0 rfl
    exact readSeconds_eq_accepted_iff.mpr
      ⟨m', rfl, Number.toDouble?_of_same equal rounded positive⟩

@[simp]
theorem blind_optional_seconds (most : Option Int) :
    (seconds most).optional.BlindTo Value.AlikeSeconds := by
  refine (blind_seconds most).optional ?_
  rintro v v' (alike | ⟨m, n, rfl, rfl, -⟩)
  · exact none_iff_of_alike v v' alike
  · exact iff_of_false nofun nofun

/-- Rows are kept as they are, so spellings of rows are kept as spellings. -/
theorem read_rows_of_alike {least : Nat} {v v' : Value} {kept : List Value} (alike : v.Alike v')
    (read : (rows least).read v = .accepted kept) :
    ∃ kept', (rows least).read v' = .accepted kept' ∧
      List.Forall₂ Value.Alike kept kept' := by
  obtain ⟨items, row, rfl, enough⟩ := rows_eq_accepted_iff.mp read
  obtain ⟨items', row', same⟩ := alike.asRow? row
  refine ⟨items'.map Value.freezeRow, rows_eq_accepted_iff.mpr ⟨items', row', rfl, ?_⟩, ?_⟩
  · rwa [List.length_map, ← same.length_eq, ← List.length_map]
  · rw [List.forall₂_map_left_iff, List.forall₂_map_right_iff]
    exact same.imp fun _ _ => Value.Alike.freezeRow

/-- The names of options are read alike, and their values are kept with at most a member
for a word. -/
theorem read_options_of_alike {least : Nat} {v v' : Value} {options : List (String × Value)}
    (alike : v.AlikeOptions v')
    (read : (many least (pair text anything)).read v = .accepted options) :
    ∃ options', (many least (pair text anything)).read v' = .accepted options' ∧
      List.Forall₂ (fun o o' => o.1 = o'.1 ∧ o.2.worded = o'.2.worded) options options' := by
  obtain ⟨items, row, pairs, enough⟩ := many_eq_accepted_iff.mp read
  obtain ⟨items', row', same⟩ := alike.asRow? row
  obtain ⟨options', read', like⟩ : ∃ options',
      List.Forall₂ (fun v a => (pair text anything).read v = .accepted a) items' options' ∧
        List.Forall₂ (fun o o' => o.1 = o'.1 ∧ o.2.worded = o'.2.worded) options options' := by
    clear read row row' enough
    -- Along the two rows: the values that were read fix the names, the rest is kept.
    induction same generalizing options with
    | nil =>
        cases pairs
        exact ⟨[], .nil, .nil⟩
    | cons here _ ih =>
        obtain ⟨⟨name, kept⟩, more, first, later, rfl⟩ := List.forall₂_cons_left_iff.mp pairs
        obtain ⟨options', read', like⟩ := ih later
        obtain ⟨x, y, row, readName, readKept⟩ := pair_eq_accepted_iff.mp first
        cases readKept
        obtain ⟨x', y', row', names, values⟩ := Value.asRow?_of_asOption here row
        exact ⟨(name, y') :: options',
          .cons (pair_eq_accepted_iff.mpr ⟨x', y', row', blind_text _ _ _ names readName, rfl⟩)
            read', .cons ⟨rfl, values⟩ like⟩
  exact ⟨options', many_eq_accepted_iff.mpr ⟨items', row', read', like.length_eq ▸ enough⟩, like⟩

end Codec

end VectorClient
