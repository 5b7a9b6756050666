/-
# VectorClient.Proofs.Form.Nesting — dictionaries in place of parameters

A dictionary in place of a nested parameter is built like the parameter alone
(`Codec.read_parameter_of_handsOver`): if that succeeds, it stands for what was built, and
if it is refused, its report becomes one entry at its index.  So of a row of dictionaries there
is an entry for each that is refused, in order, and one more if none is left
(`Codec.entries_many_parameter`).

* `Fault.messages_eq_map`: the texts of a report, entry by entry.
* `Codec.entries_many`: what is reported of a row, element by element.
* `Blueprint.build_congr`: keywords with the same names whose values are read alike build alike.
-/
import VectorClient.Proofs.Form.Reports
import VectorClient.Proofs.Form.Respelling

namespace VectorClient

set_option autoImplicit false

/-! ## Texts of reports -/

theorem Fault.messages_eq_map (entries : List Entry) :
    messages entries = entries.map fun e => entryText e.1.text (message e.2) := by
  induction entries with
  | nil => simp [messages]
  | cons e rest ih => simp [messages, ih]

/-- The text of a nested parameter's refusal is that of its report. -/
theorem Fault.message_refused (title : String) (entries : List Entry) :
    message (.refused title entries) = reportText title (messages entries) := rfl

theorem Fault.message_tooFew :
    message (.tooFew 1 0) = "Tuple should have at least 1 item after validation, not 0" := by
  decide +kernel

/-! ## Rows -/

namespace Codec

variable {α : Type} {c : Codec α} {v v' : Value} {items items' : List Value}

/-- What is reported of the elements of a row, each at its own index. -/
theorem entries_readItems :
    ∀ {first : Nat} {items : List Value}, (∀ u ∈ items, (c.read u).abort? = none) →
      (readItems c first items).entries =
        (items.zipIdx first).flatMap fun e => ((c.read e.1).under (.index e.2)).entries
  | _, [], _ => rfl
  | first, u :: rest, settled => by
      obtain ⟨here, later⟩ := List.forall_mem_cons.mp settled
      have quiet : (readItems c (first + 1) rest).abort? = none := by
        rw [abort?_readItems, List.findSome?_eq_none_iff]
        exact later
      rw [readItems, Verdict.entries_both
        (Verdict.ne_aborted_of_abort? ((Verdict.abort?_under _ _).trans here))
        (Verdict.ne_aborted_of_abort? quiet), entries_readItems later, List.zipIdx_cons,
        List.flatMap_cons]

/-- What is reported of a row, and after it that there are too few elements. -/
theorem entries_many {least : Nat} (row : v.asRow? = some items)
    (settled : ∀ u ∈ items, (c.read u).abort? = none) :
    ((many least c).read v).entries =
      (items.zipIdx.flatMap fun e => ((c.read e.1).under (.index e.2)).entries) ++
        countEntries least (validCount c items) := by
  have quiet : (readItems c 0 items).abort? = none := by
    rw [abort?_readItems, List.findSome?_eq_none_iff]
    exact settled
  simp only [many, row]
  rw [Verdict.entries_alsoRefuse quiet, entries_readItems settled]

/-- Rows whose elements are read alike are read alike. -/
theorem read_many_congr {least : Nat} (row : v.asRow? = some items)
    (row' : v'.asRow? = some items')
    (alike : List.Forall₂ (fun u u' => c.read u = c.read u') items items') :
    (many least c).read v = (many least c).read v' := by
  have elements : ∀ first, readItems c first items = readItems c first items' := by
    clear row row'
    induction alike with
    | nil => exact fun _ => rfl
    | cons here _ ih =>
        intro first
        rw [readItems, readItems, here, ih]
  have count : validCount c items = validCount c items' := by
    clear row row' elements
    induction alike with
    | nil => rfl
    | cons here _ ih =>
        rw [validCount, validCount, List.countP_cons, List.countP_cons, here]
        exact congrArg (· + _) ih
  simp only [many, row, row', elements, count]

end Codec

/-! ## Keywords that are read alike -/

namespace Fields

/-- Every field is read alike from two dictionaries of keywords. -/
def ReadsAlike (kw kw' : Keywords) : {α : Type} → Fields α → Prop
  | _, .nil => True
  | _, .cons name codec default? rest =>
      readField name codec default? (kw.find? name) =
        readField name codec default? (kw'.find? name) ∧ rest.ReadsAlike kw kw'

theorem ReadsAlike.read {kw kw' : Keywords} :
    ∀ {α : Type} {fields : Fields α}, fields.ReadsAlike kw kw' → fields.read kw = fields.read kw'
  | _, .nil, _ => rfl
  | _, .cons _ _ _ _, alike => by
      rw [Fields.read, Fields.read, alike.1, alike.2.read]

end Fields

theorem Blueprint.build_congr {α : Type} {b : Blueprint α} {kw kw' : Keywords}
    (names : kw.map Prod.fst = kw'.map Prod.fst) (alike : b.fields.ReadsAlike kw kw') :
    b.build kw = b.build kw' := by
  have related : kw.Related (fun _ _ _ => True) kw' := by
    have same : List.Forall₂ Eq (kw.map Prod.fst) (kw'.map Prod.fst) := by
      rw [names, List.forall₂_eq_eq_eq]
    rw [List.forall₂_map_left_iff, List.forall₂_map_right_iff] at same
    exact same.imp fun _ _ named => ⟨named, trivial⟩
  rw [build, build, namesReceiver_of_related related, buildFields, buildFields,
    unknown_of_related related, alike.read]

/-! ## Dictionaries in place of parameters -/

namespace Blueprint

variable {α : Type}

/-- The entries that keywords are refused with. -/
def refusal? (b : Blueprint α) (kw : Keywords) : Option (List Entry) :=
  match b.build kw with
  | .rejected entries => some entries
  | _ => none

/-- What is reported of dictionaries in a row: the refusals, each at its index, and that too few
elements are left, if all are refused. -/
def nestedEntries (b : Blueprint α) (ds : List Keywords) : List Entry :=
  (ds.zipIdx.filterMap fun e =>
    (b.refusal? e.1).map fun entries => ([.index e.2], .refused b.title entries)) ++
  if ds.all fun d => (b.refusal? d).isSome then [([], .tooFew 1 0)] else []

/-- The texts of what is reported of dictionaries in a row, under the name of a field. -/
theorem messages_nestedEntries (b : Blueprint α) {field : String} (named : field ≠ "")
    (ds : List Keywords) :
    Fault.messages ((b.nestedEntries ds).map fun e => (.name field :: e.1, e.2)) =
      (ds.zipIdx.filterMap fun e => (b.refusal? e.1).map fun entries =>
        field ++ "." ++ toString e.2 ++ ": " ++ (b.report entries).text) ++
      if ds.all fun d => (b.refusal? d).isSome then
        [field ++ ": Tuple should have at least 1 item after validation, not 0"] else [] := by
  have element : ∀ (index : Nat) (entries : List Entry),
      entryText (Location.text [.name field, .index index])
          (Fault.message (.refused b.title entries)) =
        field ++ "." ++ toString index ++ ": " ++ (b.report entries).text := by
    intro index entries
    rw [Fault.message_refused]
    simp [entryText, Location.text, Step.text, report, Report.text]
  have few : entryText (Location.text [.name field]) (Fault.message (.tooFew 1 0)) =
      field ++ ": Tuple should have at least 1 item after validation, not 0" := by
    rw [Fault.message_tooFew]
    simp only [entryText, Location.text, Step.text, List.map_cons, List.map_nil,
      String.intercalate_singleton, String.isEmpty_iff, named, if_false]
    rw [String.append_assoc]
    rfl
  rw [Fault.messages_eq_map, nestedEntries, List.map_append, List.map_append, List.map_filterMap,
    List.map_filterMap]
  simp only [Option.map_map, Function.comp_def, element]
  split
  · simp only [List.map_cons, List.map_nil, few]
  · rfl

end Blueprint

namespace Codec

variable {α : Type} {b : Blueprint α} {wrap : α → Value} {unwrap? : Value → Option α} {v : Value}
  {d : Keywords}

/-- The value is a dictionary with texts for keys, which hands on these keywords. -/
def HandsOver (v : Value) (d : Keywords) : Prop :=
  ∃ entries, v = .dict entries ∧ keywords? entries = some d

/-- Keywords cannot be handed on if they name the receiver. -/
theorem handOver?_of_handsOver (hands : HandsOver v d) :
    handOver? v = if (d.find? Blueprint.receiver).isSome then some .receiverNamed else none := by
  obtain ⟨entries, rfl, given⟩ := hands
  have handed := isNone_keywords? entries
  rw [given, Option.isNone_some] at handed
  rw [handOver?, ← handed, if_neg Bool.false_ne_true,
    isSome_find?_of_keywords? Blueprint.receiver given]

/-- A row of dictionaries aborts if one of them names the receiver. -/
theorem findSome?_handOver? {items : List Value} {ds : List Keywords}
    (hands : List.Forall₂ HandsOver items ds) :
    items.findSome? handOver? =
      if ds.any fun d => (d.find? Blueprint.receiver).isSome then some .receiverNamed else none := by
  induction hands with
  | nil => rfl
  | @cons u d _ _ here _ ih =>
      rw [List.findSome?_cons, List.any_cons, ih, handOver?_of_handsOver here]
      cases (d.find? Blueprint.receiver).isSome <;> rfl

/-- An element of a row is read, or refused for one fault, as the class builds or refuses the
dictionary. -/
inductive ReadsLike (c : Codec α) (b : Blueprint α) (v : Value) (d : Keywords) : Prop
  | stands {a : α} (read : c.read v = .accepted a) (kept : b.refusal? d = none)
  | refused {entries : List Entry} (read : c.read v = .refuse (.refused b.title entries))
      (told : b.refusal? d = some entries)

section Along

variable {c : Codec α} {items : List Value} {ds : List Keywords}

theorem ReadsLike.settled (alike : ReadsLike c b v d) : (c.read v).abort? = none := by
  cases alike with
  | stands read | refused read => rw [read]; rfl

theorem ReadsLike.isAccepted (alike : ReadsLike c b v d) :
    (c.read v).isAccepted = (b.refusal? d).isNone := by
  cases alike with
  | stands read kept => rw [read, kept]; rfl
  | refused read told => rw [read, told]; rfl

theorem ReadsLike.entries (alike : ReadsLike c b v d) :
    (c.read v).entries =
      (b.refusal? d).toList.map fun entries => ([], .refused b.title entries) := by
  cases alike with
  | stands read kept => rw [read, kept]; rfl
  | refused read told => rw [read, told]; rfl

theorem validCount_of_readsLike (along : List.Forall₂ (ReadsLike c b) items ds) :
    validCount c items = ds.countP fun d => (b.refusal? d).isNone := by
  induction along with
  | nil => rfl
  | cons here _ ih =>
      rw [validCount] at ih ⊢
      rw [List.countP_cons, List.countP_cons, ih, here.isAccepted]

theorem entries_of_readsLike (along : List.Forall₂ (ReadsLike c b) items ds) {first : Nat} :
    ((items.zipIdx first).flatMap fun e => ((c.read e.1).under (.index e.2)).entries) =
      (ds.zipIdx first).filterMap fun e =>
        (b.refusal? e.1).map fun entries => ([.index e.2], .refused b.title entries) := by
  induction along generalizing first with
  | nil => rfl
  | @cons u d _ _ here _ ih =>
      rw [List.zipIdx_cons, List.zipIdx_cons, List.flatMap_cons, List.filterMap_cons, ih,
        Verdict.entries_under, here.entries]
      cases b.refusal? d <;> rfl

end Along

/-- One is enough, so too few are left exactly if none is. -/
theorem countEntries_countP {β : Type} (p : β → Bool) (l : List β) :
    countEntries 1 (l.countP p) = if l.all fun a => !p a then [([], .tooFew 1 0)] else [] := by
  unfold countEntries
  have unaccepted : (l.all fun a => !p a) = true ↔ l.countP p = 0 := by
    rw [List.all_eq_true, List.countP_eq_zero]
    simp only [Bool.not_eq_true', Bool.not_eq_true]
  by_cases none : l.countP p = 0
  · rw [if_pos (unaccepted.mpr none), none]
    rfl
  · rw [if_neg (unaccepted.not.mpr none), if_neg (Nat.not_lt.mpr (Nat.pos_of_ne_zero none))]

section Unbuilt

variable (unbuilt : ∀ entries, unwrap? (.dict entries) = none)

include unbuilt

theorem read_parameter_of_handsOver (hands : HandsOver v d) :
    (parameter b wrap unwrap?).read v = match b.build d with
      | .rejected entries => .refuse (.refused b.title entries)
      | verdict => verdict := by
  obtain ⟨entries, rfl, given⟩ := hands
  cases built : b.build d <;> simp [parameter, unbuilt, given, built]

theorem read_parameter_of_build (hands : HandsOver v d) {a : α} (built : b.build d = .accepted a) :
    (parameter b wrap unwrap?).read v = .accepted a := by
  rw [read_parameter_of_handsOver unbuilt hands, built]

/-- A dictionary that can be handed on is read, or refused for one fault. -/
theorem readsLike_of_handsOver (hands : HandsOver v d) (settled : (b.build d).abort? = none) :
    ReadsLike (parameter b wrap unwrap?) b v d := by
  cases built : b.build d with
  | accepted a =>
      exact .stands (read_parameter_of_build unbuilt hands built) (by rw [Blueprint.refusal?, built])
  | rejected entries =>
      refine .refused ?_ (by rw [Blueprint.refusal?, built])
      rw [read_parameter_of_handsOver unbuilt hands, built]
  | aborted cause =>
      rw [built] at settled
      cases settled

/-- What is reported of dictionaries in a row, if all can be handed on. -/
theorem entries_many_parameter {items : List Value} {ds : List Keywords}
    (row : v.asRow? = some items) (hands : List.Forall₂ HandsOver items ds)
    (settled : ∀ d ∈ ds, (b.build d).abort? = none) :
    ((many 1 (parameter b wrap unwrap?)).read v).entries = b.nestedEntries ds := by
  have along : List.Forall₂ (ReadsLike (parameter b wrap unwrap?) b) items ds := by
    clear row
    induction hands with
    | nil => exact .nil
    | cons here _ ih =>
        obtain ⟨built, settled⟩ := List.forall_mem_cons.mp settled
        exact .cons (readsLike_of_handsOver unbuilt here built) (ih settled)
  have quiet : ∀ u ∈ items, ((parameter b wrap unwrap?).read u).abort? = none :=
    forall_mem_of_forall₂ along.flip fun _ _ => ReadsLike.settled
  rw [entries_many row quiet, entries_of_readsLike along, validCount_of_readsLike along,
    countEntries_countP, Blueprint.nestedEntries]
  simp only [Option.not_isNone]

end Unbuilt

end Codec

end VectorClient
