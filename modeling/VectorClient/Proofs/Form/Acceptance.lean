/-
# VectorClient.Proofs.Form.Acceptance — what a codec accepts

What each way of putting readers together accepts, said of the parts alone, without
the reports that a rejection makes: a tuple is accepted element by element
(`Codec.many_eq_accepted_iff`), a pair part by part, a dictionary entry by entry, and
a nested parameter if it was built before or can be built now.
-/
import VectorClient.Form.Blueprint
import Mathlib.Data.List.Forall2

namespace VectorClient

set_option autoImplicit false

/-! ## Lists beside each other -/

/-- Every element has a counterpart exactly if the list has one. -/
theorem exists_forall₂_iff {α β : Type} {R : α → β → Prop} {as : List α} :
    (∃ bs, List.Forall₂ R as bs) ↔ ∀ a ∈ as, ∃ b, R a b := by
  induction as with
  | nil => exact iff_of_true ⟨[], .nil⟩ nofun
  | cons a as ih =>
      rw [List.forall_mem_cons, ← ih]
      constructor
      · rintro ⟨_, _ | ⟨here, later⟩⟩
        exact ⟨⟨_, here⟩, _, later⟩
      · rintro ⟨⟨b, here⟩, bs, later⟩
        exact ⟨b :: bs, .cons here later⟩

/-- What follows of the second element of every pair holds of the second list. -/
theorem forall_mem_of_forall₂ {α β : Type} {R : α → β → Prop} {P : β → Prop}
    {as : List α} {bs : List β} (along : List.Forall₂ R as bs) (implies : ∀ a b, R a b → P b) :
    ∀ b ∈ bs, P b := by
  induction along with
  | nil => exact nofun
  | cons here _ ih => exact List.forall_mem_cons.mpr ⟨implies _ _ here, ih⟩

/-- What relates one list to a third relates one that is related to it element by element. -/
theorem forall₂_of_forall₂ {α β : Type} {S : α → α → Prop} {T : α → β → Prop}
    (carry : ∀ x y b, S x y → T x b → T y b) {xs ys : List α} (like : List.Forall₂ S xs ys) :
    ∀ {bs : List β}, List.Forall₂ T xs bs → List.Forall₂ T ys bs := by
  induction like with
  | nil => exact fun read => read
  | cons here _ ih =>
      intro bs read
      cases read with
      | cons first later => exact .cons (carry _ _ _ here first) (ih later)

namespace Codec

variable {α β : Type} {c : Codec α} {v : Value}

/-- A value is read in one way. -/
theorem rightUnique_read (c : Codec α) : Relator.RightUnique fun v a => c.read v = .accepted a := by
  intro v a b read again
  exact Verdict.accepted.inj (read.symm.trans again)

theorem optional_eq_accepted_iff {a? : Option α} :
    c.optional.read v = .accepted a? ↔
      v = .none ∧ a? = none ∨ v ≠ .none ∧ ∃ a, c.read v = .accepted a ∧ a? = some a := by
  have given : ∀ v, (c.read v).map some = .accepted a? ↔
      ∃ a, c.read v = .accepted a ∧ a? = some a := by
    intro v
    simp only [Verdict.map_eq_accepted_iff, @eq_comm _ a?]
  cases v with
  | none =>
      show Verdict.accepted none = .accepted a? ↔ _
      simp [eq_comm]
  | _ => exact (given _).trans (by simp)

theorem choice_eq_accepted_iff [Vocabulary α] {wrap : α → Member} {m : α} :
    (choice α wrap).read v = .accepted m ↔
      ∃ s, readText v = .accepted s ∧ Vocabulary.ofWord? s = some m := by
  simp only [choice]
  cases readText v with
  | accepted s =>
      cases found : Vocabulary.ofWord? (α := α) s <;>
        simp [Verdict.accepted?, found, Verdict.refuse]
  | rejected entries => simp [Verdict.accepted?, Verdict.refuse]
  | aborted cause => simp [Verdict.accepted?, Verdict.refuse]

/-! ## Tuples -/

theorem readItems_eq_accepted_iff :
    ∀ {first : Nat} {items : List Value} {as : List α}, readItems c first items = .accepted as ↔
      List.Forall₂ (fun v a => c.read v = .accepted a) items as
  | first, [], as => by
      show Verdict.accepted [] = .accepted as ↔ _
      simp [eq_comm]
  | first, v :: rest, as => by
      rw [readItems, Verdict.both_eq_accepted_iff, List.forall₂_cons_left_iff]
      simp only [Verdict.under_eq_accepted_iff, readItems_eq_accepted_iff]
      constructor
      · rintro ⟨a, more, read, later, rfl⟩
        exact ⟨a, more, read, later, rfl⟩
      · rintro ⟨a, more, read, later, rfl⟩
        exact ⟨a, more, read, later, rfl⟩

/-- Elements that are all accepted are all counted. -/
theorem validCount_of_accepted {items : List Value} {as : List α}
    (read : List.Forall₂ (fun v a => c.read v = .accepted a) items as) :
    validCount c items = as.length := by
  induction read with
  | nil => rfl
  | cons here _ ih =>
      rw [validCount] at ih ⊢
      rw [List.countP_cons, ih, here]
      rfl

theorem many_eq_accepted_iff {least : Nat} {as : List α} :
    (many least c).read v = .accepted as ↔
      ∃ items, v.asRow? = some items ∧
        List.Forall₂ (fun v a => c.read v = .accepted a) items as ∧ least ≤ as.length := by
  have counted : ∀ valid, countEntries least valid = [] ↔ least ≤ valid := by
    intro valid
    unfold countEntries
    split
    · simpa
    · simpa using ‹¬ valid < least›
  cases row : v.asRow? with
  | none =>
      simp only [many, row]
      exact iff_of_false nofun nofun
  | some items =>
      simp only [many, row, Verdict.alsoRefuse_eq_accepted_iff, readItems_eq_accepted_iff, counted,
        Option.some.injEq, exists_eq_left']
      constructor
      · rintro ⟨read, enough⟩
        exact ⟨read, validCount_of_accepted read ▸ enough⟩
      · rintro ⟨read, enough⟩
        exact ⟨read, (validCount_of_accepted read).symm ▸ enough⟩

theorem rows_eq_accepted_iff {least : Nat} {kept : List Value} :
    (rows least).read v = .accepted kept ↔
      ∃ items, v.asRow? = some items ∧ items.map Value.freezeRow = kept ∧ least ≤ kept.length := by
  have frozen : ∀ items, List.Forall₂ (fun v a => Verdict.accepted v.freezeRow = .accepted a)
      items kept ↔ items.map Value.freezeRow = kept := by
    intro items
    simp only [Verdict.accepted.injEq]
    rw [← List.forall₂_map_left_iff, List.forall₂_eq_eq_eq]
  refine many_eq_accepted_iff.trans ?_
  simp only [frozen]

theorem pair_eq_accepted_iff {d : Codec β} {p : α × β} :
    (pair c d).read v = .accepted p ↔
      ∃ x y, v.asRow? = some [x, y] ∧ c.read x = .accepted p.1 ∧ d.read y = .accepted p.2 := by
  cases row : v.asRow? with
  | none =>
      simp only [pair, row]
      exact iff_of_false nofun nofun
  | some items =>
      simp only [pair, row]
      rcases items with _ | ⟨x, _ | ⟨y, _ | ⟨z, rest⟩⟩⟩
      · simp [readPart, Verdict.both_eq_accepted_iff, Verdict.under_eq_accepted_iff,
          Verdict.refuse]
      · simp [readPart, Verdict.both_eq_accepted_iff, Verdict.under_eq_accepted_iff,
          Verdict.refuse]
      · simp [readPart, Verdict.both_eq_accepted_iff, Verdict.under_eq_accepted_iff, Prod.ext_iff]
      · simp [Verdict.refuse]

/-! ## Dictionaries -/

theorem readEntries_eq_accepted_iff :
    ∀ {entries : List (Value × Value)} {pairs : List (String × String)},
      readEntries entries = .accepted pairs ↔ List.Forall₂ (fun e p =>
        text.read e.1 = .accepted p.1 ∧ text.read e.2 = .accepted p.2) entries pairs
  | [], pairs => by
      show Verdict.accepted [] = .accepted pairs ↔ _
      simp [eq_comm]
  | (k, v) :: rest, pairs => by
      rw [readEntries, Verdict.both_eq_accepted_iff, List.forall₂_cons_left_iff]
      simp only [Verdict.both_eq_accepted_iff, Verdict.under_eq_accepted_iff,
        readEntries_eq_accepted_iff]
      constructor
      · rintro ⟨_, more, ⟨key, value, readKey, readValue, rfl⟩, later, rfl⟩
        exact ⟨(key, value), more, ⟨readKey, readValue⟩, later, rfl⟩
      · rintro ⟨⟨key, value⟩, more, ⟨readKey, readValue⟩, later, rfl⟩
        exact ⟨(key, value), more, ⟨key, value, readKey, readValue, rfl⟩, later, rfl⟩

theorem texts_eq_accepted_iff {pairs : List (String × String)} :
    texts.read v = .accepted pairs ↔ ∃ entries written, v = .dict entries ∧
      List.Forall₂ (fun e p => text.read e.1 = .accepted p.1 ∧ text.read e.2 = .accepted p.2)
        entries written ∧ Text.Pairs.ofList written = pairs := by
  cases v with
  | dict entries =>
      show (readEntries entries).map Text.Pairs.ofList = .accepted pairs ↔ _
      simp only [Verdict.map_eq_accepted_iff, readEntries_eq_accepted_iff]
      constructor
      · rintro ⟨written, read, done⟩
        exact ⟨entries, written, rfl, read, done⟩
      · rintro ⟨_, written, same, read, done⟩
        cases same
        exact ⟨written, read, done⟩
  | _ => exact iff_of_false nofun nofun

/-! ## Nested parameters -/

theorem parameter_eq_accepted_iff {b : Blueprint α} {wrap : α → Value}
    {unwrap? : Value → Option α} {a : α} :
    (parameter b wrap unwrap?).read v = .accepted a ↔
      unwrap? v = some a ∨ unwrap? v = none ∧ ∃ entries kw, v = .dict entries ∧
        keywords? entries = some kw ∧ b.build kw = .accepted a := by
  cases built : unwrap? v with
  | some a' => simp [parameter, built]
  | none =>
      cases v with
      | dict entries =>
          simp only [parameter, built]
          cases given : keywords? entries with
          | none => simp [given]
          | some kw =>
              cases outcome : b.build kw <;> simp [given, outcome, Verdict.refuse]
      | _ => simp [parameter, built, Verdict.refuse]

end Codec

end VectorClient
