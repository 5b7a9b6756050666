/-
# VectorClient.Proofs.Client.Loading — loads that wait until everything is loaded

A load of a collection or of partitions looks at percentages.  Names and
percentages are two lists side by side, of any lengths and with any name in
them more than once; what counts for a name is the last place that holds it and
has a percentage beside it (`LoadedAt`).

* `lastReported_eq_some_iff`: what is looked up for a name is what that place reports.
* `Load.tells`: a look ends the wait exactly if it is decisive, and as `Load.ending` says.
* `load_endsAtFirst`: a waiting load ends at its first decisive look.
-/
import VectorClient.Proofs.Client.Watching
import Mathlib.Data.List.Basic

namespace VectorClient

set_option autoImplicit false

open Text

/-! ## Percentages -/

/-- Searching from the end finds the last element that passes. -/
theorem find?_reverse_eq_some_iff {α : Type} {p : α → Bool} {xs : List α} {a : α} :
    xs.reverse.find? p = some a ↔
      p a = true ∧ ∃ i : Nat, xs[i]? = some a ∧
        ∀ (j : Nat) (b : α), i < j → xs[j]? = some b → p b = false := by
  rw [List.find?_eq_some_iff_append]
  refine and_congr_right fun _ => ?_
  constructor
  · rintro ⟨later, earlier, split, others⟩
    have whole : xs = earlier.reverse ++ a :: later.reverse := by
      rw [← List.reverse_reverse xs, split]
      simp
    refine ⟨earlier.length, by simp [whole], fun j b after there => ?_⟩
    obtain ⟨k, rfl⟩ : ∃ k, j = earlier.reverse.length + (k + 1) :=
      ⟨j - earlier.length - 1, by simp; omega⟩
    rw [whole, List.getElem?_append_right (Nat.le_add_right _ _), Nat.add_sub_cancel_left,
      List.getElem?_cons_succ] at there
    simpa using others b (List.mem_reverse.mp (List.mem_of_getElem? there))
  · rintro ⟨i, here, last⟩
    obtain ⟨bound, rfl⟩ := List.getElem?_eq_some_iff.mp here
    refine ⟨(xs.drop (i + 1)).reverse, (xs.take i).reverse, ?_, fun b member => ?_⟩
    · conv_lhs => rw [← List.take_append_drop i xs, List.drop_eq_getElem_cons bound]
      simp
    · obtain ⟨k, there⟩ := List.mem_iff_getElem?.mp (List.mem_reverse.mp member)
      rw [List.getElem?_drop] at there
      simpa using last (i + 1 + k) b (by omega) there

/-- What is looked up for a name is what its last place with a percentage reports. -/
theorem lastReported_eq_some_iff {π : Type} {reported : List String} {percentages : List π}
    {name : String} {percentage : π} :
    lastReported reported percentages name = some percentage ↔
      ∃ i : Nat, reported[i]? = some name ∧ percentages[i]? = some percentage ∧
        ∀ j : Nat, i < j → j < percentages.length → reported[j]? ≠ some name := by
  simp only [lastReported, Option.map_eq_some_iff, Prod.exists, exists_eq_right,
    find?_reverse_eq_some_iff, beq_iff_eq, beq_eq_false_iff_ne, List.getElem?_zip_eq_some]
  constructor
  · rintro ⟨_, rfl, i, ⟨named, shown⟩, last⟩
    refine ⟨i, named, shown, fun j after short again => ?_⟩
    exact last j (_, percentages[j]) after ⟨again, List.getElem?_eq_getElem short⟩ rfl
  · rintro ⟨i, named, shown, last⟩
    refine ⟨name, rfl, i, ⟨named, shown⟩, fun j e after there same => ?_⟩
    obtain ⟨again, beside⟩ := there
    exact last j after (List.getElem?_eq_some_iff.mp beside).1 (same ▸ again)

/-- A name is loaded: it is reported, and the last of its reports that has a percentage
beside it says a hundred or more. -/
def LoadedAt (reported : List String) (percentages : List Int) (name : String) : Prop :=
  ∃ (i : Nat) (percentage : Int), reported[i]? = some name ∧
    percentages[i]? = some percentage ∧ 100 ≤ percentage ∧
    ∀ j : Nat, i < j → j < percentages.length → reported[j]? ≠ some name

theorem allLoaded_iff (names reported : List String) (percentages : List Int) :
    allLoaded (fullyLoaded ≤ ·) names reported percentages = true ↔
      ∀ name ∈ names, LoadedAt reported percentages name := by
  have found : ∀ name, (lastReported reported percentages name).any (fullyLoaded ≤ ·) = true ↔
      LoadedAt reported percentages name := by
    intro name
    simp only [Option.any_eq_true, lastReported_eq_some_iff, LoadedAt, fullyLoaded]
    constructor
    · rintro ⟨percentage, ⟨i, named, shown, last⟩, full⟩
      exact ⟨i, percentage, named, shown, of_decide_eq_true full, last⟩
    · rintro ⟨i, percentage, named, shown, full, last⟩
      exact ⟨percentage, ⟨i, named, shown, last⟩, decide_eq_true full⟩
  simp only [allLoaded, List.all_eq_true, found]

/-! ## Loads -/

/-- A load, of a collection or of some of its partitions. -/
inductive Load where
  | collection (p : CollectionLoad)
  | partitions (p : PartitionLoad)

namespace Load

/-- The names that are to be loaded. -/
def names : Load → List String
  | .collection p => [p.collection]
  | .partitions p => p.partitions

/-- The field of an answer that lists names. -/
def field : Load → String
  | .collection _ => "collection_names"
  | .partitions _ => "partition_names"

/-- A load as the watch that it is: it repeats the listing of what it loads. -/
def watch : Load → Watch
  | .collection p =>
      { operation := .loadCollection
        param := p
        request := p.request
        built := rfl
        pacing := p.pacing
        description := "collection " ++ between p.collection ++ " to load"
        failureCode := unexpectedCode
        judge := judgeLoading [p.collection] "collection_names"
        lookLabel := "check loading of " ++ between p.collection
        look := ⟨.showCollections, p.lookRequest⟩ }
  | .partitions p =>
      { operation := .loadPartitions
        param := p
        request := p.request
        built := rfl
        pacing := p.pacing
        description := "partitions " ++ quotedNames p.partitions ++ " of " ++
          between p.collection ++ " to load"
        failureCode := unexpectedCode
        judge := judgeLoading p.partitions "partition_names"
        lookLabel := "check loading of partitions " ++ quotedNames p.partitions
        look := ⟨.showPartitions, p.lookRequest⟩ }

theorem perform_watch {σ τ : Type} [Timeline τ] (c : Client σ τ) (fuel : Nat) (l : Load)
    (w : World σ τ) :
    c.perform fuel l.watch.operation l.watch.param w = c.watch fuel l.watch w := by
  cases l <;> rfl

/-- Every requested name is loaded, by what an envelope reports. -/
def LoadedIn (l : Load) (e : Envelope Response) : Prop :=
  ∃ r, e.payload? = some r ∧ ∀ name ∈ l.names,
    LoadedAt (r.fields.texts l.field) (r.fields.ints "inMemory_percentages") name

theorem loadedIn_iff (l : Load) (e : Envelope Response) :
    (e.payload?.any fun r => allLoaded (fullyLoaded ≤ ·) l.names (r.fields.texts l.field)
      (r.fields.ints "inMemory_percentages")) = true ↔ l.LoadedIn e := by
  simp only [Option.any_eq_true, allLoaded_iff, LoadedIn]

instance (l : Load) (e : Envelope Response) : Decidable (l.LoadedIn e) :=
  decidable_of_iff _ (l.loadedIn_iff e)

theorem judge_eq (l : Load) (r : Response) :
    l.watch.judge r = if l.LoadedIn (.success r) then .complete else .pending := by
  have judged : l.watch.judge r = if allLoaded (fullyLoaded ≤ ·) l.names
      (r.fields.texts l.field) (r.fields.ints "inMemory_percentages") then .complete
      else .pending := by
    cases l <;> rfl
  rw [judged]
  exact if_congr (l.loadedIn_iff (.success r)) rfl rfl

variable {σ τ : Type} [Timeline τ]

/-- The time that a load waits at most. -/
def timeout (l : Load) : τ := Timeline.ofSeconds l.watch.pacing.timeout

/-- A look is decisive: it is not a success, or every requested name is loaded, or the
time to wait has passed at its end. -/
def Decisive (l : Load) (seen : Sight τ Raised Response) : Prop :=
  match seen.back with
  | .error _ => True
  | .ok e => e.ok = false ∨ l.LoadedIn e ∨ Timeline.le l.timeout seen.elapsed = true

instance (l : Load) : (seen : Sight τ Raised Response) → Decidable (l.Decisive seen)
  | ⟨.error _, _⟩ => .isTrue trivial
  | ⟨.ok e, elapsed⟩ => inferInstanceAs
      (Decidable (e.ok = false ∨ l.LoadedIn e ∨ Timeline.le l.timeout elapsed = true))

/-- What a load makes of its decisive look: the envelope of the look itself if that is no
success; otherwise the envelope of the load, `result`, if every requested name is loaded;
otherwise that the wait has taken too long. -/
def ending (l : Load) (result : Envelope Payload) (seen : Sight τ Raised Response) :
    Ending CallFault Payload :=
  match seen.back with
  | .error r => .raised (.raised r)
  | .ok e =>
      if e.ok = false then .returned e.withoutData
      else if l.LoadedIn e then .returned result
      else .returned (.waitTimeout ("Waiting for " ++ l.watch.description ++ " timed out after " ++
        Timeline.text (l.timeout : τ) ++ " seconds"))

theorem ending_of_loaded {l : Load} {seen : Sight τ Raised Response} {r : Response}
    (back : seen.back = .ok (.success r)) (loaded : l.LoadedIn (.success r))
    (result : Envelope Payload) : l.ending result seen = .returned result := by
  simp [ending, back, loaded]

theorem passesOn (l : Load) :
    Client.PassesOn (l.Decisive : Sight τ Raised Response → Prop) l.ending where
  error seen r result back := by simp [Decisive, ending, back]
  refused seen e result back failed := by simp [Decisive, ending, back, failed]

/-- A look ends the wait of a load exactly if it is decisive. -/
theorem tells (l : Load) :
    Client.Tells l.watch (l.Decisive : Sight τ Raised Response → Prop) l.ending := by
  refine .of_success l.passesOn ?pending ?ends
  case pending =>
    intro seen r back undecided
    simp only [Decisive, back, not_or, Bool.not_eq_true] at undecided
    obtain ⟨-, notLoaded, inTime⟩ := undecided
    exact Wait.ending?_of_pending back rfl ((l.judge_eq r).trans (if_neg notLoaded)) inTime
  case ends =>
    intro seen r result back decisive
    by_cases loaded : l.LoadedIn (.success r)
    · refine ⟨_, Wait.ending?_of_complete back rfl ((l.judge_eq r).trans (if_pos loaded)), ?_⟩
      exact (ending_of_loaded back loaded result).symm
    · have late : Timeline.le l.timeout seen.elapsed = true := by
        simpa [Decisive, back, loaded] using decisive
      refine ⟨_, Wait.ending?_of_late back rfl ((l.judge_eq r).trans (if_neg loaded)) late, ?_⟩
      simp [ending, back, loaded, Ending.concluding, Envelope.withoutData, Envelope.waitTimeout]
      rfl

end Load

namespace Client

variable {σ τ : Type} [Timeline τ]

/-- **A waiting load ends at its first decisive look.** -/
theorem load_endsAtFirst (c : Client σ τ) (fuel : Nat) (l : Load) (w : World σ τ)
    (waits : l.watch.pacing.waits = true) (opened : w.closed = false) :
    c.EndsAtFirst fuel l.watch l.Decisive l.ending w :=
  c.endsAtFirst (l.perform_watch c fuel w) waits opened l.tells

/-- A listing with percentages. -/
def listing (names : List String) (percentages : List Int) : Response :=
  ⟨"ShowCollectionsResponse", [("collection_names", .list (names.map .text)),
    ("inMemory_percentages", .list (percentages.map .int))]⟩

/-- A client of a server whose first listing has half of what is asked for.  Later ones name
it three times, with a hundred beside the second and nothing beside the third. -/
def slowlyLoading : Client Nat Number where
  connection := ⟨"localhost", 1, .zero, none, .zero, false, .zero, none, false, none, none, none, []⟩
  server := ⟨fun listings call => match call.operation, listings with
    | .showCollections, 0 => (⟨none, false, .response (listing ["c"] [50])⟩, 1)
    | .showCollections, n =>
        (⟨none, false, .response (listing ["c", "c", "c"] [40, 100])⟩, n + 1)
    | _, n => (⟨none, false, .response ⟨"Status", []⟩⟩, n), fun n => (false, n)⟩

/-- A load that waits for up to nine seconds. -/
def patientLoad : CollectionLoad := ⟨"c", ⟨true, .ofInt 1, .ofInt 9⟩⟩

theorem load_endsAtFirst_slowlyLoading :
    (slowlyLoading.perform 5 .loadCollection patientLoad (World.initial 0)).1 =
        .returned (.success (.acknowledged .silent)) ∧
      World.callsIn (slowlyLoading.perform 5 .loadCollection patientLoad (World.initial 0)).2.trace =
        [⟨.showCollections, patientLoad.lookRequest⟩,
          ⟨.showCollections, patientLoad.lookRequest⟩,
          ⟨.loadCollection, patientLoad.request⟩] := by
  have ends := slowlyLoading.load_endsAtFirst 5 (.collection patientLoad) (World.initial 0) rfl rfl
  have same : slowlyLoading.perform 5 .loadCollection patientLoad (World.initial 0) =
      slowlyLoading.perform 5 (Load.collection patientLoad).watch.operation
        (Load.collection patientLoad).watch.param (World.initial 0) := rfl
  set called := (slowlyLoading.callOnce .loadCollection patientLoad (World.initial 0)).2
  -- The second look is the first decisive one.
  obtain ⟨ending, calls⟩ := ends.decided (.success (.acknowledged .silent)) called 1 rfl rfl
    (by decide) (by decide +kernel) (by decide +kernel)
  have opened : (slowlyLoading.opening (Load.collection patientLoad).watch called 1).closed =
      false := by decide +kernel
  have loaded : (Load.collection patientLoad).LoadedIn
      (.success (listing ["c", "c", "c"] [40, 100])) := by decide
  rw [opened] at calls
  rw [same]
  exact ⟨ending.trans (Load.ending_of_loaded rfl loaded _), calls⟩

end Client

end VectorClient
