/-
# VectorClient.Proofs.Client.Segments — asking for segments, collection by collection

`Client.merge` is what follows the call for one collection, with what comes
after it left open; `segmentStates_cons` gives `Client.segmentStates` as one call
and its merge.

* `Client.answers`: the answers for all collections, if every call succeeds;
  `segmentStates_eq_iff`: the states are then those of the answers, merged.
* `SegmentStates.reports`: what the answers say of the segments asked for, one
  after the other; `mem_merged_iff`: of several reports on one segment, the
  merged states keep the last.
-/
import VectorClient.Client.Progress
import Mathlib.Data.List.Induction

namespace VectorClient

set_option autoImplicit false

open Text

namespace Client

variable {σ τ : Type}

/-- What follows the call for one collection: an end, or what comes `next` with the
states of its segments written over the earlier ones. -/
def merge (ids : List Int) (states : SegmentStates)
    (next : SegmentStates → World σ τ → Except Raised (Envelope SegmentStates) × World σ τ) :
    Except Raised (Envelope Response) × World σ τ →
      Except Raised (Envelope SegmentStates) × World σ τ
  | (.error r, w) => (.error r, w)
  | (.ok e, w) => match e.payload? with
    | none => (.ok e.withoutData, w)
    | some r => next (states.update ids r) w

variable [Timeline τ]

/-- The call for the segments of one collection. -/
def askSegments (c : Client σ τ) (name : String) (w : World σ τ) :
    Except Raised (Envelope Response) × World σ τ :=
  c.invoke ("check flushing of " ++ between name)
    ⟨.getPersistentSegmentInfo, (CollectionTarget.mk name).request⟩ id w

theorem segmentStates_cons (c : Client σ τ) (name : String) (ids : List Int)
    (rest : List (String × List Int)) (states : SegmentStates) (w : World σ τ) :
    c.segmentStates ((name, ids) :: rest) states w =
      if ids.isEmpty then c.segmentStates rest states w
      else merge ids states (c.segmentStates rest) (c.askSegments name w) := by
  rw [segmentStates]
  rfl

section Related

variable {R : World σ τ → World σ τ → Prop} (refl : ∀ w, R w w)
  (trans : ∀ {u v w}, R u v → R v w → R u w)

include refl

omit [Timeline τ] in
theorem merge_related (ids : List Int) (states : SegmentStates)
    {next : SegmentStates → World σ τ → Except Raised (Envelope SegmentStates) × World σ τ}
    (goesOn : ∀ states w, R w (next states w).2)
    (asked : Except Raised (Envelope Response) × World σ τ) :
    R asked.2 (merge ids states next asked).2 := by
  obtain ⟨back, w⟩ := asked
  cases back with
  | error r => exact refl w
  | ok e =>
      unfold merge
      dsimp only
      split
      · exact refl w
      · exact goesOn _ _

include trans

/-- What relates the worlds before and after every call relates those before and after all. -/
theorem segmentStates_related {c : Client σ τ} (asks : ∀ name w, R w (c.askSegments name w).2) :
    ∀ (targets : List (String × List Int)) (states : SegmentStates) (w : World σ τ),
      R w (c.segmentStates targets states w).2
  | [], _, w => refl w
  | (name, ids) :: rest, states, w => by
      have later := segmentStates_related asks rest
      rw [segmentStates_cons]
      split
      · exact later states w
      · exact trans (asks name w) (merge_related refl ids states later _)

end Related

/-- The answers for the collections that have segments, in order, each with the
segments asked for; if every call succeeds. -/
def answers (c : Client σ τ) :
    List (String × List Int) → World σ τ → Option (List (List Int × Response) × World σ τ)
  | [], w => some ([], w)
  | (name, ids) :: rest, w =>
      if ids.isEmpty then answers c rest w
      else match c.askSegments name w with
        | (.error _, _) => none
        | (.ok e, w) => match e.payload? with
          | none => none
          | some r => (answers c rest w).map fun (as, w) => ((ids, r) :: as, w)

end Client

namespace SegmentStates

/-- What an answer says of the segments asked for: segments and their states, in order. -/
def reported (ids : List Int) (r : Response) : List (Int × Int) :=
  ((r.fields.messages "infos").filter fun info => ids.contains (info.int "segmentID")).map
    fun info => (info.int "segmentID", info.int "state")

/-- What several answers say of the segments asked for, one after the other. -/
def reports (answers : List (List Int × Response)) : List (Int × Int) :=
  answers.flatMap fun (ids, r) => reported ids r

/-- States of segments, by the reports on them. -/
def merged (states : SegmentStates) (reports : List (Int × Int)) : SegmentStates :=
  reports.foldl (fun states e => states.insert e.1 e.2) states

theorem update_eq (states : SegmentStates) (ids : List Int) (r : Response) :
    states.update ids r = states.merged (reported ids r) := by
  rw [update, merged, reported, List.foldl_map]

theorem merged_append (states : SegmentStates) (older newer : List (Int × Int)) :
    states.merged (older ++ newer) = (states.merged older).merged newer :=
  List.foldl_append

/-- Writing a state keeps the states of all other segments and forgets its own earlier one. -/
theorem mem_insert (states : SegmentStates) (segment state : Int) (e : Int × Int) :
    e ∈ states.insert segment state ↔
      e = (segment, state) ∨ e.1 ≠ segment ∧ e ∈ states := by
  unfold insert
  split
  · rename_i known
    obtain ⟨d, member, same⟩ := List.any_eq_true.mp known
    rw [List.mem_map]
    constructor
    · rintro ⟨d, member, rfl⟩
      by_cases here : d.1 = segment
      · simp [here]
      · simp [here, member]
    · rintro (rfl | ⟨other, member⟩)
      · exact ⟨d, member, by simp [same]⟩
      · exact ⟨e, member, by simp [other]⟩
  · rename_i unknown
    have others : e ∈ states → e.1 ≠ segment := by
      intro member same
      exact unknown (List.any_eq_true.mpr ⟨e, member, by simp [same]⟩)
    rw [List.mem_append, List.mem_singleton]
    constructor
    · rintro (member | here)
      · exact .inr ⟨others member, member⟩
      · exact .inl here
    · rintro (here | ⟨-, member⟩)
      · exact .inr here
      · exact .inl member

/-- Of several reports on one segment, the merged states keep the last. -/
theorem mem_merged_iff (reports : List (Int × Int)) (e : Int × Int) :
    e ∈ merged [] reports ↔
      ∃ newer, e :: newer <:+ reports ∧ ∀ later ∈ newer, later.1 ≠ e.1 := by
  induction reports using List.reverseRecOn with
  | nil => simp [merged]
  | append_singleton reports last ih =>
      rw [merged_append]
      change e ∈ (merged [] reports).insert last.1 last.2 ↔ _
      rw [mem_insert, ih]
      constructor
      · rintro (rfl | ⟨other, newer, suffix, latest⟩)
        · exact ⟨[], List.suffix_append _ _, by simp⟩
        · refine ⟨newer ++ [last], ?_, ?_⟩
          · obtain ⟨older, rfl⟩ := suffix
            exact ⟨older, by simp⟩
          · intro later member
            rcases List.mem_append.mp member with member | member
            · exact latest later member
            · rw [List.mem_singleton.mp member]
              exact other.symm
      · rintro ⟨newer, suffix, latest⟩
        obtain ⟨older, split⟩ := suffix
        rcases List.eq_nil_or_concat newer with rfl | ⟨init, final, rfl⟩
        · obtain ⟨-, last_eq⟩ := List.append_inj' split rfl
          exact .inl (by simpa using last_eq)
        · rw [List.concat_eq_append] at split latest
          obtain ⟨rfl, final_eq⟩ :=
            List.append_inj' ((List.append_assoc older (e :: init) [final]).trans split) rfl
          obtain rfl : final = last := by simpa using final_eq
          refine .inr ⟨(latest final (by simp)).symm, init, List.suffix_append _ _, ?_⟩
          intro later member
          exact latest later (by simp [member])

end SegmentStates

namespace Client

variable {σ τ : Type} [Timeline τ]

/-- The states of the segments are those of the answers, merged; there are states
only if every call succeeds. -/
theorem segmentStates_eq_iff (c : Client σ τ) :
    ∀ (targets : List (String × List Int)) (states result : SegmentStates) (w v : World σ τ),
      c.segmentStates targets states w = (.ok (.success result), v) ↔
        ∃ as, c.answers targets w = some (as, v) ∧
          result = states.merged (SegmentStates.reports as)
  | [], states, result, w, v => by
      simp [segmentStates, answers, Envelope.success, SegmentStates.merged, SegmentStates.reports,
        eq_comm, and_comm]
  | (name, ids) :: rest, states, result, w, v => by
      have later := segmentStates_eq_iff c rest
      rw [segmentStates_cons, answers]
      split
      · exact later states result w v
      · generalize c.askSegments name w = asked
        obtain ⟨back, w'⟩ := asked
        cases back with
        | error error => simp [merge]
        | ok e =>
            simp only [merge]
            cases e.payload? with
            | none => simp [Envelope.withoutData, Envelope.success]
            | some r =>
                dsimp only
                rw [later, SegmentStates.update_eq]
                simp only [Option.map_eq_some_iff, Prod.exists, Prod.mk.injEq]
                constructor
                · rintro ⟨as, answered, rfl⟩
                  exact ⟨_, ⟨as, v, answered, rfl, rfl⟩, by simp [SegmentStates.reports,
                    SegmentStates.merged_append]⟩
                · rintro ⟨_, ⟨as, _, answered, rfl, rfl⟩, rfl⟩
                  exact ⟨as, answered, by simp [SegmentStates.reports,
                    SegmentStates.merged_append]⟩

end Client

end VectorClient
