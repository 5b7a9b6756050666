/-
# VectorClient.Proofs.Client.Visiting — collections visited one after the other

Asking for segments visits the collections that have any, each once and in order, and
leaves off at the first that is not answered with success (`Client.Visited`).  If all
are, the merged states are a map: of the reports on a segment that the set of their
collection holds, the last one is its state.  Reports on one collection do not meet those
on another unless the sets share a segment, so without shared segments the map is the
same for every order of the visits.

* `SegmentStates.lookup_merged_iff`: the merged states as a map.
* `Client.segmentStates_visited`: where the visits end, and what has been called by then.
* `Client.segmentStates_visits`: this, the map, and that it does not depend on the order.
-/
import VectorClient.Proofs.Client.Issuing

namespace VectorClient

set_option autoImplicit false

/-! ## Merged states as a map -/

namespace SegmentStates

theorem mem_reported_iff {ids : List Int} {r : Response} {e : Int × Int} :
    e ∈ reported ids r ↔ e.1 ∈ ids ∧ ∃ info ∈ r.fields.messages "infos",
      info.int "segmentID" = e.1 ∧ info.int "state" = e.2 := by
  rw [reported, List.mem_map]
  constructor
  · rintro ⟨info, member, rfl⟩
    obtain ⟨member, own⟩ := List.mem_filter.mp member
    exact ⟨List.contains_iff_mem.mp own, info, member, rfl, rfl⟩
  · rintro ⟨own, info, member, segment, state⟩
    refine ⟨info, List.mem_filter.mpr ⟨member, ?_⟩, Prod.ext segment state⟩
    rw [segment]
    exact List.contains_iff_mem.mpr own

theorem mem_reports_iff {answers : List (List Int × Response)} {e : Int × Int} :
    e ∈ reports answers ↔ ∃ a ∈ answers, e ∈ reported a.1 a.2 := List.mem_flatMap

theorem mem_merged_append_singleton {states : SegmentStates} {reports : List (Int × Int)}
    {last e : Int × Int} :
    e ∈ states.merged (reports ++ [last]) ↔
      e = last ∨ e.1 ≠ last.1 ∧ e ∈ states.merged reports := by
  rw [merged_append]
  exact mem_insert _ _ _ _

/-- A segment has one state. -/
theorem eq_of_mem_merged {reports : List (Int × Int)} {segment state state' : Int}
    (member : (segment, state) ∈ merged [] reports)
    (member' : (segment, state') ∈ merged [] reports) : state = state' := by
  induction reports using List.reverseRecOn with
  | nil => cases member
  | append_singleton reports last ih =>
      rw [mem_merged_append_singleton] at member member'
      rcases member with rfl | ⟨other, member⟩
      · rcases member' with same | ⟨other, -⟩
        · exact (Prod.mk.inj same).2.symm
        · exact absurd rfl other
      · rcases member' with rfl | ⟨-, member'⟩
        · exact absurd rfl other
        · exact ih member member'

theorem lookup_merged_iff_mem {reports : List (Int × Int)} {segment state : Int} :
    (merged [] reports).lookup segment = some state ↔ (segment, state) ∈ merged [] reports := by
  have member_of_lookup : ∀ {state}, (merged [] reports).lookup segment = some state →
      (segment, state) ∈ merged [] reports := by
    intro state found
    obtain ⟨before, after, parts, -⟩ := List.lookup_eq_some_iff.mp found
    rw [parts]
    exact List.mem_append_right _ List.mem_cons_self
  refine ⟨member_of_lookup, fun member => ?_⟩
  cases found : (merged [] reports).lookup segment with
  | none => simpa using List.lookup_eq_none_iff.mp found _ member
  | some state' => rw [eq_of_mem_merged member (member_of_lookup found)]

/-- The state of a segment is what the last report on it says. -/
theorem lookup_merged_iff {reports : List (Int × Int)} {segment state : Int} :
    (merged [] reports).lookup segment = some state ↔
      ∃ newer, (segment, state) :: newer <:+ reports ∧ ∀ later ∈ newer, later.1 ≠ segment := by
  rw [lookup_merged_iff_mem, mem_merged_iff]

/-- There is a state exactly for the segments that are reported. -/
theorem exists_mem_merged_iff {reports : List (Int × Int)} {segment : Int} :
    (∃ state, (segment, state) ∈ merged [] reports) ↔ ∃ state, (segment, state) ∈ reports := by
  induction reports using List.reverseRecOn with
  | nil => exact Iff.rfl
  | append_singleton reports last ih =>
      simp only [mem_merged_append_singleton, List.mem_append, List.mem_singleton]
      by_cases here : segment = last.1
      · exact iff_of_true ⟨last.2, .inl (Prod.ext here rfl)⟩ ⟨last.2, .inr (Prod.ext here rfl)⟩
      · have other : ∀ state, (segment, state) ≠ last := fun state same =>
          here (congrArg Prod.fst same)
        simp only [other, here, false_or, or_false, ne_eq, not_false_eq_true, true_and, ih]

/-- Reports are written over the states that were there before. -/
theorem mem_merged_iff_or {states : SegmentStates} {reports : List (Int × Int)} {e : Int × Int} :
    e ∈ states.merged reports ↔
      e ∈ merged [] reports ∨ (∀ report ∈ reports, report.1 ≠ e.1) ∧ e ∈ states := by
  induction reports using List.reverseRecOn with
  | nil => simp [merged]
  | append_singleton reports last ih =>
      simp only [mem_merged_append_singleton, ih, List.forall_mem_append, List.forall_mem_singleton]
      constructor
      · rintro (rfl | ⟨other, new | ⟨older, member⟩⟩)
        · exact .inl (.inl rfl)
        · exact .inl (.inr ⟨other, new⟩)
        · exact .inr ⟨⟨older, other.symm⟩, member⟩
      · rintro ((rfl | ⟨other, new⟩) | ⟨⟨older, other⟩, member⟩)
        · exact .inl rfl
        · exact .inr ⟨other, .inl new⟩
        · exact .inr ⟨other.symm, .inr ⟨older, member⟩⟩

/-- Answers on sets that share no segment are merged side by side. -/
theorem mem_merged_reports_iff {e : Int × Int} :
    ∀ {answers : List (List Int × Response)},
      (answers.Pairwise fun a b => ∀ id ∈ a.1, id ∉ b.1) →
      (e ∈ merged [] (reports answers) ↔ ∃ a ∈ answers, e ∈ merged [] (reported a.1 a.2))
  | [], _ => by simp [reports, merged]
  | a :: rest, apart => by
      obtain ⟨here, apart⟩ := List.pairwise_cons.mp apart
      have split : reports (a :: rest) = reported a.1 a.2 ++ reports rest := rfl
      have free : e ∈ merged [] (reported a.1 a.2) → ∀ report ∈ reports rest, report.1 ≠ e.1 := by
        intro member report later same
        obtain ⟨state, reportedHere⟩ := exists_mem_merged_iff.mp ⟨e.2, member⟩
        obtain ⟨b, among, reportedThere⟩ := mem_reports_iff.mp later
        exact here b among e.1 (mem_reported_iff.mp reportedHere).1
          (same ▸ (mem_reported_iff.mp reportedThere).1)
      rw [split, merged_append, mem_merged_iff_or, mem_merged_reports_iff apart,
        List.exists_mem_cons_iff, or_comm]
      exact or_congr_left ⟨And.right, fun member => ⟨free member, member⟩⟩

/-- Without shared segments, answers in another order give the same map. -/
theorem lookup_merged_of_perm {answers answers' : List (List Int × Response)}
    (perm : answers.Perm answers') (apart : answers.Pairwise fun a b => ∀ id ∈ a.1, id ∉ b.1)
    (segment : Int) :
    (merged [] (reports answers)).lookup segment = (merged [] (reports answers')).lookup segment := by
  have apart' : answers'.Pairwise fun a b => ∀ id ∈ a.1, id ∉ b.1 :=
    perm.pairwise apart fun away id there here => away id here there
  ext state
  simp only [lookup_merged_iff_mem, mem_merged_reports_iff apart,
    mem_merged_reports_iff apart', perm.mem_iff]

/-- Whether a flush is complete depends on the map alone. -/
theorem judgeFlush_merged_congr {ε : Type} {reports reports' : List (Int × Int)}
    (same : ∀ segment, (merged [] reports).lookup segment = (merged [] reports').lookup segment) :
    (judgeFlush (merged [] reports) : Judgement ε) = judgeFlush (merged [] reports') := by
  have members : ∀ e, e ∈ merged [] reports ↔ e ∈ merged [] reports' := by
    intro e
    rw [← lookup_merged_iff_mem, same, lookup_merged_iff_mem]
  have all : (merged [] reports).all (fun e => e.2 == segmentFlushed) =
      (merged [] reports').all fun e => e.2 == segmentFlushed := by
    rw [Bool.eq_iff_iff, List.all_eq_true, List.all_eq_true]
    simp only [members]
  simp only [judgeFlush, Judgement.ofPredicates, all]

end SegmentStates

/-! ## Visits -/

/-- The call for the segments of a collection. -/
def segmentCall (name : String) : Call :=
  ⟨.getPersistentSegmentInfo, (CollectionTarget.mk name).request⟩

namespace Client

variable {σ τ : Type} [Timeline τ] (c : Client σ τ)

/-- Where the visits end: all collections that have segments have been asked for and answered with
success; or those before one that is not, and that one, whose envelope is handed on, or whose
error. -/
inductive Visited (targets : List (String × List Int)) (states : SegmentStates) (w : World σ τ) :
    Except Raised (Envelope SegmentStates) × World σ τ → Prop
  | whole {as : List (List Int × Response)} {v : World σ τ}
      (answered : c.answers targets w = some (as, v)) :
      Visited targets states w (.ok (.success (states.merged (SegmentStates.reports as))), v)
  | stopped {before after : List (String × List Int)} {name : String} {ids : List Int}
      {as : List (List Int × Response)} {u v : World σ τ} {e : Envelope Response}
      (parts : targets = before ++ (name, ids) :: after) (filled : ids ≠ [])
      (answered : c.answers before w = some (as, u)) (asked : c.askSegments name u = (.ok e, v))
      (failed : e.ok = false) (unloaded : e.data = none)
      (issued : Issued u v (List.replicate (!u.closed).toNat (segmentCall name))) :
      Visited targets states w (.ok e.withoutData, v)
  | raised {before after : List (String × List Int)} {name : String} {ids : List Int}
      {as : List (List Int × Response)} {u v : World σ τ} {r : Raised}
      (parts : targets = before ++ (name, ids) :: after) (filled : ids ≠ [])
      (answered : c.answers before w = some (as, u)) (asked : c.askSegments name u = (.error r, v))
      (issued : Issued u v [segmentCall name]) :
      Visited targets states w (.error r, v)

variable {c} {name : String} {ids : List Int} {targets rest : List (String × List Int)}
  {states : SegmentStates} {u w : World σ τ}
  {run : Except Raised (Envelope SegmentStates) × World σ τ}

/-- An envelope that is no success holds nothing. -/
theorem data_of_not_ok {α : Type} {label : String} {call : Call} {payload : Response → α}
    {e : Envelope α} (back : c.invoke label call payload w = (.ok e, u)) (failed : e.ok = false) :
    e.data = none := by
  cases opened : w.closed with
  | true =>
      rw [c.invoke_of_closed label call payload opened] at back
      cases back
      rfl
  | false =>
      obtain ⟨back', r?, invoked, classified⟩ := c.invoke_classified label call payload opened
      cases invoked.symm.trans back
      generalize (c.server.answer w.server call).1.outcome = outcome at classified
      cases classified with
      | success => cases failed
      | rejected | lost | failed | lostRefusal => rfl

/-- A call that succeeds or raises an error has been made. -/
theorem issued_of_made {back : Except Raised (Envelope Response)}
    (asked : c.askSegments name w = (back, u))
    (made : back ≠ .ok .clientNotConnected) : Issued w u [segmentCall name] := by
  have issued := c.invoke_issued ("check flushing of " ++ Text.between name) (segmentCall name) id w
  have invoked : c.invoke ("check flushing of " ++ Text.between name) (segmentCall name) id w =
    (back, u) := asked
  cases opened : w.closed with
  | true =>
      rw [c.invoke_of_closed _ _ _ opened] at invoked
      exact absurd (Prod.mk.inj invoked).1.symm made
  | false =>
      rw [invoked, opened] at issued
      exact issued

theorem answers_cons_of_isEmpty (none : ids.isEmpty = true) :
    c.answers ((name, ids) :: rest) w = c.answers rest w := by
  rw [answers, if_pos none]

theorem answers_cons_eq_some_iff (filled : ¬ ids.isEmpty = true)
    {as : List (List Int × Response)} {v : World σ τ} :
    c.answers ((name, ids) :: rest) w = some (as, v) ↔
      ∃ r u later, c.askSegments name w = (.ok (.success r), u) ∧
        c.answers rest u = some (later, v) ∧ (ids, r) :: later = as := by
  rw [answers, if_neg filled]
  generalize asked : c.askSegments name w = x
  obtain ⟨back, u⟩ := x
  cases back with
  | error r => simp
  | ok e =>
      cases ok : e.ok with
      | false =>
          simp only [Envelope.payload?_of_not_ok ok]
          constructor
          · intro none
            cases none
          · rintro ⟨r, u', later, same, -⟩
            cases same
            cases ok
      | true =>
          obtain ⟨r, rfl⟩ := c.invoke_eq_success asked ok
          simp [Option.map_eq_some_iff, Envelope.payload?_success]

/-- Collections that are all answered with success have been asked for, each once and in order. -/
theorem issued_of_answers :
    ∀ {targets : List (String × List Int)} {w v : World σ τ} {as : List (List Int × Response)},
      c.answers targets w = some (as, v) → Issued w v (segmentCalls targets)
  | [], w, v, as, answered => by
      obtain ⟨-, rfl⟩ := Prod.mk.inj (Option.some.inj answered)
      exact .of_eq rfl
  | (name, ids) :: rest, w, v, as, answered => by
      by_cases none : ids.isEmpty = true
      · rw [answers_cons_of_isEmpty none] at answered
        rw [segmentCalls_cons_of_isEmpty none]
        exact issued_of_answers answered
      · obtain ⟨r, u, later, asked, answered, -⟩ := (answers_cons_eq_some_iff none).mp answered
        rw [segmentCalls_cons none]
        exact (issued_of_made asked nofun).trans (issued_of_answers answered)

/-- A collection without segments is passed over. -/
theorem Visited.skip (none : ids.isEmpty = true) (later : c.Visited rest states w run) :
    c.Visited ((name, ids) :: rest) states w run := by
  cases later with
  | whole answered => exact .whole ((answers_cons_of_isEmpty none).trans answered)
  | stopped parts filled answered asked failed unloaded issued =>
      obtain rfl := parts
      exact .stopped List.cons_append.symm filled ((answers_cons_of_isEmpty none).trans answered)
        asked failed unloaded issued
  | raised parts filled answered asked issued =>
      obtain rfl := parts
      exact .raised List.cons_append.symm filled ((answers_cons_of_isEmpty none).trans answered)
        asked issued

/-- After a collection that is answered with success, the visits go on. -/
theorem Visited.goOn {r : Response} (filled : ¬ ids.isEmpty = true)
    (asked : c.askSegments name w = (.ok (.success r), u))
    (later : c.Visited rest (states.update ids r) u run) :
    c.Visited ((name, ids) :: rest) states w run := by
  have answers_cons : ∀ {targets as v}, c.answers targets u = some (as, v) →
      c.answers ((name, ids) :: targets) w = some ((ids, r) :: as, v) := fun answered =>
    (answers_cons_eq_some_iff filled).mpr ⟨r, u, _, asked, answered, rfl⟩
  cases later with
  | @whole as v answered =>
      have merges : (states.update ids r).merged (SegmentStates.reports as) =
          states.merged (SegmentStates.reports ((ids, r) :: as)) := by
        rw [SegmentStates.update_eq, ← SegmentStates.merged_append]
        rfl
      rw [merges]
      exact .whole (answers_cons answered)
  | stopped parts some answered asked' failed unloaded issued =>
      obtain rfl := parts
      exact .stopped List.cons_append.symm some (answers_cons answered) asked' failed unloaded issued
  | raised parts some answered asked' issued =>
      obtain rfl := parts
      exact .raised List.cons_append.symm some (answers_cons answered) asked' issued

theorem segmentStates_visited (c : Client σ τ) :
    ∀ (targets : List (String × List Int)) (states : SegmentStates) (w : World σ τ),
      c.Visited targets states w (c.segmentStates targets states w)
  | [], _, w => by
      have answered : c.answers [] w = some ([], w) := rfl
      exact .whole answered
  | (name, ids) :: rest, states, w => by
      rw [segmentStates_cons]
      split
      · exact .skip ‹_› (segmentStates_visited c rest states w)
      · rename_i filled
        have some : ids ≠ [] := fun empty => filled (List.isEmpty_iff.mpr empty)
        have issued := c.invoke_issued ("check flushing of " ++ Text.between name)
          (segmentCall name) id w
        generalize asked : c.askSegments name w = x
        rw [show c.invoke _ (segmentCall name) id w = x from asked] at issued
        obtain ⟨back, u⟩ := x
        cases back with
        | error r =>
            exact .raised (List.nil_append _).symm some rfl asked (issued_of_made asked nofun)
        | ok e =>
            rw [merge]
            cases ok : e.ok with
            | false =>
                rw [Envelope.payload?_of_not_ok ok]
                exact .stopped (List.nil_append _).symm some rfl asked ok (data_of_not_ok asked ok)
                  issued
            | true =>
                obtain ⟨r, rfl⟩ := c.invoke_eq_success asked ok
                exact .goOn filled asked (segmentStates_visited c rest (states.update ids r) u)

/-- The states are a map, if all collections are answered with success: of the reports on a segment
that the set of their collection holds, the last one is its state. -/
theorem segmentStates_of_answers {as : List (List Int × Response)} {v : World σ τ}
    (answered : c.answers targets w = some (as, v)) :
    ∃ states, c.segmentStates targets [] w = (.ok (.success states), v) ∧
      (∀ id, (states.lookup id).isSome ↔ ∃ a ∈ as, id ∈ a.1 ∧
        ∃ info ∈ a.2.fields.messages "infos", info.int "segmentID" = id) ∧
      ∀ id state, states.lookup id = some state ↔ ∃ newer,
        (id, state) :: newer <:+ SegmentStates.reports as ∧ ∀ later ∈ newer, later.1 ≠ id := by
  refine ⟨_, (c.segmentStates_eq_iff targets [] _ w v).mpr ⟨as, answered, rfl⟩, fun id => ?_,
    fun id state => SegmentStates.lookup_merged_iff⟩
  simp only [Option.isSome_iff_exists, SegmentStates.lookup_merged_iff_mem,
    SegmentStates.exists_mem_merged_iff, SegmentStates.mem_reports_iff,
    SegmentStates.mem_reported_iff]
  constructor
  · rintro ⟨state, a, among, own, info, member, segment, -⟩
    exact ⟨a, among, own, info, member, segment⟩
  · rintro ⟨a, among, own, info, member, segment⟩
    exact ⟨_, a, among, own, info, member, segment, rfl⟩

/-- The collections that have segments, each with the segments asked for and its answer. -/
def answeredBy (answer : String → Response) (targets : List (String × List Int)) :
    List (List Int × Response) :=
  (targets.filter fun target => !target.2.isEmpty).map fun target => (target.2, answer target.1)

/-- Without shared segments, visits in another order end with the same map, and with the same
decision on whether the flush is complete. -/
theorem segmentStates_of_perm {targets' : List (String × List Int)} {answer : String → Response}
    {c' : Client σ τ} {v v' w' : World σ τ} (perm : targets.Perm targets')
    (apart : targets.Pairwise fun s t => ∀ id ∈ s.2, id ∉ t.2)
    (answered : c.answers targets w = some (answeredBy answer targets, v))
    (answered' : c'.answers targets' w' = some (answeredBy answer targets', v')) :
    ∃ states states', c.segmentStates targets [] w = (.ok (.success states), v) ∧
      c'.segmentStates targets' [] w' = (.ok (.success states'), v') ∧
      (∀ id, states.lookup id = states'.lookup id) ∧
      (judgeFlush states : Judgement Raised) = judgeFlush states' := by
  have along : (answeredBy answer targets).Perm (answeredBy answer targets') :=
    (perm.filter _).map _
  have away : (answeredBy answer targets).Pairwise fun a b => ∀ id ∈ a.1, id ∉ b.1 :=
    List.pairwise_map.mpr (apart.filter _)
  have same := SegmentStates.lookup_merged_of_perm along away
  exact ⟨_, _, (c.segmentStates_eq_iff _ _ _ _ _).mpr ⟨_, answered, rfl⟩,
    (c'.segmentStates_eq_iff _ _ _ _ _).mpr ⟨_, answered', rfl⟩, same,
    SegmentStates.judgeFlush_merged_congr same⟩

/-- **Collections are visited one after the other.**  Those that have segments are asked for, each
once and in order, up to the first that is not answered with success, whose envelope is that of
the whole; if there is none, the states are those that were last reported by a collection of
its own segments; and they do not depend on the order, if no segment is in two sets. -/
theorem segmentStates_visits {σ τ : Type} [Timeline τ] (c : Client σ τ) :
    (∀ (targets : List (String × List Int)) (w : World σ τ),
      c.Visited targets [] w (c.segmentStates targets [] w)) ∧
    (∀ (targets : List (String × List Int)) (as : List (List Int × Response)) (w v : World σ τ),
      c.answers targets w = some (as, v) → Issued w v (segmentCalls targets) ∧
      ∃ states, c.segmentStates targets [] w = (.ok (.success states), v) ∧
        (∀ id, (states.lookup id).isSome ↔ ∃ a ∈ as, id ∈ a.1 ∧
          ∃ info ∈ a.2.fields.messages "infos", info.int "segmentID" = id) ∧
        ∀ id state, states.lookup id = some state ↔ ∃ newer,
          (id, state) :: newer <:+ SegmentStates.reports as ∧ ∀ later ∈ newer, later.1 ≠ id) ∧
    ∀ (c' : Client σ τ) (targets targets' : List (String × List Int)) (answer : String → Response)
      (w w' v v' : World σ τ), targets.Perm targets' →
      (targets.Pairwise fun s t => ∀ id ∈ s.2, id ∉ t.2) →
      c.answers targets w = some (answeredBy answer targets, v) →
      c'.answers targets' w' = some (answeredBy answer targets', v') →
      ∃ states states', c.segmentStates targets [] w = (.ok (.success states), v) ∧
        c'.segmentStates targets' [] w' = (.ok (.success states'), v') ∧
        (∀ id, states.lookup id = states'.lookup id) ∧
        (judgeFlush states : Judgement Raised) = judgeFlush states' :=
  ⟨fun targets w => segmentStates_visited c targets [] w,
    fun _ _ _ _ answered => ⟨issued_of_answers answered, segmentStates_of_answers answered⟩,
    fun _ _ _ _ _ _ _ _ perm apart answered answered' =>
      segmentStates_of_perm perm apart answered answered'⟩

/-- Three collections, one of which has no segments.  The server reports on a segment of the first,
twice and whichever collection it is asked for. -/
def threeCollections : List (String × List Int) := [("c", [1]), ("d", []), ("e", [2])]

theorem segmentStates_visits_twiceReporting :
    ∃ v v' states states',
      twiceReporting.segmentStates threeCollections [] (World.initial ()) =
        (.ok (.success states), v) ∧
      twiceReporting.segmentStates threeCollections.reverse [] (World.initial ()) =
        (.ok (.success states'), v') ∧
      Issued (World.initial ()) v [segmentCall "c", segmentCall "e"] ∧
      states.lookup 1 = some 4 ∧ (∀ id, states.lookup id = states'.lookup id) ∧
      (judgeFlush states : Judgement Raised) = judgeFlush states' := by
  obtain ⟨-, answered, ordered⟩ := segmentStates_visits twiceReporting
  let answer : String → Response := fun _ => ⟨"GetPersistentSegmentInfoResponse",
    [("infos", .list [.message [("segmentID", .int 1), ("state", .int 3)],
      .message [("segmentID", .int 1), ("state", .int 4)]])]⟩
  obtain ⟨issued, states, ran, -, last⟩ := answered threeCollections
    (answeredBy answer threeCollections) (World.initial ()) _ rfl
  obtain ⟨states₁, states', ran₁, ran', same, judged⟩ := ordered twiceReporting threeCollections
    threeCollections.reverse answer (World.initial ()) (World.initial ()) _ _
    (List.reverse_perm _).symm (by decide) rfl rfl
  cases ran.symm.trans ran₁
  exact ⟨_, _, states, states', ran, ran', issued,
    (last 1 4).mpr ⟨[], ⟨[(1, 3)], rfl⟩, nofun⟩, same, judged⟩

end Client

end VectorClient
