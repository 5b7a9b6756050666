/-
# VectorClient.Proofs.Client.Overriding — what a channel is told, and who has the last word

A channel is told the durations of its connection in whole milliseconds, and after
that the options of the caller, in the order given.  A channel that lets a later option
replace an earlier one of the same name therefore follows the caller wherever the
caller says anything (`prevailing?_append`).

A duration is rounded twice on its way, to the nearest double of its thousandfold and
then toward zero.  Both keep the order, and neither loses the first millisecond, but all
that is shorter becomes zero (`Double.wholeMilliseconds_pos_iff`): a connection that
is accepted because its durations are above zero may still tell its channel of none.

* `Connection.Overridden`: what the options of a channel consist of.
* `Connection.channelOptions_overridden`: that of every accepted connection.
* `Connection.channelOptions_withoutMillisecond`: one that tells of no time to wait at all.
-/
import VectorClient.Proofs.Client.Connecting
import VectorClient.Proofs.Form.Acceptance
import VectorClient.Proofs.Number.Order

namespace VectorClient

set_option autoImplicit false

open Number

/-! ## Options that are read in order -/

/-- The value of a key where a later option replaces an earlier one. -/
def prevailing? : List (String × Value) → String → Option Value
  | [], _ => none
  | (name, v) :: later, key => (prevailing? later key).or (if name = key then some v else none)

theorem prevailing?_append (earlier later : List (String × Value)) (key : String) :
    prevailing? (earlier ++ later) key = (prevailing? later key).or (prevailing? earlier key) := by
  induction earlier with
  | nil => simp [prevailing?]
  | cons option earlier ih => simp [prevailing?, ih, Option.or_assoc]

theorem prevailing?_eq_none_iff {options : List (String × Value)} {key : String} :
    prevailing? options key = none ↔ key ∉ options.map Prod.fst := by
  induction options with
  | nil => simp [prevailing?]
  | cons option later ih =>
      simp only [prevailing?, Option.or_eq_none_iff, ih, List.map_cons, List.mem_cons, not_or]
      by_cases here : option.1 = key
      · simp [here]
      · simp [here, Ne.symm here]

/-- What a later option says is what counts. -/
theorem prevailing?_append_of_mem (earlier : List (String × Value)) {later : List (String × Value)}
    {key : String} (member : key ∈ later.map Prod.fst) :
    ∃ v, prevailing? later key = some v ∧ prevailing? (earlier ++ later) key = some v := by
  obtain ⟨v, found⟩ : ∃ v, prevailing? later key = some v := by
    rw [← Option.ne_none_iff_exists']
    exact fun none => prevailing?_eq_none_iff.mp none member
  refine ⟨v, found, ?_⟩
  rw [prevailing?_append, found, Option.some_or]

/-- Where no later option says anything, an earlier one counts. -/
theorem prevailing?_append_of_notMem (earlier : List (String × Value))
    {later : List (String × Value)} {key : String} (absent : key ∉ later.map Prod.fst) :
    prevailing? (earlier ++ later) key = prevailing? earlier key := by
  rw [prevailing?_append, prevailing?_eq_none_iff.mpr absent, Option.none_or]

/-! ## Whole milliseconds -/

namespace Number.Double

/-- The duration is a millisecond or longer. -/
def LastsMillisecond (d : Double) : Prop :=
  d.units?.any (fun units => one ≤ units * 1000) = true

instance (d : Double) : Decidable d.LastsMillisecond := inferInstanceAs (Decidable (_ = true))

/-- The milliseconds of the double of a rank. -/
def wholeMilliseconds (rank : Nat) : Nat :=
  let thousandfold := BinaryFormat.double.nearest (BinaryFormat.double.units rank * 1000) 1
  BinaryFormat.double.units thousandfold / one

theorem milliseconds?_finite {rank : Fin BinaryFormat.double.ranks}
    (countable : Countable (.finite false rank)) :
    Connection.milliseconds? (.finite false rank) = some (wholeMilliseconds rank : Int) := by
  have inside : BinaryFormat.double.nearest (BinaryFormat.double.units rank * 1000) 1 <
      BinaryFormat.double.ranks := by
    rw [BinaryFormat.nearest_lt_ranks_iff BinaryFormat.deep_double, BinaryFormat.beyond_double,
      ← overflow, ← one]
    exact countable_finite_iff.mp countable
  rw [Connection.milliseconds?, times, Binary.ofRatio, dif_pos inside]
  rfl

/-- The rank of the shortest double that is a millisecond or longer. -/
def millisecondRank : Nat := BinaryFormat.double.nearest one 1000

theorem one_le_units_millisecondRank : one ≤ BinaryFormat.double.units millisecondRank * 1000 := by
  decide +kernel

/-- The double before it is not rounded up to a millisecond. -/
theorem wholeMilliseconds_before : wholeMilliseconds (millisecondRank - 1) = 0 := by
  decide +kernel

theorem wholeMilliseconds_le {rank rank' : Nat} (le : rank ≤ rank') :
    wholeMilliseconds rank ≤ wholeMilliseconds rank' := by
  have units := Nat.mul_le_mul_right 1000 (BinaryFormat.double.units_strictMono.monotone le)
  have nearest := BinaryFormat.double.nearest_le_nearest (by decide) Nat.one_pos units
  exact Nat.div_le_div_right (BinaryFormat.double.units_strictMono.monotone nearest)

/-- A duration counts for something exactly from a millisecond on. -/
theorem wholeMilliseconds_pos_iff {rank : Nat} :
    0 < wholeMilliseconds rank ↔ one ≤ BinaryFormat.double.units rank * 1000 := by
  constructor
  · intro positive
    by_contra short
    have before : BinaryFormat.double.units rank < BinaryFormat.double.units millisecondRank := by
      have reaches := one_le_units_millisecondRank
      omega
    have le : rank ≤ millisecondRank - 1 :=
      Nat.le_sub_one_of_lt (BinaryFormat.double.units_strictMono.lt_iff_lt.mp before)
    have none := wholeMilliseconds_le le
    rw [wholeMilliseconds_before] at none
    omega
  · intro lasts
    -- One is a double, so what reaches it is not rounded below it.
    have one_eq : BinaryFormat.double.units (BinaryFormat.double.nearest one 1) = one := by
      decide +kernel
    have reaches := BinaryFormat.double.le_nearest (by decide) (one_eq.trans_le lasts)
    have least := BinaryFormat.double.units_strictMono.monotone reaches
    rw [one_eq] at least
    exact Nat.div_pos least one_pos

/-- Of two doubles that are in order, the ranks are. -/
theorem rank_le_of_le {rank rank' : Fin BinaryFormat.double.ranks}
    (le : (Number.double (.finite false rank)).le (.double (.finite false rank')) = true) :
    rank.val ≤ rank'.val := by
  have units : (BinaryFormat.double.units rank : Int) ≤ BinaryFormat.double.units rank' :=
    of_decide_eq_true le
  exact BinaryFormat.double.units_strictMono.le_iff_le.mp (Int.ofNat_le.mp units)

/-- So many milliseconds are counted of a duration. -/
structure Counts (d : Double) (ms : Nat) : Prop where
  /-- They are the whole part of the double nearest to the thousandfold. -/
  whole : ∃ units, d.units? = some units ∧
    ∃ x : Double, x.IsRounded false (units * 1000) 1 ∧ x.truncate? = some (ms : Int)
  /-- They are none exactly for less than one millisecond. -/
  pos_iff : 0 < ms ↔ d.LastsMillisecond

theorem counts_finite {rank : Fin BinaryFormat.double.ranks}
    (countable : Countable (.finite false rank)) :
    Counts (.finite false rank) (wholeMilliseconds rank) := by
  constructor
  case whole =>
    refine ⟨_, rfl, times 1000 (.finite false rank), ?_, milliseconds?_finite countable⟩
    exact Binary.isRounded_ofRatio (by decide) false _ Nat.one_pos
  case pos_iff =>
    rw [wholeMilliseconds_pos_iff]
    simp [LastsMillisecond, Binary.units?]

/-- Above zero, what can be counted is a finite double with a plus sign. -/
theorem exists_of_countable {d : Double} (above : (Number.int 0).lt (.double d) = true)
    (countable : d.Countable) :
    ∃ rank : Fin BinaryFormat.double.ranks, d = .finite false rank := by
  rcases place?_of_zero_lt above with ⟨units, finite, positive, -⟩ | ⟨rfl, -⟩
  · obtain ⟨rank, same, -⟩ := eq_finite_of_signedUnits? finite positive
    exact ⟨rank, same⟩
  · cases countable

end Number.Double

namespace Connection

/-! ## What is derived from a connection -/

/-- The connection without the options that its caller gives. -/
def bare (p : Connection) : Connection := { p with options := [] }

/-- The durations that the channel is told, each under its name. -/
def durationSettings (p : Connection) : List (String × Double) :=
  [("grpc.keepalive_timeout_ms", p.keepAliveTimeout),
    ("grpc.client_idle_timeout_ms", p.idleTimeout)] ++
      p.keepAliveTime.toList.map fun d => ("grpc.keepalive_time_ms", d)

theorem map_snd_durationSettings (p : Connection) :
    p.durationSettings.map Prod.snd = p.channelDurations := by
  cases time : p.keepAliveTime <;> simp [durationSettings, channelDurations, time]

/-- The names of the options that are derived, in order. -/
def derivedNames (p : Connection) : List String :=
  ["grpc.max_receive_message_length", "grpc.keepalive_timeout_ms",
    "grpc.keepalive_permit_without_calls", "grpc.client_idle_timeout_ms"] ++
      p.keepAliveTime.toList.map fun _ => "grpc.keepalive_time_ms"

variable {p : Connection} {own options : List (String × Value)}

/-- The options of the caller follow those that are derived without them. -/
theorem exists_derived (set : p.channelOptions? = some options) :
    ∃ own, p.bare.channelOptions? = some own ∧ options = own ++ p.options := by
  simp only [channelOptions?, bare, Option.bind_eq_bind, Option.bind_eq_some_iff, Option.pure_def,
    Option.some.injEq] at set ⊢
  obtain ⟨timeout, hasTimeout, idle, hasIdle, time, hasTime, rfl⟩ := set
  exact ⟨_, ⟨timeout, hasTimeout, idle, hasIdle, time, hasTime, rfl⟩, by simp⟩

/-- Derived options have their names, and under that of a duration its milliseconds. -/
theorem derived_tells (set : p.bare.channelOptions? = some own) :
    own.map Prod.fst = p.derivedNames ∧
      ∀ s ∈ p.durationSettings, ∃ n, milliseconds? s.2 = some n ∧
        prevailing? own s.1 = some (.int n) := by
  simp only [channelOptions?, bare, Option.bind_eq_bind, Option.bind_eq_some_iff, Option.pure_def,
    Option.some.injEq] at set
  obtain ⟨timeout, hasTimeout, idle, hasIdle, time, hasTime, rfl⟩ := set
  cases duration : p.keepAliveTime with
  | none =>
      rw [duration] at hasTime
      cases hasTime
      simp [derivedNames, durationSettings, duration, hasTimeout, hasIdle, prevailing?]
  | some d =>
      obtain ⟨n, counted, rfl⟩ : ∃ n, milliseconds? d = some n ∧ time = some n := by
        simpa [duration, eq_comm] using hasTime
      simp [derivedNames, durationSettings, duration, hasTimeout, hasIdle, counted, prevailing?]

/-- The durations of an accepted connection with options are finite and above zero. -/
theorem Accepted.exists_rank (accepted : p.Accepted)
    (set : p.bare.channelOptions? = some own) :
    ∀ s ∈ p.durationSettings, ∃ rank : Fin BinaryFormat.double.ranks,
      s.2 = .finite false rank ∧ Double.Countable (.finite false rank) := by
  intro s member
  have listed : s.2 ∈ p.channelDurations := by
    rw [← map_snd_durationSettings]
    exact List.mem_map_of_mem member
  have countable : s.2.Countable :=
    (isSome_channelOptions?_iff p.bare).mp (Option.isSome_iff_exists.mpr ⟨own, set⟩) _ listed
  obtain ⟨rank, same⟩ := Double.exists_of_countable (accepted.above_zero _ listed) countable
  exact ⟨rank, same, same ▸ countable⟩

/-- The derived options of an accepted connection count its durations. -/
theorem Accepted.derived_counts (accepted : p.Accepted)
    (set : p.bare.channelOptions? = some own) :
    ∀ s ∈ p.durationSettings, ∃ rank : Fin BinaryFormat.double.ranks, s.2 = .finite false rank ∧
      prevailing? own s.1 = some (.int (Double.wholeMilliseconds rank : Int)) ∧
      s.2.Counts (Double.wholeMilliseconds rank) := by
  intro s member
  obtain ⟨rank, same, countable⟩ := accepted.exists_rank set s member
  obtain ⟨n, counted, told⟩ := (derived_tells set).2 s member
  rw [same, Double.milliseconds?_finite countable] at counted
  obtain rfl := Option.some.inj counted
  exact ⟨rank, same, told, same ▸ Double.counts_finite countable⟩

/-! ## Options of the caller -/

/-- Options are what a row of pairs says: names that are read, and values that are kept. -/
def GivenAs (v? : Option Value) (options : List (String × Value)) : Prop :=
  match v? with
  | none => options = []
  | some v => ∃ items, v.asRow? = some items ∧
      List.Forall₂ (fun item option => ∃ name, item.asRow? = some [name, option.2] ∧
        Codec.text.read name = .accepted option.1) items options

theorem givenAs_of_build {kw : Keywords} (built : blueprint.build kw = .accepted p) :
    GivenAs (kw.find? "grpc_options") p.options := by
  obtain ⟨-, -, ⟨host, port, connectTimeout, keepAliveTime, keepAliveTimeout, withoutCalls,
    idleTimeout, timeout, secure, rootCerts, privateKey, certificateChain, options, ⟨⟩⟩, read,
    packed⟩ := Blueprint.build_eq_accepted_iff.mp built
  obtain ⟨-, -, -, -, -, -, -, -, -, -, -, -, given, -⟩ :
      _ ∧ _ ∧ _ ∧ _ ∧ _ ∧ _ ∧ _ ∧ _ ∧ _ ∧ _ ∧ _ ∧ _ ∧ _ ∧ _ := by
    simpa only [blueprint, Blueprint.plain, Fields.switch, Fields.read_cons_eq_accepted_iff]
      using read
  cases packed
  unfold Fields.readField at given
  rw [Verdict.under_eq_accepted_iff] at given
  cases found : kw.find? "grpc_options" with
  | none =>
      rw [found] at given
      cases given
      rfl
  | some v =>
      rw [found] at given
      obtain ⟨items, row, pairs, -⟩ := Codec.many_eq_accepted_iff.mp given
      refine ⟨items, row, pairs.imp fun item option pair => ?_⟩
      obtain ⟨name, v, split, named, kept⟩ := Codec.pair_eq_accepted_iff.mp pair
      cases kept
      exact ⟨name, split, named⟩

/-- What the options of a channel consist of, for a connection that was built from keywords:
its own ones, which are derived, and those of the caller. -/
structure Overridden (kw : Keywords) (p : Connection) (own options : List (String × Value)) :
    Prop where
  given : GivenAs (kw.find? "grpc_options") p.options
  derived : p.bare.channelOptions? = some own
  named : own.map Prod.fst = p.derivedNames
  follow : options = own ++ p.options
  /-- Where the caller says anything, it prevails. -/
  prevail : ∀ key ∈ p.options.map Prod.fst, ∃ v,
    prevailing? p.options key = some v ∧ prevailing? options key = some v
  /-- Where not, what is derived does. -/
  remain : ∀ key ∉ p.options.map Prod.fst, prevailing? options key = prevailing? own key
  /-- Under the name of each duration stand its milliseconds. -/
  count : ∀ s ∈ p.durationSettings, ∃ ms : Nat,
    prevailing? own s.1 = some (.int (ms : Int)) ∧ s.2.Counts ms
  /-- A longer duration, of this connection or of another one, has no fewer of them. -/
  grow : ∀ q : Connection, q.Accepted → ∀ own', q.bare.channelOptions? = some own' →
    ∀ s ∈ p.durationSettings, ∀ t ∈ q.durationSettings,
      (Number.double s.2).le (.double t.2) = true → ∃ m n : Nat,
        prevailing? own s.1 = some (.int (m : Int)) ∧
          prevailing? own' t.1 = some (.int (n : Int)) ∧ m ≤ n

/-- **The options of a channel are derived ones, which count whole milliseconds, and then
those of the caller**, which have the last word.  A duration that is shorter than a
millisecond is counted as none, though it is above zero. -/
theorem channelOptions_overridden {kw : Keywords} (built : blueprint.build kw = .accepted p)
    (set : p.channelOptions? = some options) : ∃ own, Overridden kw p own options := by
  have accepted : p.Accepted := ⟨kw, built⟩
  obtain ⟨own, derived, rfl⟩ := exists_derived set
  refine ⟨own, ?_⟩
  constructor
  case given => exact givenAs_of_build built
  case derived => exact derived
  case named => exact (derived_tells derived).1
  case follow => rfl
  case prevail => exact fun key member => prevailing?_append_of_mem own member
  case remain => exact fun key absent => prevailing?_append_of_notMem own absent
  case count =>
    intro s member
    obtain ⟨rank, -, told, counts⟩ := accepted.derived_counts derived s member
    exact ⟨_, told, counts⟩
  case grow =>
    intro q accepted' own' derived' s member t member' le
    obtain ⟨rank, same, told, -⟩ := accepted.derived_counts derived s member
    obtain ⟨rank', same', told', -⟩ := accepted'.derived_counts derived' t member'
    refine ⟨_, _, told, told', Double.wholeMilliseconds_le ?_⟩
    rw [same, same'] at le
    exact Double.rank_le_of_le le

/-- The caller gives a time to wait among the options as well, and it is the one that counts;
of the time after which the channel is idle, half a millisecond, nothing is left. -/
theorem channelOptions_overridden_sevenSeconds : ∃ p options,
    blueprint.build [("keep_alive_timeout", .int 5),
        ("idle_timeout", .double (.ofFraction false 1 2000)),
        ("grpc_options", .list [.tuple [.text "grpc.keepalive_timeout_ms", .int 7000]])] =
      .accepted p ∧
    p.channelOptions? = some options ∧
      prevailing? options "grpc.keepalive_timeout_ms" = some (.int 7000) ∧
      prevailing? options "grpc.client_idle_timeout_ms" = some (.int 0) := by
  obtain ⟨p, built, shown⟩ := exists_accepted
    [("keep_alive_timeout", .int 5), ("idle_timeout", .double (.ofFraction false 1 2000)),
      ("grpc_options", .list [.tuple [.text "grpc.keepalive_timeout_ms", .int 7000]])]
    (fun p => p.channelOptions?.isSome && !decide p.idleTimeout.LastsMillisecond)
    (by decide +kernel)
  simp only [Bool.and_eq_true, Bool.not_eq_true', decide_eq_false_iff_not] at shown
  obtain ⟨set, short⟩ := shown
  obtain ⟨options, set⟩ := Option.isSome_iff_exists.mp set
  obtain ⟨own, overridden⟩ := channelOptions_overridden built set
  have given : p.options = [("grpc.keepalive_timeout_ms", .int 7000)] := by
    obtain ⟨items, row, pairs⟩ := overridden.given
    cases row
    obtain ⟨⟨name, v⟩, rest, ⟨_, split, read⟩, last, same⟩ := List.forall₂_cons_left_iff.mp pairs
    cases split
    cases read
    cases last
    exact same
  refine ⟨p, options, built, set, ?_, ?_⟩
  · obtain ⟨v, said, prevails⟩ := overridden.prevail "grpc.keepalive_timeout_ms" (by simp [given])
    rw [given] at said
    rw [prevails, ← said]
    rfl
  · obtain ⟨ms, told, counts⟩ := overridden.count
      ("grpc.client_idle_timeout_ms", p.idleTimeout) (by simp [durationSettings])
    obtain rfl : ms = 0 := Nat.eq_zero_of_not_pos (mt counts.pos_iff.mp short)
    rw [overridden.remain "grpc.client_idle_timeout_ms" (by simp [given]), told]
    rfl

/-- A time to wait of half a millisecond is above zero and accepted, and the channel is told
of none. -/
theorem channelOptions_withoutMillisecond : ∃ p options,
    blueprint.build [("keep_alive_timeout", .double (.ofFraction false 1 2000))] = .accepted p ∧
      (Number.int 0).lt (.double p.keepAliveTimeout) = true ∧ p.channelOptions? = some options ∧
        prevailing? options "grpc.keepalive_timeout_ms" = some (.int 0) := by
  obtain ⟨p, built, shown⟩ := exists_accepted
    [("keep_alive_timeout", .double (.ofFraction false 1 2000))]
    (fun p => p.channelOptions?.isSome && p.options.isEmpty &&
      milliseconds? p.keepAliveTimeout == some 0) (by decide +kernel)
  simp only [Bool.and_eq_true, List.isEmpty_iff, beq_iff_eq] at shown
  obtain ⟨⟨set, silent⟩, none⟩ := shown
  obtain ⟨options, set⟩ := Option.isSome_iff_exists.mp set
  obtain ⟨own, derived, rfl⟩ := exists_derived set
  obtain ⟨n, counted, told⟩ := (derived_tells derived).2
    ("grpc.keepalive_timeout_ms", p.keepAliveTimeout) (by simp [durationSettings])
  obtain rfl := Option.some.inj (none.symm.trans counted)
  refine ⟨p, _, built, Accepted.above_zero ⟨_, built⟩ _ (by simp [channelDurations]), set, ?_⟩
  rw [silent, List.append_nil]
  exact told

end Connection

end VectorClient
