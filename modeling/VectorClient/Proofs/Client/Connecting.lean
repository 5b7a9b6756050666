/-
# VectorClient.Proofs.Client.Connecting — what making a client can end in

A client is open when it is made, whether its channel got ready or not, and what the
settings of a channel explain is a connection error (`Transport.Explained`).  Before
any of this the durations of the channel are counted in milliseconds, and that is
outside of what becomes a connection error: a duration whose thousandfold has no
finite double, an infinite one among them, is accepted by `Connection.blueprint`
and leaves as an arithmetic failure.

* `Double.isSome_milliseconds?_iff`: the durations that can be counted.
* `Connection.Accepted.endless_of_not_countable`: what the others are.
* `Connection.connect_opens_or_fails`: a client, a connection error, or that failure.
-/
import VectorClient.Client.Connect
import VectorClient.Client.Session
import VectorClient.Proofs.Param.Bounds

namespace VectorClient

set_option autoImplicit false

open Number

/-! ## Milliseconds -/

/-- Natural numbers of units are finite up to the middle after the last finite one. -/
theorem Number.BinaryFormat.nearest_lt_ranks_iff {f : BinaryFormat} (deep : f.Deep) (num : Nat) :
    f.nearest num 1 < f.ranks ↔ num < f.beyond * f.one := by
  obtain ⟨last, follows, even, middle⟩ := units_end deep
  rw [follows, f.nearest_lt_iff deep.2.1 _ Nat.one_pos (follows ▸ even), middle, Nat.mul_one,
    Nat.mul_lt_mul_left (by decide)]

namespace Number.Double

/-- The thousandfold of the double stays below the middle after the last finite one. -/
def Countable (d : Double) : Prop := d.units?.any (fun units => units * 1000 < overflow * one) = true

instance (d : Double) : Decidable d.Countable := inferInstanceAs (Decidable (_ = true))

theorem countable_finite_iff {negative : Bool} {rank : Fin BinaryFormat.double.ranks} :
    Countable (.finite negative rank) ↔ BinaryFormat.double.units rank * 1000 < overflow * one := by
  simp [Countable, Binary.units?]

/-- The product of a finite double is finite as long as it is below that middle. -/
theorem times_finite_iff (k : Nat) (negative : Bool) (rank : Fin BinaryFormat.double.ranks) :
    (∃ rank', times k (.finite negative rank) = .finite negative rank') ↔
      BinaryFormat.double.units rank * k < overflow * one := by
  rw [overflow, ← BinaryFormat.beyond_double, one,
    ← BinaryFormat.nearest_lt_ranks_iff BinaryFormat.deep_double, times, Binary.ofRatio]
  split
  · rename_i inside
    exact ⟨fun _ => inside, fun _ => ⟨_, rfl⟩⟩
  · rename_i outside
    refine iff_of_false ?_ outside
    rintro ⟨_, same⟩
    cases same

theorem isSome_milliseconds?_iff (d : Double) :
    (Connection.milliseconds? d).isSome = true ↔ d.Countable := by
  cases d with
  | nan | infinite negative => exact iff_of_false Bool.false_ne_true Bool.false_ne_true
  | finite negative rank =>
      rw [countable_finite_iff, ← times_finite_iff 1000 negative rank, Connection.milliseconds?,
        times, Binary.ofRatio]
      split
      · exact iff_of_true rfl ⟨_, rfl⟩
      · refine iff_of_false Bool.false_ne_true ?_
        rintro ⟨_, same⟩
        cases same

/-- The double is infinite, or its thousandfold is. -/
inductive Endless : Double → Prop where
  | infinite : Endless (.infinite false)
  | large {rank : Fin BinaryFormat.double.ranks}
      (reaches : overflow * one ≤ BinaryFormat.double.units rank * 1000) :
      Endless (.finite false rank)

/-- Above zero there are no others that cannot be counted. -/
theorem endless_of_not_countable {d : Double} (above : (Number.int 0).lt (.double d) = true)
    (endless : ¬ d.Countable) : d.Endless := by
  cases d with
  | nan => cases above
  | infinite negative =>
      cases negative with
      | true => cases above
      | false => exact .infinite
  | finite negative rank =>
      have reaches := Nat.not_lt.mp (mt countable_finite_iff.mpr endless)
      cases negative with
      | false => exact .large reaches
      | true =>
          have positive := (zero_lt_double_iff rfl).mp above
          simp only [if_true] at positive
          omega

end Number.Double

/-- A number of seconds is above zero. -/
theorem Codec.above_of_seconds {most : Option Int} {v : Value} {d : Double}
    (read : (seconds most).read v = .accepted d) : (Number.int 0).lt (.double d) = true :=
  (Bounds.fault?_eq_none_iff.mp (checked_eq_accepted_iff.mp read).2).2.2 0 rfl

namespace Connection

/-- The durations that the channel is given. -/
def channelDurations (p : Connection) : List Double :=
  p.keepAliveTimeout :: p.idleTimeout :: p.keepAliveTime.toList

theorem isSome_channelOptions?_iff (p : Connection) :
    p.channelOptions?.isSome = true ↔ ∀ d ∈ p.channelDurations, d.Countable := by
  simp only [channelDurations, List.forall_mem_cons, ← Double.isSome_milliseconds?_iff,
    Option.isSome_iff_exists, channelOptions?, Option.bind_eq_bind, Option.pure_def]
  cases milliseconds? p.keepAliveTimeout with
  | none => simp
  | some keepAliveTimeout =>
      cases milliseconds? p.idleTimeout with
      | none => simp
      | some idleTimeout =>
          cases p.keepAliveTime with
          | none => simp [Option.mapM_none]
          | some keepAliveTime =>
              simp only [Option.mapM_some, Option.toList, List.forall_mem_singleton]
              cases milliseconds? keepAliveTime <;> simp

/-- A connection that can have been built. -/
def Accepted (p : Connection) : Prop := ∃ kw, blueprint.build kw = .accepted p

/-- The durations of an accepted connection are above zero. -/
theorem Accepted.above_zero {p : Connection} (accepted : p.Accepted) :
    ∀ d ∈ p.channelDurations, (Number.int 0).lt (.double d) = true := by
  obtain ⟨kw, built⟩ := accepted
  obtain ⟨-, -, ⟨host, port, connectTimeout, keepAliveTime, keepAliveTimeout, withoutCalls,
    idleTimeout, rest⟩, read, packed⟩ := Blueprint.build_eq_accepted_iff.mp built
  obtain ⟨-, -, -, time, timeout, -, idle, -⟩ : _ ∧ _ ∧ _ ∧ _ ∧ _ ∧ _ ∧ _ ∧ _ := by
    simpa only [blueprint, Blueprint.plain, Fields.switch, Fields.read_cons_eq_accepted_iff]
      using read
  cases packed
  have seconds : ∀ v d, (Codec.seconds none).read v = .accepted d →
      (Number.int 0).lt (.double d) = true := fun v d read => Codec.above_of_seconds read
  simp only [channelDurations, List.forall_mem_cons]
  refine ⟨?_, ?_, ?_⟩
  · refine Fields.readField_ensures _ seconds (fun d same => ?_) timeout
    obtain rfl := Option.some.inj same
    exact Defaults.above_zero_keepAliveTimeout
  · refine Fields.readField_ensures _ seconds (fun d same => ?_) idle
    obtain rfl := Option.some.inj same
    exact Defaults.above_zero_idleTimeout
  · refine Fields.readField_ensures
      (fun time : Option Double => ∀ d ∈ time.toList, (Number.int 0).lt (.double d) = true)
      (fun v time read => ?_) (fun time same => ?_) time
    · simpa using Codec.forall_of_optional seconds read
    · obtain rfl := Option.some.inj same
      simp

/-- An accepted duration that cannot be counted is infinite, or its thousandfold is. -/
theorem Accepted.endless_of_not_countable {p : Connection} (accepted : p.Accepted) {d : Double}
    (member : d ∈ p.channelDurations) (endless : ¬ d.Countable) : d.Endless :=
  Double.endless_of_not_countable (accepted.above_zero d member) endless

end Connection

/-! ## Factories -/

/-- The failures of a factory that settings explain. -/
inductive FactoryFault.Explained : FactoryFault → Prop where
  | failed (e : RpcError) : Explained (.failed e)
  | refusal (message : String) : Explained (.raised (.refusal message))
  | wrongType (message : String) : Explained (.raised (.wrongType message))

namespace Transport

/-- Both factories succeed, or fail in such a way. -/
def Explained (t : Transport) : Prop :=
  ∀ fault, t.credentialsFault = some fault ∨ t.channelFault = some fault → fault.Explained

/-- The first failure of the factories that a connection asks. -/
def fault? (t : Transport) (p : Connection) : Option FactoryFault :=
  (if p.secure then t.credentialsFault else none).or t.channelFault

theorem Explained.of_fault? {t : Transport} (explained : t.Explained) {p : Connection}
    {fault : FactoryFault} (found : t.fault? p = some fault) : fault.Explained := by
  apply explained
  rcases Option.or_eq_some_iff.mp found with here | ⟨-, there⟩
  · split at here
    · exact .inl here
    · cases here
  · exact .inr there

end Transport

/-- The error is that of a connection. -/
def ConnectFault.IsConnectionError : ConnectFault → Prop
  | .unreachable _ _ => True
  | .settings _ _ => True
  | _ => False

theorem ConnectFault.isConnectionError_ofFactory (target : String) {fault : FactoryFault}
    (explained : fault.Explained) : (ofFactory target fault).IsConnectionError := by
  cases explained <;> trivial

namespace Connection

/-- The channel is there exactly if no factory that is asked fails. -/
theorem openChannel_of_options {p : Connection} {options : List (String × Value)}
    (set : p.channelOptions? = some options) (t : Transport) :
    (p.openChannel t).2 = match t.fault? p with
      | none => .ok ()
      | some fault => .error (.ofFactory p.target fault) := by
  simp only [openChannel, channelOptions, set, Transport.fault?]
  cases (if p.secure then t.credentialsFault else none) with
  | some fault => rfl
  | none => cases t.channelFault <;> rfl

section Connect

variable {σ τ : Type} [Timeline τ]

/-- A client is made exactly if its channel is there, and how it got ready is all that is in
its log. -/
theorem snd_connect (p : Connection) (t : Transport) (server : σ) :
    (p.connect t server : List ChannelRequest × Except ConnectFault (World σ τ)).2 =
      (p.openChannel t).2.map fun _ => (World.initial server).log
        (if t.ready then .connected p.target else .unreachable p.target p.connectTimeout) := by
  unfold connect
  split
  · rename_i opens
    rw [opens]
    rfl
  · rename_i opens
    rw [opens]
    cases t.ready <;> rfl

/-- **A client is open when it is made, and what keeps it from being made is a connection
error, but for the durations of its channel.**  Of these only an infinite one, or one whose
thousandfold is, keeps the client from being made by another error, before any factory
is asked. -/
theorem connect_opens_or_fails {p : Connection} (accepted : p.Accepted) {t : Transport}
    (explained : t.Explained) (server : σ) :
    let made : List ChannelRequest × Except ConnectFault (World σ τ) := p.connect t server
    ((∀ d ∈ p.channelDurations, d.Countable) →
      (t.fault? p = none → ∃ w, made.2 = .ok w ∧ Client.state w = .opened) ∧
      ∀ fault, t.fault? p = some fault →
        made.2 = .error (.ofFactory p.target fault) ∧
          (ConnectFault.ofFactory p.target fault).IsConnectionError) ∧
    ∀ d ∈ p.channelDurations, ¬ d.Countable →
      d.Endless ∧ made = ([], .error (.failure .endlessDuration)) := by
  intro made
  constructor
  · intro countable
    obtain ⟨options, set⟩ :=
      Option.isSome_iff_exists.mp ((isSome_channelOptions?_iff p).mpr countable)
    have settled : made.2 = _ := snd_connect p t server
    rw [openChannel_of_options set t] at settled
    constructor
    · intro faultless
      rw [faultless] at settled
      exact ⟨_, settled, rfl⟩
    · intro fault found
      rw [found] at settled
      refine ⟨settled, ?_⟩
      apply ConnectFault.isConnectionError_ofFactory
      exact explained.of_fault? found
  · intro d member endless
    have unset : p.channelOptions? = none := by
      rw [← Option.not_isSome_iff_eq_none, isSome_channelOptions?_iff]
      exact fun countable => endless (countable d member)
    refine ⟨accepted.endless_of_not_countable member endless, ?_⟩
    show p.connect t server = _
    simp only [connect, openChannel, channelOptions, unset]

end Connect

/-- What an evaluation of accepted keywords shows of the connection. -/
theorem exists_accepted (kw : Keywords) (P : Connection → Bool)
    (shown : (blueprint.build kw).accepted?.any P = true) :
    ∃ p, blueprint.build kw = .accepted p ∧ P p = true := by
  obtain ⟨p, accepted, holds⟩ := (Option.any_eq_true _ _).mp shown
  exact ⟨p, Verdict.accepted?_eq_some_iff.mp accepted, holds⟩

/-- All settings are standard, and the channel refuses one. -/
theorem connect_opens_or_fails_refused : ∃ p : Connection,
    blueprint.build [] = .accepted p ∧
      (p.connect ⟨none, some (.raised (.refusal "bad option")), true⟩ () :
        List ChannelRequest × Except ConnectFault (World Unit Number)).2 =
          .error (.settings p.target "bad option") := by
  obtain ⟨p, built, countable⟩ := exists_accepted []
    (fun p => !p.secure && p.channelDurations.all fun d => decide d.Countable) (by decide +kernel)
  simp only [Bool.and_eq_true, Bool.not_eq_true', List.all_eq_true, decide_eq_true_iff] at countable
  refine ⟨p, built, ?_⟩
  have explained : Transport.Explained ⟨none, some (.raised (.refusal "bad option")), true⟩ := by
    rintro fault (none | same)
    · cases none
    · cases same
      exact .refusal _
  refine (((connect_opens_or_fails ⟨_, built⟩ explained ()).1 countable.2).2
    (.raised (.refusal "bad option")) ?_).1
  simp [Transport.fault?]

/-- An endless time to wait for probes is accepted, and no client is made of it, nor is
what is raised a connection error. -/
theorem connect_endlessKeepAlive : ∃ p : Connection,
    blueprint.build [("keep_alive_timeout", .double (.infinite false))] = .accepted p ∧
      ∃ fault, (p.connect ⟨none, none, true⟩ () :
        List ChannelRequest × Except ConnectFault (World Unit Number)).2 = .error fault ∧
          ¬ fault.IsConnectionError := by
  obtain ⟨p, built, unset⟩ := exists_accepted
    [("keep_alive_timeout", .double (.infinite false))] (fun p => p.channelOptions?.isNone)
    (by decide +kernel)
  refine ⟨p, built, .failure .endlessDuration, ?_, id⟩
  simp only [connect, openChannel, channelOptions, Option.isNone_iff_eq_none.mp unset]

end Connection

end VectorClient
