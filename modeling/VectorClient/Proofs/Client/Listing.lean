/-
# VectorClient.Proofs.Client.Listing — what a client can ask for

Every call of every session is one that some operation of it can make: its own, the
flush it makes first, or a look of a round (`Operation.Makes`).  What holds of
those holds of all calls, so a law about requests is proved once for each way of
writing one, without a word about servers, clocks or closings.

* `perform_makes`, `session_makes`: the step, and the run.
* `Call.listing?`: a listing read off the wire; `Operation.Makes.lists`: each asks for
  what is in memory exactly if it names something.
* `requests_tell_and_list`: requests tell their parameters apart, and listings tell their types.
-/
import VectorClient.Proofs.Client.Issuing
import VectorClient.Proofs.Client.Returning
import VectorClient.Proofs.Request.Unique

namespace VectorClient

set_option autoImplicit false

open World Wire Message

/-! ## The calls that operations can make -/

/-- A call that an operation can make for a parameter, whatever the server answers. -/
inductive Operation.Makes : (o : Operation) → o.Param → Call → Prop
  | own {o : Operation} {p : o.Param} {m : Message} (written : o.request p = .ok m) :
      Makes o p ⟨o, m⟩
  | look {o : Operation} {p : o.Param} {call : Call} (r : Response)
      (member : call ∈ o.round p r) : Makes o p call
  | before {o : Operation} {p : o.Param} {f : Flush} {call : Call} (first : o.flush? p = some f)
      (makes : Makes .flush f call) : Makes o p call

/-- One call after the other was made, and an operation can make each. -/
def Operation.MakesAll (o : Operation) (p : o.Param) (calls : List Call) : Prop :=
  ∀ call ∈ calls, o.Makes p call

namespace Client

variable {σ τ : Type}

theorem Looks.makes {c : Client σ τ} {o : Operation} {p : o.Param} {m : Message}
    {w : World σ τ} {looks : List Call} (after : c.Looks o p m w looks) : o.MakesAll p looks := by
  intro call member
  cases after with
  | none => cases member
  | rounds waits answered faultless along fixed sole =>
      obtain ⟨round, repeated, inside⟩ := List.mem_flatten.mp (along.subset member)
      obtain rfl := List.eq_of_mem_replicate repeated
      exact .look _ inside

variable [Timeline τ]

theorem Shape.makes {c : Client σ τ} {fuel : Nat} {o : Operation} {p : o.Param} {m : Message}
    (written : o.request p = .ok m) {w : World σ τ} {calls : List Call}
    (shape : c.Shape fuel o p m w calls) : o.MakesAll p calls := by
  have flushing : ∀ {f : Flush} {looks : List Call}, o.flush? p = some f →
      c.Looks .flush f f.request w looks → o.MakesAll p (⟨.flush, f.request⟩ :: looks) := by
    intro f looks first after call member
    rcases List.mem_cons.mp member with rfl | member
    · exact .before first (.own rfl)
    · exact .before first (after.makes call member)
  intro call member
  cases shape with
  | closed gone => cases member
  | own opened direct after =>
      rcases List.mem_cons.mp member with rfl | member
      · exact .own written
      · exact after.makes call member
  | flushed opened first after issued went stays =>
      rw [← List.cons_append, List.mem_append, List.mem_singleton] at member
      rcases member with member | rfl
      · exact flushing first after call member
      · exact .own written
  | unflushed opened first after issued failed => exact flushing first after call member

variable (c : Client σ τ)

/-- An operation makes calls that it can make, and no others. -/
theorem perform_makes (fuel : Nat) (o : Operation) (p : o.Param) (w : World σ τ) :
    ∃ calls, Issued w (c.perform fuel o p w).2 calls ∧ o.MakesAll p calls := by
  cases written : o.request p with
  | error fault =>
      rw [c.perform_of_unwritten written]
      exact ⟨[], .of_eq rfl, nofun⟩
  | ok m =>
      cases opened : w.closed with
      | true => exact ⟨[], c.issued_of_closed fuel o p opened, nofun⟩
      | false =>
          cases first : o.flush? p with
          | some f =>
              obtain ⟨calls, issued, shape⟩ := c.perform_issues_flushed fuel written first opened
              exact ⟨calls, issued, shape.makes written⟩
          | none =>
              obtain ⟨looks, issued, after⟩ := c.perform_issues_own written opened fuel first
              have shape : c.Shape fuel o p m w (⟨o, m⟩ :: looks) := .own opened first after
              exact ⟨_, issued, shape.makes written⟩

/-- Every call of a session is one that an operation of it can make. -/
theorem session_makes (fuel : Nat) :
    ∀ (steps : List SessionStep) (w : World σ τ), ∃ calls,
      Issued w (c.session fuel steps w).2 calls ∧
        ∀ call ∈ calls, ∃ o p, .perform o p ∈ steps ∧ o.Makes p call
  | [], _ => ⟨[], .of_eq rfl, nofun⟩
  | s :: rest, w => by
      have stepped : ∃ calls, Issued w (c.step fuel s w).2 calls ∧
          ∀ call ∈ calls, ∃ o p, s = .perform o p ∧ o.Makes p call := by
        cases s with
        | close | leaveBlock => exact ⟨[], .of_eq (calls_closeIf c true w), nofun⟩
        | enterBlock | askState => exact ⟨[], .of_eq rfl, nofun⟩
        | perform o p =>
            obtain ⟨calls, issued, makes⟩ := c.perform_makes fuel o p w
            exact ⟨calls, issued, fun call member => ⟨o, p, rfl, makes call member⟩⟩
      obtain ⟨calls, issued, made⟩ := stepped
      obtain ⟨later, issued', made'⟩ := session_makes fuel rest (c.step fuel s w).2
      refine ⟨calls ++ later, issued.trans issued', ?_⟩
      intro call member
      rcases List.mem_append.mp member with member | member
      · obtain ⟨o, p, rfl, makes⟩ := made call member
        exact ⟨o, p, by simp, makes⟩
      · obtain ⟨o, p, among, makes⟩ := made' call member
        exact ⟨o, p, by simp [among], makes⟩

end Client

/-! ## Listings -/

/-- The number of a listing's type, and the names that it asks for, as they stand on the
wire.  Other calls list nothing. -/
def Call.listing? (call : Call) : Option (Nat × List String) :=
  (decode? call.request.encode).bind fun m =>
    match call.operation with
    | .showCollections => (m.textsOf? 5).map fun names => (m.numberOf 4, names)
    | .showPartitions => (m.textsOf? 5).map fun names => (m.numberOf 6, names)
    | _ => none

/-- If the call is a listing, it asks for what is in memory exactly if it names something. -/
def Call.Lists (call : Call) : Prop :=
  call.operation = .showCollections ∨ call.operation = .showPartitions →
    ∃ type names, call.listing? = some (type, names) ∧
      (type = ShowType.inMemory.number ↔ names ≠ [])

theorem ShowType.number_ofNames_iff (names : List String) :
    (ofNames names).number = ShowType.inMemory.number ↔ names ≠ [] := by
  cases names <;> simp [ofNames, ShowType.number]

theorem Request.listing?_collectionListing (type : ShowType) (names : List String) :
    Call.listing? ⟨.showCollections, collectionListing type names⟩ = some (type.number, names) := by
  have number : (collectionListing type names).numberOf 4 = type.number :=
    numberOf_eq (by simp [collectionListing])
  have named : (collectionListing type names).textsOf? 5 = some names :=
    textsOf?_eq (by simp [collectionListing])
  simp only [Call.listing?, decode?_encode, number, named, Option.bind_some, Option.map_some]

theorem Request.listing?_partitionListing (type : ShowType) (collection : String)
    (names : List String) :
    Call.listing? ⟨.showPartitions, partitionListing type collection names⟩ =
      some (type.number, names) := by
  have number : (partitionListing type collection names).numberOf 6 = type.number :=
    numberOf_eq (by simp [partitionListing])
  have named : (partitionListing type collection names).textsOf? 5 = some names :=
    textsOf?_eq (by simp [partitionListing])
  simp only [Call.listing?, decode?_encode, number, named, Option.bind_some, Option.map_some]

theorem CollectionSet.lists (p : CollectionSet) :
    Call.Lists ⟨.showCollections, p.listingRequest⟩ := fun _ =>
  ⟨_, _, Request.listing?_collectionListing _ _, ShowType.number_ofNames_iff p.collections⟩

theorem PartitionSet.lists (p : PartitionSet) :
    Call.Lists ⟨.showPartitions, p.listingRequest⟩ := fun _ =>
  ⟨_, _, Request.listing?_partitionListing _ _ _, ShowType.number_ofNames_iff p.partitions⟩

/-! ## Looks at a load -/

/-- A field that needs a name is accepted with one. -/
theorem Codec.ne_nil_of_names {v : Value} {names : List String}
    (read : (Codec.names 1).read v = .accepted names) : names ≠ [] := by
  simp only [Codec.names, many] at read
  split at read
  · cases read
  · rename_i items row
    obtain ⟨items_read, counted⟩ := Verdict.alsoRefuse_eq_accepted_iff.mp read
    cases items with
    | nil => cases counted
    | cons item items =>
        obtain ⟨name, rest, -, -, rfl⟩ := Verdict.both_eq_accepted_iff.mp items_read
        exact List.cons_ne_nil name rest

theorem PartitionLoad.partitions_ne_nil_of_build {title : String} {kw : Keywords}
    {p : PartitionLoad} (built : (blueprint title).build kw = .accepted p) : p.partitions ≠ [] := by
  obtain ⟨-, -, ⟨collection, partitions, raw⟩, read, packed⟩ :=
    Blueprint.build_eq_accepted_iff.mp built
  obtain ⟨-, read⟩ := Fields.read_cons_eq_accepted_iff.mp read
  obtain ⟨partitions, -⟩ := Fields.read_cons_eq_accepted_iff.mp read
  cases packed
  refine Fields.readField_ensures (· ≠ []) (fun _ _ => Codec.ne_nil_of_names) ?_ partitions
  intro names given
  cases given

/-- A load of partitions names some. -/
def Operation.Named : (o : Operation) → o.Param → Prop
  | .loadPartitions, p => PartitionLoad.partitions p ≠ []
  | _, _ => True

theorem Operation.named_of_build {o : Operation} {p : o.Param} {kw : Keywords}
    (built : o.blueprint.build kw = .accepted p) : o.Named p := by
  cases o with
  | loadPartitions => exact PartitionLoad.partitions_ne_nil_of_build built
  | _ => trivial

/-- A look at a load that names something asks for what is in memory. -/
theorem Operation.listed_of_look {o : Operation} {p : o.Param} (named : o.Named p) {r : Response}
    {call : Call} (member : call ∈ o.round p r) {type : Nat} {names : List String}
    (listing : call.listing? = some (type, names)) :
    type = ShowType.inMemory.number ∧ names ≠ [] := by
  cases o with
  | loadCollection =>
      obtain rfl := List.mem_singleton.mp member
      cases listing.symm.trans (Request.listing?_collectionListing _ _)
      exact ⟨rfl, List.cons_ne_nil _ _⟩
  | loadPartitions =>
      obtain rfl := List.mem_singleton.mp member
      cases listing.symm.trans (Request.listing?_partitionListing _ _ _)
      exact ⟨rfl, named⟩
  | createIndex =>
      obtain rfl := List.mem_singleton.mp member
      simp [Call.listing?] at listing
  | flush =>
      obtain ⟨target, -, rfl⟩ := List.mem_map.mp member
      simp [Call.listing?] at listing
  | _ => cases member

/-- Every listing that an operation can make asks for what is in memory exactly if it names
something. -/
theorem Operation.Makes.lists {o : Operation} {p : o.Param} {call : Call}
    (makes : o.Makes p call) (named : o.Named p) : call.Lists := by
  induction makes with
  | @own o p m written =>
      cases o with
      | showCollections =>
          cases written
          exact CollectionSet.lists p
      | showPartitions =>
          cases written
          exact PartitionSet.lists p
      | _ => rintro (listing | listing) <;> cases listing
  | @look o p call r member =>
      cases o with
      | loadCollection =>
          obtain rfl := List.mem_singleton.mp member
          exact fun _ => ⟨_, _, Request.listing?_collectionListing _ _, by simp⟩
      | loadPartitions =>
          obtain rfl := List.mem_singleton.mp member
          exact fun _ => ⟨_, _, Request.listing?_partitionListing _ _ _, iff_of_true rfl named⟩
      | createIndex =>
          obtain rfl := List.mem_singleton.mp member
          rintro (listing | listing) <;> cases listing
      | flush =>
          obtain ⟨target, -, rfl⟩ := List.mem_map.mp member
          rintro (listing | listing) <;> cases listing
      | _ => cases member
  | before first makes ih => exact ih trivial

/-! ## All requests -/

/-- **A request tells everything of its parameter but its pace, and a listing its type by its
names**: parameters that an operation writes as the same bytes differ at most in how they
wait and whether a flush comes first; of all that is ever asked for with accepted parameters,
the listings that name something are those of what is in memory, and the looks at a load are
among them. -/
theorem requests_tell_and_list :
    (∀ (o : Operation) (p q : o.Param) (m m' : Message),
      o ∉ [.createCollection, .insert, .search, .calcDistance] →
        o.request p = .ok m → o.request q = .ok m' → m.encode = m'.encode →
          ∃ pacing flushes, q = o.repaced pacing flushes p) ∧
    (∀ {σ τ : Type} [Timeline τ] (c : Client σ τ) (fuel : Nat) (steps : List SessionStep)
      (w : World σ τ), callsIn w.trace = [] →
        (∀ o p, .perform o p ∈ steps → ∃ kw, o.blueprint.build kw = .accepted p) →
          ∀ call ∈ callsIn (c.session fuel steps w).2.trace, call.Lists) ∧
    ∀ (o : Operation) (p : o.Param) (kw : Keywords) (r : Response),
      o.blueprint.build kw = .accepted p → ∀ call ∈ o.round p r, ∀ type names,
        call.listing? = some (type, names) → type = ShowType.inMemory.number ∧ names ≠ [] := by
  refine ⟨?_, ?_, ?_⟩
  · intro o p q m m' plain written written' same
    exact Operation.exists_repaced_of_encode_eq plain written written' same
  · intro σ τ _ c fuel steps w new accepted call member
    obtain ⟨calls, issued, makes⟩ := c.session_makes fuel steps w
    rw [issued, new, List.append_nil, List.mem_reverse] at member
    obtain ⟨o, p, among, made⟩ := makes call member
    obtain ⟨kw, built⟩ := accepted o p among
    exact made.lists (Operation.named_of_build built)
  · intro o p kw r built call member type names listing
    exact Operation.listed_of_look (Operation.named_of_build built) member listing

/-- A load that does not wait, beside one that would. -/
def CollectionLoad.hasty : CollectionLoad := ⟨"c", false, .ofInt 1, .ofInt 9⟩

/-- Two listings, one of everything and one of what is named. -/
def SessionStep.twoListings : List SessionStep :=
  [.perform .showCollections (CollectionSet.mk []),
    .perform .showPartitions (PartitionSet.mk "c" ["p"])]

theorem SessionStep.accepted_twoListings (o : Operation) (p : o.Param)
    (among : .perform o p ∈ twoListings) : ∃ kw, o.blueprint.build kw = .accepted p := by
  simp only [twoListings, List.mem_cons, List.not_mem_nil, or_false] at among
  rcases among with same | same
  · cases same
    exact ⟨[], rfl⟩
  · cases same
    exact ⟨[("collection_name", .text "c"), ("partition_names", .list [.text "p"])], rfl⟩

theorem requests_tell_and_list_twoListings :
    (∃ pacing flushes, Client.unreportedLoad =
      Operation.loadCollection.repaced pacing flushes CollectionLoad.hasty) ∧
    (∀ call ∈ callsIn (Client.twiceReporting.session 1 SessionStep.twoListings
      (World.initial ())).2.trace, call.Lists) ∧
    ∃ call ∈ Operation.loadCollection.round Client.unreportedLoad ⟨"Status", []⟩,
      call.listing? = some (ShowType.inMemory.number, ["c"]) := by
  obtain ⟨tell, list, look⟩ := requests_tell_and_list
  have built : Operation.loadCollection.blueprint.build _ = .accepted Client.unreportedLoad :=
    Client.build_unreportedLoad
  have listed := Request.listing?_collectionListing .inMemory ["c"]
  refine ⟨?_, ?_, _, List.mem_singleton_self _, ?_⟩
  · exact tell .loadCollection CollectionLoad.hasty Client.unreportedLoad _ _ (by decide) rfl rfl
      rfl
  · exact list Client.twiceReporting 1 SessionStep.twoListings (World.initial ()) rfl
      SessionStep.accepted_twoListings
  · have type := (look .loadCollection Client.unreportedLoad _ ⟨"Status", []⟩ built _
      (List.mem_singleton_self _) _ _ listed).1
    exact type ▸ listed

end VectorClient
