/-
# VectorClient.Proofs.Request.Pairs — pairs of texts, written and read

A pair that is written over one of the same key takes its place.  So keys that are
distinct stay so, the pairs of all other keys are what and where they were, and
of the key itself there is exactly the pair that was written.

* `nodup_keys_insert`, `nodup_keys_ofList`: keys are distinct.
* `ofList_of_nodup`: pairs of distinct keys are written as they are.
* `filter_ne_insert`, `filter_eq_insert`: the other pairs, and the one that was written.
* `readPair?_pair`: pairs are read back off the wire.
-/
import VectorClient.Proofs.Wire.Messages
import VectorClient.Request.Pairs
import Mathlib.Data.List.Nodup

namespace VectorClient

set_option autoImplicit false

open Wire

namespace Text.Pairs

variable {pairs : Pairs} {key value : String}

/-- The keys, in order. -/
def keys (pairs : Pairs) : List String := pairs.map Prod.fst

theorem any_key_iff : (pairs.any fun e => e.1 == key) = true ↔ key ∈ keys pairs := by
  simp [keys]

/-- Writing a pair leaves all keys in their places; a new one comes last. -/
theorem keys_insert (pairs : Pairs) (key value : String) :
    keys (insert pairs key value) =
      if key ∈ keys pairs then keys pairs else keys pairs ++ [key] := by
  unfold insert
  simp only [any_key_iff]
  split
  · rw [keys, List.map_map]
    refine List.map_congr_left fun e _ => ?_
    by_cases same : e.1 = key
    · simp [same]
    · simp [same]
  · simp [keys]

theorem nodup_keys_insert (distinct : (keys pairs).Nodup) (key value : String) :
    (keys (insert pairs key value)).Nodup := by
  rw [keys_insert]
  split
  · exact distinct
  · rename_i new
    rw [List.nodup_append]
    refine ⟨distinct, List.nodup_singleton key, ?_⟩
    rintro k member k' singleton rfl
    exact new (List.mem_singleton.mp singleton ▸ member)

/-- Pairs that are written one after the other have distinct keys. -/
theorem nodup_keys_ofList (entries : List (String × String)) : (keys (ofList entries)).Nodup := by
  suffices all : ∀ (entries : List (String × String)) (pairs : Pairs), (keys pairs).Nodup →
      (keys (entries.foldl (fun done e => insert done e.1 e.2) pairs)).Nodup from
    all entries [] List.nodup_nil
  intro entries
  induction entries with
  | nil => exact fun pairs distinct => distinct
  | cons e rest ih => exact fun pairs distinct => ih _ (nodup_keys_insert distinct e.1 e.2)

/-- Pairs of distinct keys stay what they are. -/
theorem ofList_of_nodup {entries : List (String × String)} (distinct : (keys entries).Nodup) :
    ofList entries = entries := by
  suffices all : ∀ (rest done : Pairs), (keys (done ++ rest)).Nodup →
      rest.foldl (fun done e => insert done e.1 e.2) done = done ++ rest from
    all entries [] distinct
  intro rest
  induction rest with
  | nil => exact fun done _ => (List.append_nil done).symm
  | cons e rest ih =>
      intro done distinct
      have new : ¬ (done.any fun d => d.1 == e.1) = true := by
        rw [any_key_iff]
        intro member
        rw [keys, List.map_append, List.map_cons, List.nodup_append] at distinct
        exact distinct.2.2 e.1 member e.1 List.mem_cons_self rfl
      have written : insert done e.1 e.2 = done ++ [e] := if_neg new
      rw [List.append_cons] at distinct
      rw [List.foldl_cons, written, ih _ distinct, ← List.append_cons]

/-- The pairs of all other keys are what and where they were. -/
theorem filter_ne_insert (pairs : Pairs) (key value : String) :
    (insert pairs key value).filter (fun e => e.1 != key) =
      pairs.filter fun e => e.1 != key := by
  unfold insert
  split
  · have kept : ∀ e : String × String,
        ((if e.1 == key then (key, value) else e).1 != key) = (e.1 != key) := by
      intro e
      by_cases same : e.1 = key
      · simp [same]
      · simp [same]
    rw [List.filter_map]
    simp only [Function.comp_def, kept]
    refine (List.map_congr_left fun e member => ?_).trans (List.map_id _)
    have other : e.1 ≠ key := by simpa using (List.mem_filter.mp member).2
    simp [other]
  · simp

theorem mem_insert_self (pairs : Pairs) (key value : String) :
    (key, value) ∈ insert pairs key value := by
  unfold insert
  split
  · rename_i known
    obtain ⟨e, member, same⟩ := List.any_eq_true.mp known
    exact List.mem_map.mpr ⟨e, member, if_pos same⟩
  · simp

/-- Of distinct keys, each has one pair. -/
theorem filter_eq_of_mem (distinct : (keys pairs).Nodup) (member : (key, value) ∈ pairs) :
    pairs.filter (fun e => e.1 == key) = [(key, value)] := by
  induction pairs with
  | nil => cases member
  | cons e rest ih =>
      obtain ⟨new, later⟩ := List.nodup_cons.mp distinct
      rcases List.mem_cons.mp member with rfl | member
      · have others : rest.filter (fun e => e.1 == key) = [] := by
          rw [List.filter_eq_nil_iff]
          intro e there same
          exact new (List.mem_map.mpr ⟨e, there, beq_iff_eq.mp same⟩)
        rw [List.filter_cons_of_pos (by simp), others]
      · have other : e.1 ≠ key := fun same =>
          new (List.mem_map.mpr ⟨_, member, same.symm⟩)
        rw [List.filter_cons_of_neg (by simpa using other), ih later member]

/-- Of the key itself there is the pair that was written, and no other. -/
theorem filter_eq_insert (distinct : (keys pairs).Nodup) (key value : String) :
    (insert pairs key value).filter (fun e => e.1 == key) = [(key, value)] :=
  filter_eq_of_mem (nodup_keys_insert distinct key value) (mem_insert_self pairs key value)

end Text.Pairs

/-! ## On the wire -/

/-- A pair of texts. -/
def readPair? (m : Message) : Option (String × String) :=
  (m.textOf? 1).bind fun key => (m.textOf? 2).map fun value => (key, value)

/-- Pairs of texts are read back. -/
theorem readPair?_pair (e : String × String) : readPair? (Request.pair e) = some e := by
  have key : (Request.pair e).textOf? 1 = some e.1 := Message.textOf?_eq (by simp [Request.pair])
  have value : (Request.pair e).textOf? 2 = some e.2 := Message.textOf?_eq (by simp [Request.pair])
  rw [readPair?, key, value]
  rfl

end VectorClient
