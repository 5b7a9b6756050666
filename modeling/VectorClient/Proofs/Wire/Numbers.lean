/-
# VectorClient.Proofs.Wire.Numbers — reading numbers off the wire

A reader takes an element off the front of some bytes and says what is left.
Here are the readers for the two ways in which a number is written, and how one
reads element after element until nothing is left; each with the lemma that it
reads back what was written.

* `readVarint?`: groups of seven bits.
* `readFixed?`: a fixed number of bytes, the lowest first.
* `readAll?`: elements one after the other (`readAll?_flatMap`).
* `signed`: a signed integer by its 64-bit complement.
* `slices`: a long list cut into pieces of one length, which gives back rows that
  were laid end to end (`slices_flatten`).
-/
import VectorClient.Column.Basic
import VectorClient.Wire.Record
import Mathlib.Algebra.Group.Nat.Defs
import Mathlib.Data.List.Forall2

namespace VectorClient.Wire

set_option autoImplicit false

/-! ## Groups of seven bits -/

/-- The number at the front, and the bytes behind it. -/
def readVarint? : List UInt8 → Option (Nat × List UInt8)
  | [] => none
  | b :: rest =>
      if b.toNat < 128 then some (b.toNat, rest)
      else (readVarint? rest).map fun (n, rest) => (b.toNat - 128 + 128 * n, rest)

@[simp]
theorem readVarint?_varint (n : Nat) (rest : List UInt8) :
    readVarint? (varint n ++ rest) = some (n, rest) := by
  induction n using varint.induct with
  | case1 n small =>
      have exact : (UInt8.ofNat n).toNat = n := by simp; omega
      rw [varint, if_pos small]
      simp [readVarint?, exact, small]
  | case2 n large ih =>
      have marked : (UInt8.ofNat (n % 128 + 128)).toNat = n % 128 + 128 := by simp; omega
      have grouped : n % 128 + 128 * (n / 128) = n := Nat.mod_add_div n 128
      have high : ¬ n % 128 + 128 < 128 := by omega
      rw [varint, if_neg large, List.cons_append, readVarint?, marked, if_neg high, ih]
      simp [grouped]

/-! ## Bytes of fixed number -/

/-- The number whose bytes these are, the lowest first. -/
def ofLittleEndian : List UInt8 → Nat
  | [] => 0
  | b :: rest => b.toNat + 256 * ofLittleEndian rest

theorem ofLittleEndian_littleEndian {count n : Nat} (bound : n < 256 ^ count) :
    ofLittleEndian (littleEndian count n) = n := by
  induction count generalizing n with
  | zero =>
      obtain rfl : n = 0 := by simpa using bound
      rfl
  | succ count ih =>
      have higher : n / 256 < 256 ^ count := by
        rw [Nat.pow_succ] at bound
        omega
      have split : n % 256 + 256 * (n / 256) = n := Nat.mod_add_div n 256
      rw [littleEndian, ofLittleEndian, ih higher]
      simpa using split

/-- The number in the given number of bytes at the front, and the bytes behind it. -/
def readFixed? (count : Nat) (bytes : List UInt8) : Option (Nat × List UInt8) :=
  if count ≤ bytes.length then some (ofLittleEndian (bytes.take count), bytes.drop count)
  else none

theorem readFixed?_littleEndian {count n : Nat} (bound : n < 256 ^ count) (rest : List UInt8) :
    readFixed? count (littleEndian count n ++ rest) = some (n, rest) := by
  have front : (littleEndian count n ++ rest).take count = littleEndian count n :=
    List.take_left' (length_littleEndian count n)
  have back : (littleEndian count n ++ rest).drop count = rest :=
    List.drop_left' (length_littleEndian count n)
  rw [readFixed?, front, back, ofLittleEndian_littleEndian bound]
  simp

/-! ## One element after the other -/

section ReadAll

variable {α : Type}

/-- All elements up to the end.  A reader that takes no byte reads nothing. -/
def readAll? (read? : List UInt8 → Option (α × List UInt8)) (bytes : List UInt8) :
    Option (List α) :=
  if bytes.isEmpty then some []
  else match read? bytes with
    | none => none
    | some (a, rest) =>
        if rest.length < bytes.length then (readAll? read? rest).map (a :: ·) else none
termination_by bytes.length

/-- A reader of one written element reads all of them. -/
theorem readAll?_flatMap {read? : List UInt8 → Option (α × List UInt8)}
    {write : α → List UInt8} :
    ∀ {as : List α}, (∀ a ∈ as, ∀ rest, read? (write a ++ rest) = some (a, rest)) →
      (∀ a ∈ as, write a ≠ []) → readAll? read? (as.flatMap write) = some as
  | [], _, _ => by
      rw [readAll?]
      rfl
  | a :: as, reads, nonempty => by
      have here := reads a (by simp) (as.flatMap write)
      have later : readAll? read? (as.flatMap write) = some as :=
        readAll?_flatMap (fun a member => reads a (by simp [member]))
          fun a member => nonempty a (by simp [member])
      have more : (write a ++ as.flatMap write).isEmpty = false := by
        simp [nonempty a (by simp)]
      have shorter : (as.flatMap write).length < (write a ++ as.flatMap write).length := by
        have := List.length_pos_iff.mpr (nonempty a (by simp))
        simp only [List.length_append]
        omega
      rw [List.flatMap_cons, readAll?, more, here]
      simp only [Bool.false_eq_true, if_false, shorter, if_true, later, Option.map_some]

end ReadAll

/-! ## Complements -/

/-- The integer in the low bits of a 64-bit complement. -/
def signed (bits n : Nat) : Int := Int.bmod n (2 ^ bits)

theorem signed_complement_bits64 {n : Int} (fits : IntWidth.bits64.Fits n) :
    signed 64 (complement n) = n := by
  obtain ⟨least, most⟩ := fits
  simp only [IntWidth.limit] at least most
  simp only [signed, complement, Int.bmod]
  omega

/-- An integer of at most 32 bits is read off the low 32 bits of its complement. -/
theorem signed_complement_bits32 {n : Int} (fits : IntWidth.bits32.Fits n) :
    signed 32 (complement n) = n := by
  obtain ⟨least, most⟩ := fits
  simp only [IntWidth.limit] at least most
  simp only [signed, complement, Int.bmod]
  omega

/-! ## Slices -/

section Slices

variable {α : Type}

/-- A list cut into pieces of the given length, the last one perhaps shorter.  Pieces
without length are none. -/
def slices (length : Nat) (xs : List α) : List (List α) :=
  if length = 0 ∨ xs.isEmpty then []
  else xs.take length :: slices length (xs.drop length)
termination_by xs.length
decreasing_by
  rename_i more
  have : xs ≠ [] := by simpa using (not_or.mp more).2
  have := List.length_pos_iff.mpr this
  simp only [List.length_drop]
  omega

/-- Lists that agree element by element are cut into pieces that do. -/
theorem forall₂_slices {β : Type} {R : α → β → Prop} (length : Nat) {xs : List α} :
    ∀ {ys : List β}, List.Forall₂ R xs ys →
      List.Forall₂ (List.Forall₂ R) (slices length xs) (slices length ys) := by
  induction xs using slices.induct length with
  | case1 xs none =>
      intro ys along
      have same : xs.isEmpty = ys.isEmpty := by cases along <;> rfl
      rw [slices.eq_def length xs, slices.eq_def length ys, ← same, if_pos none, if_pos none]
      exact .nil
  | case2 xs more ih =>
      intro ys along
      have same : xs.isEmpty = ys.isEmpty := by cases along <;> rfl
      rw [slices.eq_def length xs, slices.eq_def length ys, ← same, if_neg more, if_neg more]
      exact .cons (List.forall₂_take length along) (ih (List.forall₂_drop length along))

/-- Rows of one length that were laid end to end are cut apart again. -/
theorem slices_flatten {length : Nat} (positive : 0 < length) :
    ∀ {rows : List (List α)}, (∀ row ∈ rows, row.length = length) →
      slices length rows.flatten = rows
  | [], _ => by
      rw [slices]
      simp
  | row :: rows, uniform => by
      have here : row.length = length := uniform row (by simp)
      have later : slices length rows.flatten = rows :=
        slices_flatten positive fun row member => uniform row (by simp [member])
      have more : ¬ (length = 0 ∨ (row ++ rows.flatten).isEmpty) := by
        have : row ≠ [] := List.length_pos_iff.mp (by omega)
        simp [this]
        omega
      rw [List.flatten_cons, slices, if_neg more, List.take_left' here, List.drop_left' here, later]

end Slices

end VectorClient.Wire
