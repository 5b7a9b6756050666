/-
# VectorClient.Proofs.Number.Bits — a floating-point number and its bits

A bit pattern is a sign and a rank, infinity comes right after the last finite
rank, and not-a-number lies past it; so `Binary.ofBits` reads back every number
from its pattern (`ofBits_bits`), and off the wire from its bytes
(`readFloat?_floatBytes`).
-/
import VectorClient.Number.Double
import VectorClient.Proofs.Wire.Numbers

namespace VectorClient

set_option autoImplicit false

namespace Number

namespace BinaryFormat

/-- The format has a fraction, and its numbers fill whole bytes. -/
def FillsBytes (f : BinaryFormat) : Prop :=
  0 < f.fractionBits ∧ 8 * f.width = 1 + f.exponentBits + f.fractionBits

theorem fillsBytes_single : FillsBytes .single := ⟨by decide, by decide⟩

theorem fillsBytes_double : FillsBytes .double := ⟨by decide, by decide⟩

/-- The finite ranks leave room for one more exponent below the sign. -/
theorem ranks_add (f : BinaryFormat) :
    f.ranks + 2 ^ f.fractionBits = 2 ^ (f.exponentBits + f.fractionBits) := by
  have positive : 1 ≤ 2 ^ f.exponentBits := Nat.one_le_two_pow
  rw [Nat.pow_add, ranks]
  calc (2 ^ f.exponentBits - 1) * 2 ^ f.fractionBits + 2 ^ f.fractionBits
      = (2 ^ f.exponentBits - 1 + 1) * 2 ^ f.fractionBits := by rw [Nat.add_mul, Nat.one_mul]
    _ = 2 ^ f.exponentBits * 2 ^ f.fractionBits := by rw [Nat.sub_add_cancel positive]

theorem ranks_lt (f : BinaryFormat) : f.ranks < 2 ^ (f.exponentBits + f.fractionBits) := by
  have sum := f.ranks_add
  have positive : 0 < 2 ^ f.fractionBits := Nat.two_pow_pos _
  omega

/-- Not-a-number lies strictly between infinity and the sign. -/
theorem quiet_lt (f : BinaryFormat) (fraction : 0 < f.fractionBits) :
    f.ranks + 2 ^ (f.fractionBits - 1) < 2 ^ (f.exponentBits + f.fractionBits) := by
  have sum := f.ranks_add
  have half : 2 ^ (f.fractionBits - 1) < 2 ^ f.fractionBits :=
    Nat.pow_lt_pow_right (by decide) (by omega)
  omega

end BinaryFormat

namespace Binary

variable {f : BinaryFormat}

/-- A pattern is read by its sign and by its part below the sign. -/
theorem ofBits_eq {pattern rank : Nat} {negative : Bool}
    (below : pattern % 2 ^ (f.exponentBits + f.fractionBits) = rank)
    (sign : decide (2 ^ (f.exponentBits + f.fractionBits) ≤ pattern) = negative) :
    ofBits f pattern =
      if h : rank < f.ranks then .finite negative ⟨rank, h⟩
      else if rank = f.ranks then .infinite negative else .nan := by
  subst below sign
  rfl

theorem ofBits_sign_add (negative : Bool) {rank : Nat}
    (below : rank < 2 ^ (f.exponentBits + f.fractionBits)) :
    ofBits f (bits.sign (f := f) negative + rank) =
      if h : rank < f.ranks then .finite negative ⟨rank, h⟩
      else if rank = f.ranks then .infinite negative else .nan := by
  cases negative with
  | false =>
      have pattern : bits.sign (f := f) false + rank = rank := Nat.zero_add rank
      rw [pattern]
      exact ofBits_eq (Nat.mod_eq_of_lt below) (by simpa using below)
  | true =>
      have pattern : bits.sign (f := f) true + rank =
          2 ^ (f.exponentBits + f.fractionBits) + rank := rfl
      rw [pattern]
      refine ofBits_eq ?_ (by simp)
      rw [Nat.add_mod_left, Nat.mod_eq_of_lt below]

/-- Every number is read back from its bits. -/
theorem ofBits_bits (fraction : 0 < f.fractionBits) (x : Binary f) : ofBits f x.bits = x := by
  have past := f.ranks_lt
  cases x with
  | nan =>
      have quiet := f.quiet_lt fraction
      have positive : 0 < 2 ^ (f.fractionBits - 1) := Nat.two_pow_pos _
      have pattern : (nan : Binary f).bits =
          bits.sign (f := f) false + (f.ranks + 2 ^ (f.fractionBits - 1)) := (Nat.zero_add _).symm
      rw [pattern, ofBits_sign_add false quiet, dif_neg (by omega), if_neg (by omega)]
  | infinite negative =>
      change ofBits f (bits.sign (f := f) negative + f.ranks) = _
      rw [ofBits_sign_add negative past, dif_neg (Nat.lt_irrefl _), if_pos rfl]
  | finite negative rank =>
      have low : rank.val < 2 ^ (f.exponentBits + f.fractionBits) := Nat.lt_trans rank.isLt past
      change ofBits f (bits.sign (f := f) negative + rank.val) = _
      rw [ofBits_sign_add negative low, dif_pos rank.isLt]

/-- Bits fill the sign and the two fields. -/
theorem bits_lt (fraction : 0 < f.fractionBits) (x : Binary f) :
    x.bits < 2 ^ (1 + f.exponentBits + f.fractionBits) := by
  have double : 2 ^ (1 + f.exponentBits + f.fractionBits) =
      2 * 2 ^ (f.exponentBits + f.fractionBits) := by
    rw [Nat.add_assoc, Nat.pow_add, Nat.pow_one]
  have signs : ∀ negative : Bool,
      bits.sign (f := f) negative ≤ 2 ^ (f.exponentBits + f.fractionBits) := by
    rintro (_ | _)
    · exact Nat.zero_le _
    · exact Nat.le_refl _
  have past := f.ranks_lt
  rw [double]
  cases x with
  | nan =>
      have quiet := f.quiet_lt fraction
      change f.ranks + 2 ^ (f.fractionBits - 1) < _
      omega
  | infinite negative =>
      have sign := signs negative
      change bits.sign (f := f) negative + f.ranks < _
      omega
  | finite negative rank =>
      have sign := signs negative
      have low := rank.isLt
      change bits.sign (f := f) negative + rank.val < _
      omega

end Binary

end Number

namespace Wire

open Number

/-- The floating-point number at the front, and the bytes behind it. -/
def readFloat? (f : BinaryFormat) (bytes : List UInt8) : Option (Binary f × List UInt8) :=
  (readFixed? f.width bytes).map fun (n, rest) => (.ofBits f n, rest)

theorem readFloat?_floatBytes {f : BinaryFormat} (fills : f.FillsBytes) (x : Binary f)
    (rest : List UInt8) : readFloat? f (floatBytes x ++ rest) = some (x, rest) := by
  have bound : x.bits < 256 ^ f.width := by
    rw [show 256 = 2 ^ 8 from rfl, ← Nat.pow_mul, fills.2]
    exact x.bits_lt fills.1
  have read := readFixed?_littleEndian bound rest
  simp only [readFloat?, floatBytes, read, Option.map_some, Binary.ofBits_bits fills.1]

/-- Numbers written one after the other are read back. -/
theorem readFloats_flatten {f : BinaryFormat} (fills : f.FillsBytes) (xs : List (Binary f)) :
    readAll? (readFloat? f) (xs.map floatBytes).flatten = some xs := by
  have width : 0 < f.width := by
    have := fills.2
    omega
  rw [← List.flatMap_def]
  refine readAll?_flatMap (fun x _ rest => readFloat?_floatBytes fills x rest) fun x _ => ?_
  exact List.length_pos_iff.mp (by simpa [floatBytes] using width)

end Wire

end VectorClient
