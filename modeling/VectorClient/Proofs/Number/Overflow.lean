/-
# VectorClient.Proofs.Number.Overflow — where rounding leaves the finite numbers

Rounding stays below an even rank exactly as long as the ratio stays below the
middle between that rank and the one before (`nearest_lt_iff`): at the middle
itself the even one is taken.  The rank after the last finite one is even, so a
number becomes infinite from the middle after the last finite number on
(`nearest_one_lt_ranks_iff`).

* `Double.ofInt?_isSome_iff`: integers that have a finite double.
* `convert_single_eq_infinite_iff`: finite doubles that are infinite as four-byte numbers.
* `Double.units_nearest_lt_iff`: integers whose double is none of those.
-/
import VectorClient.Proofs.Number.Nearest
import Mathlib.Tactic.Ring

namespace VectorClient

set_option autoImplicit false

namespace Number

namespace BinaryFormat

variable (f : BinaryFormat)

/-- Rounding stays below an even rank as long as the ratio is below the middle between it
and the rank before. -/
theorem nearest_lt_iff (fraction : 0 < f.fractionBits) (num : Nat) {den : Nat}
    (positive : 0 < den) {rank : Nat} (even : (rank + 1) % 2 = 0) :
    f.nearest num den < rank + 1 ↔
      2 * num < (f.units rank + f.units (rank + 1)) * den := by
  have nearest := f.isNearest_nearest fraction num positive
  set found := f.nearest num den
  have step : f.units rank * den < f.units (rank + 1) * den :=
    Nat.mul_lt_mul_of_pos_right (f.units_lt_succ rank) positive
  rw [Nat.add_mul]
  constructor
  · intro below
    have least : f.units found * den ≤ f.units rank * den :=
      Nat.mul_le_mul_right den (f.units_strictMono.monotone (by omega))
    have further := nearest (rank + 1) (by omega)
    by_contra above
    unfold gapOf gap at further
    -- Only the rank before is as near, and it is odd.
    have same : f.units found * den = f.units rank * den := by omega
    have before : found = rank :=
      f.units_strictMono.injective (Nat.eq_of_mul_eq_mul_right positive same)
    omega
  · intro inside
    by_contra above
    have most : f.units (rank + 1) * den ≤ f.units found * den :=
      Nat.mul_le_mul_right den (f.units_strictMono.monotone (by omega))
    have further := nearest rank (by omega)
    unfold gapOf gap at further
    omega

theorem one_eq : f.one = 2 ^ f.unitExponent := rfl

theorem one_pos : 0 < f.one := Nat.two_pow_pos _

/-- The exponent goes further up than the fraction is wide. -/
def Deep : Prop := 2 ≤ f.exponentBits ∧ 0 < f.fractionBits ∧
  f.fractionBits + 2 ≤ 2 ^ (f.exponentBits - 1)

theorem deep_double : Deep .double := ⟨by decide, by decide, by decide⟩

theorem deep_single : Deep .single := ⟨by decide, by decide, by decide⟩

/-- The least number of ones that is too large for the format. -/
def beyond : Nat :=
  2 ^ 2 ^ (f.exponentBits - 1) - 2 ^ (2 ^ (f.exponentBits - 1) - 2 - f.fractionBits)

variable {f}

/-- The magnitudes on both sides of the end of the finite ranks. -/
theorem units_end (deep : f.Deep) : ∃ last, f.ranks = last + 1 ∧ f.ranks % 2 = 0 ∧
    f.units last + f.units (last + 1) = 2 * (f.beyond * f.one) := by
  obtain ⟨exponents, fraction, wide⟩ := deep
  -- The exponents of the two magnitudes and of one, from the room that is left.
  obtain ⟨room, half⟩ : ∃ room, 2 ^ (f.exponentBits - 1) = room + f.fractionBits + 2 :=
    ⟨2 ^ (f.exponentBits - 1) - f.fractionBits - 2, by omega⟩
  have full : 2 ^ f.exponentBits = 2 * (room + f.fractionBits + 2) := by
    rw [← half, ← Nat.pow_succ', Nat.succ_eq_add_one, Nat.sub_add_cancel (by omega)]
  have one : f.one = 2 ^ (room + f.fractionBits + f.fractionBits) := by
    change 2 ^ (2 ^ (f.exponentBits - 1) - 2 + f.fractionBits) = _
    rw [half]
    rfl
  have beyond : f.beyond = (4 * 2 ^ f.fractionBits - 1) * 2 ^ room := by
    have exponent : room + f.fractionBits + 2 - 2 - f.fractionBits = room := by omega
    have whole : 2 ^ (room + f.fractionBits + 2) = 4 * 2 ^ f.fractionBits * 2 ^ room := by
      ring
    rw [BinaryFormat.beyond, half, exponent, whole, Nat.sub_mul, Nat.one_mul]
  have ranks : f.ranks = (2 * (room + f.fractionBits) + 1 + 1 + 1) * 2 ^ f.fractionBits := by
    change (2 ^ f.exponentBits - 1) * 2 ^ f.fractionBits = _
    rw [full]
    rfl
  obtain ⟨rest, width⟩ : ∃ rest, 2 ^ f.fractionBits = rest + 1 :=
    ⟨2 ^ f.fractionBits - 1, (Nat.sub_add_cancel Nat.one_le_two_pow).symm⟩
  have even : 2 ^ f.fractionBits % 2 = 0 := by
    rw [← Nat.sub_add_cancel fraction, Nat.pow_succ, Nat.mul_mod_left]
  have lower := f.units_high (2 * (room + f.fractionBits) + 1) (show rest < _ by omega)
  have upper := f.units_high (2 * (room + f.fractionBits) + 1 + 1) (show 0 < _ by omega)
  rw [Nat.add_zero, ← ranks] at upper
  have follows : f.ranks =
      (2 * (room + f.fractionBits) + 1 + 1) * 2 ^ f.fractionBits + rest + 1 := by
    rw [ranks, Nat.succ_mul, width, Nat.add_assoc]
  refine ⟨_, follows, ?_, ?_⟩
  · rw [ranks, Nat.mul_mod, even, Nat.mul_zero, Nat.zero_mod]
  · rw [← follows, lower, upper, beyond, one, width]
    have significand : 4 * (rest + 1) - 1 = 4 * rest + 3 := by omega
    rw [significand]
    ring

/-- **A number is finite up to the middle after the last finite one.** -/
theorem nearest_one_lt_ranks_iff (deep : f.Deep) (num : Nat) {den : Nat} (positive : 0 < den) :
    f.nearest (num * f.one) den < f.ranks ↔ num < f.beyond * den := by
  obtain ⟨last, end_, even, middle⟩ := units_end deep
  rw [end_, f.nearest_lt_iff deep.2.1 _ positive (end_ ▸ even), middle, Nat.mul_assoc,
    Nat.mul_lt_mul_left (by decide), Nat.mul_right_comm, Nat.mul_lt_mul_right f.one_pos]

theorem beyond_double : BinaryFormat.double.beyond = 2 ^ 1024 - 2 ^ 970 := by
  have half : 2 ^ (BinaryFormat.double.exponentBits - 1) = 1024 := by decide
  have width : BinaryFormat.double.fractionBits = 52 := rfl
  rw [beyond, half, width]

theorem beyond_single : BinaryFormat.single.beyond = 2 ^ 128 - 2 ^ 103 := by
  have half : 2 ^ (BinaryFormat.single.exponentBits - 1) = 128 := by decide
  have width : BinaryFormat.single.fractionBits = 23 := rfl
  rw [beyond, half, width]

end BinaryFormat

namespace Double

theorem one_pos : 0 < one := BinaryFormat.one_pos .double

/-- The middle after the last finite double: integers from here on have none. -/
def overflow : Nat := 2 ^ 1024 - 2 ^ 970

/-- An integer has a finite double up to the middle after the last one. -/
theorem ofInt?_isSome_iff (n : Int) : (ofInt? n).isSome = true ↔ n.natAbs < overflow := by
  have finite := BinaryFormat.nearest_one_lt_ranks_iff BinaryFormat.deep_double n.natAbs
    Nat.one_pos
  rw [BinaryFormat.beyond_double, ← overflow, Nat.mul_one] at finite
  rw [← finite, ofInt?, ofInt, ofFraction, Binary.ofRatio]
  split
  · rename_i inside
    exact ⟨fun _ => inside, fun _ => rfl⟩
  · rename_i outside
    exact ⟨nofun, fun inside => absurd inside outside⟩

/-- The double of an integer has the nearest rank. -/
theorem exists_of_ofInt? {n : Int} {d : Double} (rounded : ofInt? n = some d) :
    ∃ rank : Fin BinaryFormat.double.ranks, d = .finite (n < 0) rank ∧
      rank.val = BinaryFormat.double.nearest (n.natAbs * one) 1 := by
  rw [ofInt?, ofInt, ofFraction, Binary.ofRatio] at rounded
  split at rounded
  · rename_i inside
    exact ⟨⟨_, inside⟩, (Option.some.inj rounded).symm, rfl⟩
  · cases rounded

/-- The middle after the last finite four-byte number. -/
def singleOverflow : Nat := 2 ^ 128 - 2 ^ 103

theorem singleOverflow_lt_overflow : singleOverflow < overflow := by
  -- With the exponents left open, so that no power of this size is computed.
  have apart : ∀ {wide half spacing : Nat}, wide = half + 1 → 128 ≤ half → spacing ≤ half →
      2 ^ 128 - 2 ^ 103 < 2 ^ wide - 2 ^ spacing := by
    rintro _ half spacing rfl more less
    have growing : ∀ {m n : Nat}, m ≤ n → 2 ^ m ≤ 2 ^ n := Nat.pow_le_pow_right Nat.two_pos
    have single := growing more
    have gap := growing less
    rw [Nat.two_pow_succ]
    omega
  exact @apart 1024 1023 970 rfl (by decide) (by decide)

/-- A finite double is infinite as a four-byte number from the middle after the last one on. -/
theorem convert_single_eq_infinite_iff (negative : Bool) (rank : Fin BinaryFormat.double.ranks) :
    (∃ sign, Binary.convert .single (.finite negative rank) = .infinite sign) ↔
      singleOverflow * one ≤ BinaryFormat.double.units rank := by
  have finite := BinaryFormat.nearest_one_lt_ranks_iff BinaryFormat.deep_single
    (BinaryFormat.double.units rank) one_pos
  rw [BinaryFormat.beyond_single, ← singleOverflow] at finite
  rw [← Nat.not_lt, ← finite, Binary.convert, Binary.ofRatio]
  split
  · rename_i inside
    exact ⟨nofun, fun outside => absurd inside outside⟩
  · rename_i outside
    exact ⟨fun _ => outside, fun _ => ⟨negative, rfl⟩⟩

/-- The double of an integer is none of those up to the middle before the first of them. -/
theorem units_nearest_lt_iff (magnitude : Nat) :
    BinaryFormat.double.units (BinaryFormat.double.nearest (magnitude * one) 1) <
        singleOverflow * one ↔
      magnitude < singleOverflow - 2 ^ 74 := by
  have width : BinaryFormat.double.fractionBits = 52 := rfl
  set binade := 75 + BinaryFormat.double.unitExponent with binade_eq
  have spacing : 2 ^ binade = 2 ^ 75 * one := by
    rw [one, BinaryFormat.one_eq, ← Nat.pow_add]
  have spaced : ∀ fraction, fraction < 2 ^ 52 →
      BinaryFormat.double.units ((binade + 1) * 2 ^ 52 + fraction) =
        (2 ^ 52 + fraction) * 2 ^ 75 * one := by
    intro fraction below
    have high := BinaryFormat.double.units_high binade (width ▸ below)
    rwa [width, spacing, ← Nat.mul_assoc] at high
  -- The first of them, and the double before it: their significands are next to each other.
  have before := spaced (2 ^ 52 - 2 ^ 28 - 1) (by decide)
  have first := spaced (2 ^ 52 - 2 ^ 28 - 1 + 1) (by decide)
  rw [← Nat.add_assoc] at first
  set rank := (binade + 1) * 2 ^ 52 + (2 ^ 52 - 2 ^ 28 - 1) with rank_eq
  have here : singleOverflow * one = BinaryFormat.double.units (rank + 1) := by
    rw [first]
    congr 1
  rw [here, BinaryFormat.double.units_strictMono.lt_iff_lt,
    BinaryFormat.double.nearest_lt_iff (by decide) _ Nat.one_pos (by omega), before, first,
    ← Nat.add_mul, Nat.mul_one, ← Nat.mul_assoc, Nat.mul_lt_mul_right one_pos, singleOverflow]
  omega

end Double

end Number

end VectorClient
