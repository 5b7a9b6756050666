/-
# VectorClient.Proofs.Number.Order — rounding keeps the order

A ratio that is rounded to one rank lies at or above the middle between that rank and
every lower one, and at or below the middle between it and every higher one.  So two
ratios cannot change places (`BinaryFormat.nearest_le_nearest`), and a ratio at or above
a magnitude of the format is not rounded below it (`BinaryFormat.le_nearest`).
-/
import VectorClient.Proofs.Number.Exact

namespace VectorClient.Number.BinaryFormat

set_option autoImplicit false

variable (f : BinaryFormat)

/-- The larger of two ratios is not rounded to a lower rank. -/
theorem nearest_le_nearest (fraction : 0 < f.fractionBits) {den : Nat} (positive : 0 < den)
    {a b : Nat} (le : a ≤ b) : f.nearest a den ≤ f.nearest b den := by
  by_contra exchanged
  have lower : f.nearest b den < f.nearest a den := Nat.not_le.mp exchanged
  have apart : f.units (f.nearest b den) * den < f.units (f.nearest a den) * den :=
    Nat.mul_lt_mul_of_pos_right (f.units_strictMono lower) positive
  have first := f.isNearest_nearest fraction a positive (f.nearest b den) (by omega)
  have second := f.isNearest_nearest fraction b positive (f.nearest a den) (by omega)
  unfold gapOf gap at first second
  -- The first is not below the middle of the two magnitudes, the second not above it.
  obtain rfl : a = b := by omega
  exact Nat.lt_irrefl _ lower

/-- What reaches a magnitude is rounded to its rank or to a higher one. -/
theorem le_nearest (fraction : 0 < f.fractionBits) {rank num : Nat} (reaches : f.units rank ≤ num) :
    rank ≤ f.nearest num 1 := by
  calc rank = f.nearest (f.units rank) 1 := (f.nearest_units fraction rank).symm
    _ ≤ f.nearest num 1 := f.nearest_le_nearest fraction Nat.one_pos reaches

end VectorClient.Number.BinaryFormat
