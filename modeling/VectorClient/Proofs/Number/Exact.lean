/-
# VectorClient.Proofs.Number.Exact — doubles that stand for their integers

A magnitude that a format has is rounded to itself (`BinaryFormat.nearest_units`), so
an integer that is the value of a double is rounded to that double.  Zero is left
out: it is the value of two doubles.

* `Number.toDouble?_of_same`: two numbers of one value above zero have one double.
-/
import VectorClient.Proofs.Number.Overflow
import VectorClient.Proofs.Param.Bounds

namespace VectorClient.Number

set_option autoImplicit false

namespace BinaryFormat

variable (f : BinaryFormat)

/-- The nearest rank to a magnitude is its own. -/
theorem nearest_units (fraction : 0 < f.fractionBits) (rank : Nat) :
    f.nearest (f.units rank) 1 = rank := by
  by_contra other
  have here : f.gapOf (f.units rank) 1 rank = 0 := by
    simp [gapOf, gap]
  rcases f.isNearest_nearest fraction (f.units rank) Nat.one_pos rank (Ne.symm other) with
    nearer | ⟨same, -⟩
  · rw [here] at nearer
    exact Nat.not_lt_zero _ nearer
  · rw [here] at same
    have units : f.units (f.nearest (f.units rank) 1) = f.units rank := by
      simp only [gapOf, gap, Nat.mul_one] at same
      omega
    exact other (f.units_strictMono.injective units)

end BinaryFormat

namespace Double

/-- A positive number of units is the magnitude of a double with a plus sign. -/
theorem eq_finite_of_signedUnits? {d : Double} {units : Int} (finite : d.signedUnits? = some units)
    (positive : 0 < units) :
    ∃ rank : Fin BinaryFormat.double.ranks, d = .finite false rank ∧
      (BinaryFormat.double.units rank : Int) = units := by
  cases d with
  | nan | infinite negative => cases finite
  | finite negative rank =>
      have value := Option.some.inj finite
      cases negative with
      | false => exact ⟨rank, rfl, value⟩
      | true =>
          simp only [if_true] at value
          omega

/-- Doubles with one value above zero are one double. -/
theorem eq_of_signedUnits? {d e : Double} {units : Int} (first : d.signedUnits? = some units)
    (second : e.signedUnits? = some units) (positive : 0 < units) : d = e := by
  obtain ⟨rank, rfl, value⟩ := eq_finite_of_signedUnits? first positive
  obtain ⟨rank', rfl, value'⟩ := eq_finite_of_signedUnits? second positive
  have same : rank.val = rank'.val :=
    BinaryFormat.double.units_strictMono.injective (Int.ofNat.inj (value.trans value'.symm))
  rw [Fin.ext same]

/-- An integer above zero that is the value of a double is rounded to it. -/
theorem ofInt?_of_signedUnits? {d : Double} {n : Int} (exact : d.signedUnits? = some (n * one))
    (positive : 0 < n) : ofInt? n = some d := by
  have one_pos : (0 : Int) < one := Int.ofNat_lt.mpr one_pos
  obtain ⟨rank, rfl, value⟩ := eq_finite_of_signedUnits? exact (Int.mul_pos positive one_pos)
  have magnitude : n.natAbs * one = BinaryFormat.double.units rank := by
    apply Int.ofNat.inj
    show ((n.natAbs * one : Nat) : Int) = BinaryFormat.double.units rank
    rw [value, Int.natCast_mul, Int.natAbs_of_nonneg (Int.le_of_lt positive)]
  have nearest : BinaryFormat.double.nearest (n.natAbs * one) 1 = rank := by
    rw [magnitude, BinaryFormat.nearest_units _ (by decide)]
  have plus : decide (n < 0) = false := decide_eq_false (by omega)
  rw [ofInt?, ofInt, ofFraction, Binary.ofRatio, plus]
  simp only [nearest]
  rw [dif_pos rank.isLt]
  rfl

end Double

/-! ## Numbers of either kind -/

variable {m n : Number} {d : Double}

theorem same_comm (m n : Number) : m.same n = n.same m := by
  unfold Number.same
  cases m.place? <;> cases n.place? <;> simp [Bool.beq_comm]

theorem place?_of_same (same : m.same n = true) : ∃ p, m.place? = some p ∧ n.place? = some p := by
  unfold Number.same at same
  cases first : m.place? with
  | none => simp [first] at same
  | some p =>
      cases second : n.place? with
      | none => simp [first, second] at same
      | some q =>
          simp only [first, second, beq_iff_eq] at same
          exact ⟨p, rfl, by rw [same]⟩

/-- The place of a double above zero is a positive number of units, or the top. -/
theorem place?_of_zero_lt (positive : (Number.int 0).lt (.double d) = true) :
    (∃ units, d.signedUnits? = some units ∧ 0 < units ∧
        (Number.double d).place? = some (.finite units)) ∨
      d = .infinite false ∧ (Number.double d).place? = some .top := by
  cases d with
  | nan => cases positive
  | infinite negative =>
      cases negative with
      | true => cases positive
      | false => exact .inr ⟨rfl, rfl⟩
  | finite negative rank =>
      exact .inl ⟨_, rfl, (Double.zero_lt_double_iff rfl).mp positive, rfl⟩

/-- A number at the place of a double above zero is rounded to that double. -/
theorem toDouble?_of_place? (positive : (Number.int 0).lt (.double d) = true)
    (here : n.place? = (Number.double d).place?) : n.toDouble? = some d := by
  rcases place?_of_zero_lt positive with ⟨units, finite, above, place⟩ | ⟨rfl, place⟩
  · rw [place] at here
    cases n with
    | int n =>
        obtain rfl : n * Double.one = units := Place.finite.inj (Option.some.inj here)
        have one_pos : (0 : Int) < Double.one := Int.ofNat_lt.mpr Double.one_pos
        exact Double.ofInt?_of_signedUnits? finite (Int.pos_of_mul_pos_left above one_pos)
    | double e =>
        have finite' : e.signedUnits? = some units := by
          cases e with
          | nan => cases here
          | infinite negative => cases negative <;> cases here
          | finite negative rank =>
              exact congrArg some (Place.finite.inj (Option.some.inj here))
        exact congrArg some (Double.eq_of_signedUnits? finite' finite above)
  · rw [place] at here
    cases n with
    | int n => cases here
    | double e =>
        cases e with
        | nan => cases here
        | infinite negative =>
            cases negative with
            | true => cases here
            | false => rfl
        | finite negative rank => cases here

/-- An integer that is rounded to a double above zero is above zero. -/
theorem pos_of_ofInt? {n : Int} (rounded : Double.ofInt? n = some d)
    (positive : (Number.int 0).lt (.double d) = true) : 0 < n := by
  obtain ⟨rank, rfl, nearest⟩ := Double.exists_of_ofInt? rounded
  have above := (Double.zero_lt_double_iff rfl).mp positive
  by_contra negative
  rcases Int.lt_or_eq_of_le (Int.not_lt.mp negative) with below | rfl
  · rw [decide_eq_true below, if_pos rfl] at above
    omega
  · have zero : BinaryFormat.double.units 0 = 0 := BinaryFormat.units_low _ (Nat.two_pow_pos _)
    rw [Int.natAbs_zero, Nat.zero_mul, ← zero, BinaryFormat.nearest_units _ (by decide)] at nearest
    rw [nearest, zero] at above
    exact absurd above (by decide)

/-- Numbers of one value are rounded to one double, if that is above zero. -/
theorem toDouble?_of_same (same : m.same n = true) (rounded : m.toDouble? = some d)
    (positive : (Number.int 0).lt (.double d) = true) : n.toDouble? = some d := by
  obtain ⟨p, first, second⟩ := place?_of_same same
  cases m with
  | double e =>
      cases rounded
      exact toDouble?_of_place? positive (second.trans first.symm)
  | int m =>
      cases n with
      | int n =>
          have one_pos : (0 : Int) < Double.one := Int.ofNat_lt.mpr Double.one_pos
          have places : m * Double.one = n * Double.one :=
            Place.finite.inj (Option.some.inj (first.trans second.symm))
          rwa [← Int.eq_of_mul_eq_mul_right (Int.ne_of_gt one_pos) places]
      | double e =>
          have above : (Number.int 0).lt (.double e) = true := by
            rw [lt, second, ← first]
            exact int_lt_int_iff.mpr (pos_of_ofInt? rounded positive)
          have rounded' := toDouble?_of_place? above (first.trans second.symm)
          exact rounded'.symm.trans rounded

end VectorClient.Number
