/-
# VectorClient.Proofs.Number.Nearest — rounding finds the nearest number

What `BinaryFormat.nearest` computes by shifting is the nearest of all ranks: every
other rank is farther from the ratio, or as far away while the one found is even
(`BinaryFormat.isNearest_nearest`).  Within the binade of the ratio the magnitudes
are the multiples of one power of two, so there `roundHalfEven` decides; the
magnitudes of lower binades stay below the least multiple that counts.

* `Binary.IsRounded`: a number is the rounding of a signed ratio.
* `Number.RoundsToDouble`, `Number.RoundsToSingle`: the two roundings of requests.
-/
import VectorClient.Number.Basic
import Mathlib.Algebra.Group.Nat.Defs
import Mathlib.Order.Monotone.Basic
import Mathlib.Tactic.Set

namespace VectorClient

set_option autoImplicit false

namespace Number

/-! ## Multiples -/

/-- How far two natural numbers are apart. -/
def gap (m n : Nat) : Nat := (m - n) + (n - m)

/-- The rounded quotient is the quotient if the rest is at most a half, or the next number
if it is at least a half; of the two it is the even one at a half. -/
theorem roundHalfEven_cases (num den : Nat) :
    roundHalfEven num den = num / den ∧ 2 * (num % den) ≤ den ∧
        (2 * (num % den) = den → num / den % 2 = 0) ∨
      roundHalfEven num den = num / den + 1 ∧ den ≤ 2 * (num % den) ∧
        (2 * (num % den) = den → (num / den + 1) % 2 = 0) := by
  unfold roundHalfEven
  dsimp only
  split
  · omega
  · split
    · omega
    · rcases Nat.mod_two_eq_zero_or_one (num / den) with even | odd
      · omega
      · omega

/-- Beside the quotient and the next number, a multiple is away by the divisor. -/
theorem mul_cases (num den k : Nat) :
    k * den + den ≤ num / den * den ∨ k = num / den ∨ k = num / den + 1 ∨
      num / den * den + 2 * den ≤ k * den := by
  rcases Nat.lt_trichotomy k (num / den) with below | same | above
  · left
    calc k * den + den = (k + 1) * den := (Nat.succ_mul k den).symm
      _ ≤ num / den * den := Nat.mul_le_mul_right den below
  · exact .inr (.inl same)
  · by_cases next : k = num / den + 1
    · exact .inr (.inr (.inl next))
    · refine .inr (.inr (.inr ?_))
      calc num / den * den + 2 * den = (num / den + 2) * den := (Nat.add_mul _ _ _).symm
        _ ≤ k * den := Nat.mul_le_mul_right den (by omega)

/-- No multiple is nearer than that of the rounded quotient, which is even if another one
is as near. -/
theorem gap_roundHalfEven {den : Nat} (positive : 0 < den) (num : Nat) {k : Nat}
    (other : k ≠ roundHalfEven num den) :
    gap (roundHalfEven num den * den) num < gap (k * den) num ∨
      gap (roundHalfEven num den * den) num = gap (k * den) num ∧
        roundHalfEven num den % 2 = 0 := by
  have split := Nat.div_add_mod' num den
  have rest := Nat.mod_lt num positive
  have next : (num / den + 1) * den = num / den * den + den := Nat.succ_mul _ _
  unfold gap
  rcases roundHalfEven_cases num den with ⟨chosen, half, even⟩ | ⟨chosen, half, even⟩
  · rw [chosen] at other ⊢
    rcases mul_cases num den k with below | rfl | rfl | above
    · omega
    · exact absurd rfl other
    · omega
    · omega
  · rw [chosen] at other ⊢
    rcases mul_cases num den k with below | rfl | rfl | above
    · omega
    · omega
    · exact absurd rfl other
    · omega

namespace BinaryFormat

variable (f : BinaryFormat)

/-! ## Magnitudes -/

/-- In the first binade the magnitude is the rank. -/
theorem units_low {fraction : Nat} (below : fraction < 2 ^ f.fractionBits) :
    f.units fraction = fraction := by
  have exponent : fraction / Nat.pow 2 f.fractionBits = 0 := Nat.div_eq_of_lt below
  rw [units, exponent, if_pos rfl]
  exact Nat.mod_eq_of_lt below

/-- In every further binade the magnitudes are spaced twice as wide. -/
theorem units_high (exponent : Nat) {fraction : Nat} (below : fraction < 2 ^ f.fractionBits) :
    f.units ((exponent + 1) * 2 ^ f.fractionBits + fraction) =
      (2 ^ f.fractionBits + fraction) * 2 ^ exponent := by
  have positive : 0 < 2 ^ f.fractionBits := Nat.two_pow_pos _
  have quotient : ((exponent + 1) * 2 ^ f.fractionBits + fraction) / Nat.pow 2 f.fractionBits =
      exponent + 1 := by
    change _ / 2 ^ f.fractionBits = _
    rw [Nat.mul_comm (exponent + 1), Nat.mul_add_div positive, Nat.div_eq_of_lt below,
      Nat.add_zero]
  have rest : ((exponent + 1) * 2 ^ f.fractionBits + fraction) % Nat.pow 2 f.fractionBits =
      fraction := by
    change _ % 2 ^ f.fractionBits = _
    rw [Nat.mul_add_mod', Nat.mod_eq_of_lt below]
  rw [units, quotient, rest, if_neg (Nat.succ_ne_zero _)]
  rfl

/-- A rank is in the first binade or in a further one. -/
theorem rank_cases (rank : Nat) :
    rank < 2 ^ f.fractionBits ∨ ∃ exponent fraction, fraction < 2 ^ f.fractionBits ∧
      rank = (exponent + 1) * 2 ^ f.fractionBits + fraction := by
  have positive : 0 < 2 ^ f.fractionBits := Nat.two_pow_pos _
  have split := Nat.div_add_mod' rank (2 ^ f.fractionBits)
  have below := Nat.mod_lt rank positive
  cases binade : rank / 2 ^ f.fractionBits with
  | zero => exact .inl (by simpa using (Nat.div_eq_zero_iff_lt positive).mp binade)
  | succ exponent =>
      rw [binade] at split
      exact .inr ⟨exponent, rank % 2 ^ f.fractionBits, below, split.symm⟩

/-- Magnitudes increase from rank to rank. -/
theorem units_lt_succ (rank : Nat) : f.units rank < f.units (rank + 1) := by
  have positive : 0 < 2 ^ f.fractionBits := Nat.two_pow_pos _
  rcases f.rank_cases rank with low | ⟨exponent, fraction, below, rfl⟩
  · rw [f.units_low low]
    by_cases last : rank + 1 = 2 ^ f.fractionBits
    · have first := f.units_high 0 positive
      rw [Nat.zero_add, Nat.one_mul, Nat.add_zero, Nat.pow_zero, Nat.mul_one] at first
      rw [last, first]
      exact low
    · rw [f.units_low (by omega)]
      exact Nat.lt_succ_self rank
  · rw [f.units_high exponent below]
    by_cases last : fraction + 1 = 2 ^ f.fractionBits
    · have next : (exponent + 1) * 2 ^ f.fractionBits + fraction + 1 =
          (exponent + 1 + 1) * 2 ^ f.fractionBits + 0 := by
        rw [Nat.add_mul (exponent + 1) 1]
        omega
      rw [next, f.units_high (exponent + 1) positive, Nat.pow_succ]
      have wider : 2 ^ f.fractionBits + fraction < 2 ^ f.fractionBits * 2 := by omega
      calc (2 ^ f.fractionBits + fraction) * 2 ^ exponent
          < 2 ^ f.fractionBits * 2 * 2 ^ exponent :=
            Nat.mul_lt_mul_of_pos_right wider (Nat.two_pow_pos _)
        _ = (2 ^ f.fractionBits + 0) * (2 ^ exponent * 2) := by
            rw [Nat.add_zero, Nat.mul_assoc, Nat.mul_comm 2]
    · rw [Nat.add_assoc, f.units_high exponent (by omega)]
      exact Nat.mul_lt_mul_of_pos_right (by omega) (Nat.two_pow_pos _)

theorem units_strictMono : StrictMono f.units := strictMono_nat_of_lt_succ f.units_lt_succ

/-- From some binade on all magnitudes are multiples of its spacing, and below it they are
less than its first one. -/
theorem units_multiple_or_lt (shift rank : Nat) :
    (∃ k, f.units rank = k * 2 ^ shift) ∨
      0 < shift ∧ f.units rank < 2 ^ f.fractionBits * 2 ^ shift := by
  rcases f.rank_cases rank with low | ⟨exponent, fraction, below, rfl⟩
  · rw [f.units_low low]
    cases shift with
    | zero => exact .inl ⟨rank, by rw [Nat.pow_zero, Nat.mul_one]⟩
    | succ shift =>
        refine .inr ⟨Nat.succ_pos _, Nat.lt_of_lt_of_le low ?_⟩
        exact Nat.le_mul_of_pos_right _ (Nat.two_pow_pos _)
  · rw [f.units_high exponent below]
    by_cases wide : shift ≤ exponent
    · refine .inl ⟨(2 ^ f.fractionBits + fraction) * 2 ^ (exponent - shift), ?_⟩
      rw [Nat.mul_assoc, ← Nat.pow_add, Nat.sub_add_cancel wide]
    · have twice : 2 * 2 ^ exponent ≤ 2 ^ shift := by
        rw [← Nat.pow_succ']
        exact Nat.pow_le_pow_right (by decide) (by omega)
      refine .inr ⟨by omega, ?_⟩
      calc (2 ^ f.fractionBits + fraction) * 2 ^ exponent
          < (2 ^ f.fractionBits * 2) * 2 ^ exponent :=
            Nat.mul_lt_mul_of_pos_right (by omega) (Nat.two_pow_pos _)
        _ = 2 ^ f.fractionBits * (2 * 2 ^ exponent) := Nat.mul_assoc _ _ _
        _ ≤ 2 ^ f.fractionBits * 2 ^ shift := Nat.mul_le_mul_left _ twice

/-! ## The nearest rank -/

/-- How far the magnitude of a rank is from `num / den` units, in parts of `den`. -/
def gapOf (num den rank : Nat) : Nat := gap (f.units rank * den) num

/-- A rank is nearest if every other one is farther away, or as far away while this one
is even. -/
def IsNearest (num den rank : Nat) : Prop :=
  ∀ other, other ≠ rank → f.gapOf num den rank < f.gapOf num den other ∨
    f.gapOf num den rank = f.gapOf num den other ∧ rank % 2 = 0

/-- The binade of a ratio, as `nearest` takes it: its quotient fills the significand, and
only in the first binade it may fall short. -/
theorem significand_bounds (num den : Nat) :
    let shift := (num / den).log2 - f.fractionBits
    num / (den * 2 ^ shift) < 2 * 2 ^ f.fractionBits ∧
      (0 < shift → 2 ^ f.fractionBits ≤ num / (den * 2 ^ shift)) := by
  intro shift
  have log := Nat.lt_log2_self (n := num / den)
  rw [← Nat.div_div_eq_div_mul]
  constructor
  · rw [Nat.div_lt_iff_lt_mul (Nat.two_pow_pos _), ← Nat.pow_succ', ← Nat.pow_add]
    refine Nat.lt_of_lt_of_le log (Nat.pow_le_pow_right (by decide) ?_)
    omega
  · intro shifted
    have full : num / den ≠ 0 := by
      intro zero
      rw [show shift = (num / den).log2 - f.fractionBits from rfl, zero] at shifted
      simp at shifted
    rw [Nat.le_div_iff_mul_le (Nat.two_pow_pos _), ← Nat.pow_add]
    refine Nat.le_trans (Nat.pow_le_pow_right (by decide) ?_) (Nat.log2_self_le full)
    omega

/-- A significand with its binade is the rank of its multiple of the spacing. -/
theorem units_significand {shift significand : Nat} (most : significand ≤ 2 * 2 ^ f.fractionBits)
    (least : 0 < shift → 2 ^ f.fractionBits ≤ significand) :
    f.units (shift * 2 ^ f.fractionBits + significand) = significand * 2 ^ shift := by
  have positive : 0 < 2 ^ f.fractionBits := Nat.two_pow_pos _
  rcases Nat.lt_or_ge significand (2 ^ f.fractionBits) with low | high
  · obtain rfl : shift = 0 := by omega
    rw [Nat.zero_mul, Nat.zero_add, f.units_low low, Nat.pow_zero, Nat.mul_one]
  · obtain ⟨fraction, rfl⟩ := Nat.exists_eq_add_of_le high
    have regroup : shift * 2 ^ f.fractionBits + (2 ^ f.fractionBits + fraction) =
        (shift + 1) * 2 ^ f.fractionBits + fraction := by
      rw [Nat.succ_mul, Nat.add_assoc]
    rcases Nat.lt_or_eq_of_le (show fraction ≤ 2 ^ f.fractionBits by omega) with below | rfl
    · rw [regroup, f.units_high shift below]
    · have carry : shift * 2 ^ f.fractionBits + (2 ^ f.fractionBits + 2 ^ f.fractionBits) =
          (shift + 1 + 1) * 2 ^ f.fractionBits + 0 := by
        rw [Nat.succ_mul, Nat.succ_mul, Nat.add_zero, Nat.add_assoc]
      rw [carry, f.units_high (shift + 1) positive, Nat.add_zero, Nat.pow_succ, ← Nat.two_mul]
      rw [Nat.mul_comm (2 ^ shift), ← Nat.mul_assoc, Nat.mul_comm 2]

/-- **Rounding finds the nearest rank**, the even one of two. -/
theorem isNearest_nearest (fraction : 0 < f.fractionBits) (num : Nat) {den : Nat}
    (positive : 0 < den) : f.IsNearest num den (f.nearest num den) := by
  set shift := (num / den).log2 - f.fractionBits with shift_eq
  set significand := roundHalfEven num (den * 2 ^ shift) with significand_eq
  have found : f.nearest num den = shift * 2 ^ f.fractionBits + significand := rfl
  have spacing : 0 < den * 2 ^ shift := Nat.mul_pos positive (Nat.two_pow_pos _)
  obtain ⟨most, least⟩ := f.significand_bounds num den
  rw [← shift_eq] at most least
  obtain ⟨above, below⟩ : num / (den * 2 ^ shift) ≤ significand ∧
      significand ≤ num / (den * 2 ^ shift) + 1 := by
    rw [significand_eq]
    rcases roundHalfEven_cases num (den * 2 ^ shift) with chosen | chosen <;> omega
  have units : f.units (f.nearest num den) = significand * 2 ^ shift := by
    rw [found]
    exact f.units_significand (by omega) fun shifted => Nat.le_trans (least shifted) above
  have here : f.gapOf num den (f.nearest num den) =
      gap (significand * (den * 2 ^ shift)) num := by
    rw [gapOf, units, Nat.mul_assoc, Nat.mul_comm (2 ^ shift)]
  intro other differs
  rcases f.units_multiple_or_lt shift other with ⟨k, multiple⟩ | ⟨shifted, low⟩
  · have there : f.gapOf num den other = gap (k * (den * 2 ^ shift)) num := by
      rw [gapOf, multiple, Nat.mul_assoc, Nat.mul_comm (2 ^ shift)]
    have distinct : k ≠ significand := by
      rintro rfl
      exact differs (f.units_strictMono.injective (multiple.trans units.symm))
    rw [here, there]
    rcases gap_roundHalfEven spacing num distinct with nearer | ⟨same, even⟩
    · exact .inl nearer
    · -- A binade begins at an even rank, so the parities agree.
      refine .inr ⟨same, ?_⟩
      have begins : 2 ^ f.fractionBits = 2 * 2 ^ (f.fractionBits - 1) := by
        rw [← Nat.pow_succ', Nat.succ_eq_add_one, Nat.sub_add_cancel fraction]
      rw [found, begins, Nat.mul_left_comm, Nat.mul_add_mod]
      exact even
  · -- Lower binades end below the first multiple, which is at most the ratio.
    left
    have first : 2 ^ f.fractionBits * (den * 2 ^ shift) ≤ num :=
      (Nat.le_div_iff_mul_le spacing).mp (least shifted)
    have lower : f.units other * den < 2 ^ f.fractionBits * (den * 2 ^ shift) := by
      rw [Nat.mul_comm den, ← Nat.mul_assoc]
      exact Nat.mul_lt_mul_of_pos_right low positive
    have nearer : gap (significand * (den * 2 ^ shift)) num ≤
        gap (2 ^ f.fractionBits * (den * 2 ^ shift)) num := by
      by_cases same : 2 ^ f.fractionBits = significand
      · rw [same]
      · rcases gap_roundHalfEven spacing num same with nearer | ⟨same, -⟩
        · exact Nat.le_of_lt nearer
        · exact Nat.le_of_eq same
    rw [here]
    refine Nat.lt_of_le_of_lt nearer ?_
    unfold gapOf gap
    omega

end BinaryFormat

/-! ## Rounded numbers -/

namespace Binary

variable {f g : BinaryFormat}

/-- The rounding of `num / den` units with a sign: the nearest rank, and infinity if that
is past the last finite one. -/
def IsRounded (negative : Bool) (num den : Nat) (x : Binary f) : Prop :=
  ∃ rank, f.IsNearest num den rank ∧
    x = if h : rank < f.ranks then .finite negative ⟨rank, h⟩ else .infinite negative

theorem isRounded_ofRatio (fraction : 0 < f.fractionBits) (negative : Bool) (num : Nat)
    {den : Nat} (positive : 0 < den) :
    IsRounded negative num den (ofRatio f negative num den) :=
  ⟨f.nearest num den, f.isNearest_nearest fraction num positive, rfl⟩

/-- A number in another format: the same value, rounded once. -/
def ConvertsTo : Binary f → Binary g → Prop
  | .nan, y => y = .nan
  | .infinite negative, y => y = .infinite negative
  | .finite negative rank, y => y.IsRounded negative (f.units rank * g.one) f.one

theorem convertsTo_convert (fraction : 0 < g.fractionBits) (x : Binary f) :
    x.ConvertsTo (x.convert g) := by
  cases x with
  | nan => rfl
  | infinite negative => rfl
  | finite negative rank => exact isRounded_ofRatio fraction negative _ (Nat.two_pow_pos _)

end Binary

/-- The double of a number: itself, or the nearest finite one to an integer. -/
def RoundsToDouble : Number → Double → Prop
  | .int n, x => x.IsRounded (n < 0) (n.natAbs * Double.one) 1 ∧
      ∃ negative rank, x = .finite negative rank
  | .double d, x => x = d

theorem roundsToDouble_of_toDouble? {n : Number} {x : Double} (rounded : n.toDouble? = some x) :
    n.RoundsToDouble x := by
  cases n with
  | double d =>
      cases rounded
      rfl
  | int n =>
      have nearest : Binary.IsRounded (n < 0) (n.natAbs * Double.one) 1 (Double.ofInt n) :=
        Binary.isRounded_ofRatio (by decide) _ _ Nat.one_pos
      change (Double.ofInt n).finite? = some x at rounded
      obtain ⟨rfl, finite⟩ := Binary.finite?_eq_some_iff.mp rounded
      exact ⟨nearest, finite⟩

/-- The four-byte number of a number: that of its double. -/
def RoundsToSingle (n : Number) (x : Single) : Prop :=
  ∃ d : Double, n.RoundsToDouble d ∧ d.ConvertsTo x

theorem roundsToSingle_convert {n : Number} {d : Double} (rounded : n.toDouble? = some d) :
    n.RoundsToSingle (d.convert .single) :=
  ⟨d, roundsToDouble_of_toDouble? rounded, d.convertsTo_convert (by decide)⟩

end Number

end VectorClient
