/-
# VectorClient.Number.Binary — binary floating-point numbers by rank

A binary format lists its finite magnitudes in increasing order, counted from
zero, and a number is a sign and a *rank* in that list.  The rank is also the
number's bit pattern below the sign, so encoding is free, two equal numbers are
one value, and the order of magnitudes is the order of ranks.

Magnitudes are exact: `BinaryFormat.units` gives the magnitude of a rank as a natural
number of *units*, the smallest positive magnitude of the format.  All
arithmetic happens on units and ends in one rounding, `BinaryFormat.nearest`, to the
nearest rank with ties to the even one.
-/
namespace VectorClient.Number

set_option autoImplicit false

/-- The quotient `num / den` rounded to the nearest natural number, a half to
the even neighbour. -/
def roundHalfEven (num den : Nat) : Nat :=
  let whole := num / den
  let rest := 2 * (num % den)
  if rest < den then whole
  else if den < rest then whole + 1
  else whole + whole % 2

/-- A binary interchange format: the widths of its exponent and fraction fields. -/
structure BinaryFormat where
  exponentBits : Nat
  fractionBits : Nat
  deriving DecidableEq, Repr

namespace BinaryFormat

/-- Eight bytes. -/
def double : BinaryFormat := ⟨11, 52⟩

/-- Four bytes. -/
def single : BinaryFormat := ⟨8, 23⟩

/-- How many finite magnitudes there are, zero included. -/
def ranks (f : BinaryFormat) : Nat := (Nat.pow 2 f.exponentBits - 1) * Nat.pow 2 f.fractionBits

/-- One unit is two to the minus `unitExponent`. -/
def unitExponent (f : BinaryFormat) : Nat := Nat.pow 2 (f.exponentBits - 1) - 2 + f.fractionBits

/-- How many units make one. -/
def one (f : BinaryFormat) : Nat := Nat.pow 2 f.unitExponent

/-- The magnitude of a rank, in units.  It goes on past the finite ranks with
the next exponent, which is where overflow begins. -/
def units (f : BinaryFormat) (rank : Nat) : Nat :=
  let exponent := rank / Nat.pow 2 f.fractionBits
  let fraction := rank % Nat.pow 2 f.fractionBits
  if exponent = 0 then fraction
  else (Nat.pow 2 f.fractionBits + fraction) * Nat.pow 2 (exponent - 1)

/-- The rank whose magnitude is nearest to `num / den` units, ties to the even
rank.  Rounding up a full significand steps to the next exponent by itself. -/
def nearest (f : BinaryFormat) (num den : Nat) : Nat :=
  let shift := (num / den).log2 - f.fractionBits
  shift * Nat.pow 2 f.fractionBits + roundHalfEven num (den * Nat.pow 2 shift)

/-- How many bytes a number of the format takes. -/
def width (f : BinaryFormat) : Nat := (1 + f.exponentBits + f.fractionBits) / 8

end BinaryFormat

/-- A number of a binary format.  There is one not-a-number. -/
inductive Binary (f : BinaryFormat) where
  | nan
  | infinite (negative : Bool)
  | finite (negative : Bool) (rank : Fin f.ranks)
  deriving DecidableEq, Repr

namespace Binary

variable {f : BinaryFormat}

/-- The number nearest to `num / den` units with the given sign.  A magnitude
past the last finite rank becomes infinite. -/
def ofRatio (f : BinaryFormat) (negative : Bool) (num den : Nat) : Binary f :=
  let rank := f.nearest num den
  if h : rank < f.ranks then .finite negative ⟨rank, h⟩ else .infinite negative

/-- The magnitude of a finite number in units. -/
def units? : Binary f → Option Nat
  | .finite _ rank => some (f.units rank)
  | _ => none

/-- The number itself, if it is finite. -/
def finite? : Binary f → Option (Binary f)
  | .finite negative rank => some (.finite negative rank)
  | _ => none

theorem finite?_eq_some_iff {x y : Binary f} :
    x.finite? = some y ↔ x = y ∧ ∃ negative rank, y = .finite negative rank := by
  cases x with
  | nan | infinite negative =>
      simp only [finite?, reduceCtorEq, false_iff]
      rintro ⟨rfl, negative, rank, finite⟩
      cases finite
  | finite negative rank =>
      simp only [finite?, Option.some.injEq, iff_self_and]
      rintro rfl
      exact ⟨negative, rank, rfl⟩

def isNegative : Binary f → Bool
  | .nan => false
  | .infinite negative => negative
  | .finite negative _ => negative

/-- The bit pattern as a natural number: sign, then rank.  Infinity follows the
last finite rank, and not-a-number is the quiet one without payload. -/
def bits : Binary f → Nat
  | .nan => f.ranks + Nat.pow 2 (f.fractionBits - 1)
  | .infinite negative => sign negative + f.ranks
  | .finite negative rank => sign negative + rank
where
  sign (negative : Bool) : Nat :=
    if negative then Nat.pow 2 (f.exponentBits + f.fractionBits) else 0

/-- The number with the given bit pattern; every pattern past infinity is the
one not-a-number. -/
def ofBits (f : BinaryFormat) (pattern : Nat) : Binary f :=
  let signed := Nat.pow 2 (f.exponentBits + f.fractionBits)
  let rank := pattern % signed
  let negative := signed ≤ pattern
  if h : rank < f.ranks then .finite negative ⟨rank, h⟩
  else if rank = f.ranks then .infinite negative
  else .nan

/-- The same value in another format, rounded to nearest. -/
def convert (g : BinaryFormat) : Binary f → Binary g
  | .nan => .nan
  | .infinite negative => .infinite negative
  | .finite negative rank => ofRatio g negative (f.units rank * g.one) f.one

end Binary

end VectorClient.Number
