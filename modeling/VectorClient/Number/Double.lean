/-
# VectorClient.Number.Double — arithmetic on eight-byte numbers

`Double` is the eight-byte format of `Number.Binary`, `Single` the four-byte
one.  Sums, differences and multiples are formed exactly in units and rounded
once, so every operation here is the correctly rounded one.
-/
import VectorClient.Number.Binary

namespace VectorClient.Number

set_option autoImplicit false

abbrev Double := Binary .double
abbrev Single := Binary .single

namespace Double

/-- How many units of the double format make one. -/
def one : Nat := BinaryFormat.one .double

/-- The double nearest to `num / den` with the given sign. -/
def ofFraction (negative : Bool) (num den : Nat) : Double :=
  Binary.ofRatio .double negative (num * one) den

/-- The double nearest to an integer; an integer past the last finite double
becomes infinite. -/
def ofInt (n : Int) : Double := ofFraction (n < 0) n.natAbs 1

/-- The double nearest to an integer, if the integer is not past the last
finite one. -/
def ofInt? (n : Int) : Option Double := (ofInt n).finite?

def zero : Double := ofInt 0

/-- The value of a finite double as a signed number of units. -/
def signedUnits? : Double → Option Int
  | .finite negative rank =>
      let magnitude : Int := BinaryFormat.units .double rank
      some (if negative then -magnitude else magnitude)
  | _ => none

/-- The double nearest to a signed number of units; zero gets the given sign. -/
def ofSignedUnits (zeroNegative : Bool) (n : Int) : Double :=
  Binary.ofRatio .double (n < 0 || (n == 0 && zeroNegative)) n.natAbs 1

def neg : Double → Double
  | .nan => .nan
  | .infinite negative => .infinite !negative
  | .finite negative rank => .finite (!negative) rank

/-- The exact sum, rounded.  A zero sum is negative only if both terms are. -/
def add (a b : Double) : Double :=
  match a.signedUnits?, b.signedUnits? with
  | some m, some n => ofSignedUnits (a.isNegative && b.isNegative) (m + n)
  | some _, none => b
  | none, some _ => a
  | none, none => if a = b then a else .nan

def sub (a b : Double) : Double := add a (neg b)

/-- The exact multiple, rounded; of infinity, only a positive multiple is meant. -/
def times (k : Nat) : Double → Double
  | .finite negative rank => Binary.ofRatio .double negative (BinaryFormat.units .double rank * k) 1
  | d => d

/-- The integer part, toward zero.  None of an infinity or not-a-number. -/
def truncate? : Double → Option Int
  | .finite negative rank =>
      let whole : Int := (BinaryFormat.units .double rank / one : Nat)
      some (if negative then -whole else whole)
  | _ => none

/-- Is the number a whole one? -/
def isWhole : Double → Bool
  | .finite _ rank => BinaryFormat.units .double rank % one == 0
  | _ => false

end Double

end VectorClient.Number
