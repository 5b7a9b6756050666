/-
# VectorClient.Number.Decimal — decimal text of doubles

Writing: a double is written with the fewest decimal digits that read back as
the same double; of two such decimals the nearer one, and of two equally near
the even one.  For each count of digits the two grid points next to the exact
value are tried (`shortestWith?`), in exact arithmetic, and the smallest count
that has a point inside the rounding interval wins.  How the digits are laid
out is a separate record, `Layout`.

Reading: `ofText?` takes the exact value of a decimal numeral and rounds once.
-/
import VectorClient.Number.Double

namespace VectorClient.Number

set_option autoImplicit false

/-- Digits `d₁d₂…` with a decimal point before the digit of index `point`, so
the value is `0.d₁d₂… · 10 ^ point`. -/
structure Decimal where
  digits : List Char
  point : Int
  deriving DecidableEq, Repr

namespace Decimal

/-- The decimal `c · 10 ^ grid` without trailing zeros. -/
def ofScaled (c : Nat) (grid : Int) : Decimal :=
  let digits := Nat.toDigits 10 c
  ⟨(digits.reverse.dropWhile (· == '0')).reverse, digits.length + grid⟩

/-- The place of the first digit of a positive number of double units: the `k`
with `10 ^ k ≤ value < 10 ^ (k + 1)`. -/
def leadingPlace (units : Nat) : Int :=
  (Nat.toDigits 10 (units * Nat.pow 10 400 / Double.one)).length - 401

/-- Among the decimals with `count` digits, the one that stands for the
magnitude of `rank`: inside the interval that rounds to `rank` (its ends
belong to it when the rank is even) and nearest to the magnitude. -/
def shortestWith? (rank count : Nat) : Option Decimal :=
  let units := BinaryFormat.units .double rank
  let grid := leadingPlace units + 1 - count
  let up := Nat.pow 10 (-grid).toNat
  let den := Double.one * Nat.pow 10 grid.toNat
  let num := units * up
  let low := (BinaryFormat.units .double (rank - 1) + units) * up
  let high := (units + BinaryFormat.units .double (rank + 1)) * up
  let inside (c : Nat) : Bool :=
    let twice := 2 * c * den
    if rank % 2 = 0 then low ≤ twice && twice ≤ high else low < twice && twice < high
  let below := num / den
  let above := below + 1
  let nearer :=
    if 2 * num < (below + above) * den then below
    else if (below + above) * den < 2 * num then above
    else below + below % 2
  match inside below, inside above with
  | true, true => some (ofScaled nearer grid)
  | true, false => some (ofScaled below grid)
  | false, true => some (ofScaled above grid)
  | false, false => none

/-- The shortest decimal of a positive rank.  Seventeen digits always suffice. -/
def shortest (rank : Nat) : Decimal :=
  ((List.range 17).findSome? fun i => shortestWith? rank (i + 1)).getD ⟨['0'], 1⟩

end Decimal

/-- How the digits of a double are laid out. -/
structure Layout where
  /-- The smallest decimal exponent that is written positionally. -/
  least : Int
  /-- The first decimal exponent that is not. -/
  bound : Int
  /-- The mark before an exponent. -/
  mark : String
  /-- An exponent has a sign and at least this many digits. -/
  exponentDigits : Nat
  infinity : String
  nan : String

namespace Layout

/-- Positional from one ten-thousandth up to sixteen whole digits. -/
def plain : Layout := ⟨-4, 16, "e", 2, "inf", "nan"⟩

def zeros (n : Nat) : String := String.ofList (List.replicate n '0')

def positional (d : Decimal) : String :=
  let count : Int := d.digits.length
  if d.point ≤ 0 then "0." ++ zeros (-d.point).toNat ++ String.ofList d.digits
  else if count ≤ d.point then String.ofList d.digits ++ zeros (d.point - count).toNat ++ ".0"
  else String.ofList (d.digits.take d.point.toNat) ++ "." ++
    String.ofList (d.digits.drop d.point.toNat)

def exponential (l : Layout) (d : Decimal) : String :=
  let exponent := d.point - 1
  let digits := toString exponent.natAbs
  let sign := if exponent < 0 then "-" else "+"
  let fraction := String.ofList (d.digits.drop 1)
  String.ofList (d.digits.take 1) ++ (if fraction.isEmpty then "" else "." ++ fraction) ++
    l.mark ++ sign ++ zeros (l.exponentDigits - digits.length) ++ digits

def write (l : Layout) (d : Decimal) : String :=
  if l.least ≤ d.point - 1 ∧ d.point - 1 < l.bound then positional d else l.exponential d

end Layout

namespace Double

def signed (negative : Bool) (magnitude : String) : String :=
  if negative then "-" ++ magnitude else magnitude

/-- The shortest text that reads back as the same double. -/
def text : Double → String
  | .nan => Layout.plain.nan
  | .infinite negative => signed negative Layout.plain.infinity
  | .finite negative rank =>
      signed negative (if rank.val = 0 then "0.0" else Layout.plain.write (Decimal.shortest rank))

/-- The exact value rounded to one decimal place, a half to the even neighbour. -/
def oneDecimal : Double → String
  | .nan => Layout.plain.nan
  | .infinite negative => signed negative Layout.plain.infinity
  | .finite negative rank =>
      let tenths := roundHalfEven (BinaryFormat.units .double rank * 10) one
      signed negative (toString (tenths / 10) ++ "." ++ toString (tenths % 10))

/-- The value of a list of decimal digits, or none if one is no digit. -/
def digitsValue? (cs : List Char) : Option Nat :=
  cs.foldl (fun sum c => match sum with
    | some n => if c.isDigit then some (10 * n + (c.toNat - '0'.toNat)) else none
    | none => none) (some 0)

/-- Splits off a leading sign; true for minus. -/
def takeSign : List Char → Bool × List Char
  | '-' :: rest => (true, rest)
  | '+' :: rest => (false, rest)
  | rest => (false, rest)

/-- The double nearest to `mantissa · 10 ^ exponent`.  Exponents far outside the
range of doubles are answered without forming the power. -/
def ofDecimal (negative : Bool) (mantissa : Nat) (exponent : Int) : Double :=
  if mantissa = 0 then ofFraction negative 0 1
  else if 400 < exponent then .infinite negative
  else if exponent + (Nat.toDigits 10 mantissa).length < -400 then ofFraction negative 0 1
  else ofFraction negative (mantissa * Nat.pow 10 exponent.toNat) (Nat.pow 10 (-exponent).toNat)

/-- Reads a decimal numeral with optional sign, fraction and exponent, or one of
the words for infinity and not-a-number. -/
def ofText? (text : String) : Option Double :=
  let (negative, body) := takeSign text.toList
  if String.ofList body = Layout.plain.nan then some .nan
  else if String.ofList body = Layout.plain.infinity then some (.infinite negative)
  else
    let isMark (c : Char) : Bool := c == 'e' || c == 'E'
    let significand := body.takeWhile (!isMark ·)
    let (below, magnitude) := takeSign (body.dropWhile (!isMark ·)).tail
    let whole := significand.takeWhile (· != '.')
    let fraction := (significand.dropWhile (· != '.')).tail
    if (whole ++ fraction).isEmpty || (body.any isMark && magnitude.isEmpty) then none
    else
      match digitsValue? (whole ++ fraction), digitsValue? magnitude with
      | some mantissa, some size =>
          let exponent : Int := if below then -size else size
          some (ofDecimal negative mantissa (exponent - fraction.length))
      | _, _ => none

end Double

end VectorClient.Number
