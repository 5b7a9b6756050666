/-
# VectorClient.Text.Integer — integers in lenient notation

A plain numeral is `0`, or digits of which the first is not `0`, with or without
a minus in front.  A lenient text is made plain in this order: the spaces around
it are dropped (`trim`); its sign is set aside; the zeros that pad it are dropped
(`unpadded?`), then a fraction of zeros (`whole`), then the underscores that
group its digits (`ungrouped`).

The order is visible.  Padding goes before grouping is looked at, so `0__7` is
seven while `1__7` is refused.  The sign is set aside before the padding, and a
minus also ends the padding, so `-07` and `0-7` are both minus seven; a numeral
with both minuses is not plain.  `sizeLimit` counts the plain numeral alone.
-/
import VectorClient.Text.Blank

namespace VectorClient.Text

set_option autoImplicit false

/-- The longest plain numeral, in characters with its minus, that is read. -/
def sizeLimit : Nat := 4300

/-- Why a text is no integer. -/
inductive IntegerFault where
  | malformed
  | tooLong
  deriving DecidableEq, Repr

/-- The characters that end the padding: a minus and the digits from one to nine. -/
def isLeading (c : Char) : Bool := c == '-' || (c.isDigit && c != '0')

/-- The text after a character of the padding.  Underscores may stand among the
zeros; if nothing but a fraction follows, the last character of the padding stays. -/
def afterPadding? (last : Char) : List Char → Option (List Char)
  | [] => some [last]
  | c :: rest =>
      if isLeading c then some (c :: rest)
      else if c = '.' then some (last :: c :: rest)
      else if c = '0' ∨ c = '_' then afterPadding? c rest
      else none

/-- A numeral without its padding: a zero in front, and the zeros and underscores
behind that.  `none` if it starts with no digit and no minus. -/
def unpadded? : List Char → Option (List Char)
  | [] => none
  | c :: rest =>
      if isLeading c then some (c :: rest)
      else if c = '0' then afterPadding? c rest
      else none

/-- A numeral without its fraction, if that is a point and one or more zeros. -/
def whole (cs : List Char) : List Char :=
  match cs.dropWhile (· != '.') with
  | _ :: zero :: zeros =>
      if (zero :: zeros).all (· == '0') then cs.takeWhile (· != '.') else cs
  | _ => cs

/-- Every underscore stands alone between two other characters.  `gap` says that
an underscore, or nothing, comes before. -/
def isGrouped (gap : Bool) : List Char → Bool
  | [] => !gap
  | c :: rest => if c = '_' then !gap && isGrouped true rest else isGrouped false rest

/-- A numeral without the underscores that group it. -/
def ungrouped (cs : List Char) : List Char :=
  if isGrouped true cs then cs.filter (· != '_') else cs

/-- The value of decimal digits. -/
def digitsValue (digits : List Char) : Nat :=
  digits.foldl (fun sum c => 10 * sum + (c.toNat - '0'.toNat)) 0

/-- The value of a plain numeral without a minus, of which at most `limit` digits
are read.  That there are too many is found before what follows them. -/
def readMagnitude (limit : Nat) (cs : List Char) : Except IntegerFault Nat :=
  let digits := cs.takeWhile Char.isDigit
  if cs = ['0'] then .ok 0
  else if digits = [] ∨ digits.head? = some '0' then .error .malformed
  else if limit < digits.length then .error .tooLong
  else if digits.length < cs.length then .error .malformed
  else .ok (digitsValue digits)

/-- The value of a plain numeral. -/
def readPlain : List Char → Except IntegerFault Int
  | '-' :: rest => (readMagnitude (sizeLimit - 1) rest).map fun n => -(n : Int)
  | cs => (readMagnitude sizeLimit cs).map Int.ofNat

/-- A numeral without its sign, made plain. -/
def plain? (cs : List Char) : Option (List Char) :=
  (unpadded? cs).map fun numeral => ungrouped (whole numeral)

/-- The integer that a lenient text stands for. -/
def readInteger (s : String) : Except IntegerFault Int :=
  let numeral? := match trim s.toList with
    | '-' :: rest => (plain? rest).map ('-' :: ·)
    | '+' :: '-' :: _ => none
    | '+' :: rest => plain? rest
    | rest => plain? rest
  match numeral? with
  | some numeral => readPlain numeral
  | none => .error .malformed

end VectorClient.Text
