/-
# VectorClient.Number.Basic — numbers of either kind

A `Number` is what callers may write where a number is expected: an integer of
any size or a double.  Numbers of the two kinds compare by exact value
(`Number.le`, `Number.same`): no integer is rounded before it is compared, and
not-a-number compares with nothing, itself included.  An integer with very many
digits is a number like any other, but it has no text (`Number.Printable`).
-/
import VectorClient.Number.Decimal

namespace VectorClient

set_option autoImplicit false

/-- A number as a caller writes it. -/
inductive Number where
  | int (n : Int)
  | double (d : Number.Double)
  deriving DecidableEq, Repr

namespace Number

/-- A place on the number line with both ends, finite places in double units. -/
inductive Place where
  | bottom
  | finite (units : Int)
  | top
  deriving DecidableEq, Repr

def Place.le : Place → Place → Bool
  | .bottom, _ => true
  | _, .top => true
  | .finite m, .finite n => m ≤ n
  | _, _ => false

/-- Where the number lies; not-a-number lies nowhere. -/
def place? : Number → Option Place
  | .int n => some (.finite (n * Double.one))
  | .double .nan => none
  | .double (.infinite negative) => some (if negative then .bottom else .top)
  | .double d => d.signedUnits?.map .finite

/-- Exact comparison.  Not-a-number is not at most anything. -/
def le (a b : Number) : Bool :=
  match a.place?, b.place? with
  | some p, some q => p.le q
  | _, _ => false

def lt (a b : Number) : Bool :=
  match a.place?, b.place? with
  | some p, some q => !q.le p
  | _, _ => false

/-- Equality by exact value, across the two kinds. -/
def same (a b : Number) : Bool :=
  match a.place?, b.place? with
  | some p, some q => p == q
  | _, _ => false

/-- The nearest double, if the number is no integer past the last finite one. -/
def toDouble? : Number → Option Double
  | .int n => Double.ofInt? n
  | .double d => some d

/-- The nearest double; an integer that is too large becomes infinite. -/
def toDouble : Number → Double
  | .int n => Double.ofInt n
  | .double d => d

def isZero (a : Number) : Bool := a.same (.int 0)

/-! ## Texts -/

def text : Number → String
  | .int n => toString n
  | .double d => d.text

/-- How many decimal digits an integer may have where it is written as text. -/
def digitLimit : Nat := 4300

/-- The integer can be written as text. -/
def Printable (n : Int) : Prop := n.natAbs < Nat.pow 10 digitLimit

instance (n : Int) : Decidable (Printable n) :=
  inferInstanceAs (Decidable (n.natAbs < Nat.pow 10 digitLimit))

/-- What is said where an integer with more digits would have to be written. -/
def tooManyDigits : String :=
  "Exceeds the limit (" ++ toString digitLimit ++ " digits) for integer string " ++
    "conversion; use sys.set_int_max_str_digits() to increase the limit"

/-- The text of a number, unless it is an integer with too many digits. -/
def text? : Number → Option String
  | .int n => if Printable n then some (toString n) else none
  | .double d => some d.text

end Number

end VectorClient
