/-
# VectorClient.Request.Fault — numbers that no request can carry

Parameters admit some numbers that the wire does not.  The limits differ: an
integer field has its width, an array of numbers takes integers up to the last
finite double, the target vectors of a search take nothing past the last finite
four-byte number, and a number that travels as text may have so many digits.
-/
import VectorClient.Column.Basic
import VectorClient.Wire.Record

namespace VectorClient.Request

set_option autoImplicit false

open Number

/-- Why a request cannot be written. -/
inductive Fault where
  /-- An integer that is out of the range of its field, or that has too many digits. -/
  | outOfRange (n : Int)
  /-- An integer in an array of numbers that is past the last finite double. -/
  | integerTooLarge
  /-- A component of a target vector that is a double past the last finite four-byte number. -/
  | componentTooLarge
  /-- Such a component that is an integer. -/
  | integerComponentTooLarge
  /-- A component of a target vector that is no number or no double. -/
  | componentNotNumber
  deriving DecidableEq, Repr

def Fault.message : Fault → String
  | .outOfRange n =>
      -- A number with too many digits cannot be shown in a message either.
      if Printable n then "Value out of range: " ++ toString n else tooManyDigits
  | .integerTooLarge => "int too large to convert to float"
  | .componentTooLarge => "float too large to pack with f format"
  | .integerComponentTooLarge => "int too large to convert"
  | .componentNotNumber => "required argument is not a float"

/-- A signed field of some width. -/
def signed (width : IntWidth) (field : Nat) (n : Int) : Except Fault Wire.Message :=
  if width.Fits n then .ok (.integer field n) else .error (.outOfRange n)

/-- An unsigned field of some width. -/
def unsigned (width field : Nat) (n : Int) : Except Fault Wire.Message :=
  if 0 ≤ n ∧ n < (Nat.pow 2 width : Nat) then .ok (.integer field n) else .error (.outOfRange n)

/-- The decimal digits of a number that travels as text. -/
def decimal (n : Int) : Except Fault String :=
  if Printable n then .ok (toString n) else .error (.outOfRange n)

/-- The double of a number in an array. -/
def double (n : Number) : Except Fault Double :=
  match n.toDouble? with
  | some d => .ok d
  | none => .error .integerTooLarge

/-- Every element converted, or the fault of the first that cannot be. -/
def each {α β : Type} (f : α → Except Fault β) : List α → Except Fault (List β)
  | [] => .ok []
  | a :: rest => match f a with
    | .error fault => .error fault
    | .ok b => (each f rest).map (b :: ·)

/-- The fault of a component that is finite and past the last finite four-byte number. -/
def tooLarge : Number → Fault
  | .int _ => .integerComponentTooLarge
  | .double _ => .componentTooLarge

/-- The four bytes of a component of a target vector. -/
def component (n : Number) : Except Fault (List UInt8) :=
  match n.toDouble? with
  | none => .error .componentNotNumber
  | some d =>
      match d, (d.convert .single : Single) with
      | .finite _ _, .infinite _ => .error (tooLarge n)
      | _, x => .ok (Wire.floatBytes x)

end VectorClient.Request
