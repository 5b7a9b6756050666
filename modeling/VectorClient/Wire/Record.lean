/-
# VectorClient.Wire.Record — messages as numbered records

A message on the wire is a sequence of records, each a field number with either
a number or a run of bytes.  Numbers are written in groups of seven bits, the
low group first, every group but the last one marked.  A field at its default
is not written; a negative number is written as its 64-bit complement; the
numbers of a repeated field are packed into one run of bytes.
-/
import VectorClient.Number.Basic
import VectorClient.Text.Utf8

namespace VectorClient.Wire

set_option autoImplicit false

/-- A number in groups of seven bits, the low group first. -/
def varint (n : Nat) : List UInt8 :=
  if n < 128 then [UInt8.ofNat n]
  else UInt8.ofNat (n % 128 + 128) :: varint (n / 128)
termination_by n
decreasing_by omega

/-- The low `count` bytes of a number, the lowest first. -/
def littleEndian : (count : Nat) → Nat → List UInt8
  | 0, _ => []
  | count + 1, n => UInt8.ofNat n :: littleEndian count (n / 256)

@[simp]
theorem length_littleEndian (count n : Nat) : (littleEndian count n).length = count := by
  induction count generalizing n with
  | zero => rfl
  | succ count ih => simp [littleEndian, ih]

theorem varint_ne_nil (n : Nat) : varint n ≠ [] := by
  rw [varint]
  split <;> simp

/-- The bytes of a floating-point number. -/
def floatBytes {f : Number.BinaryFormat} (x : Number.Binary f) : List UInt8 :=
  littleEndian f.width x.bits

/-- The 64-bit complement of an integer. -/
def complement (n : Int) : Nat := (n % 0x10000000000000000).toNat

/-- What a record carries. -/
inductive Payload where
  | number (n : Nat)
  | run (bytes : List UInt8)
  deriving DecidableEq, Repr

/-- One field of a message. -/
structure Record where
  field : Nat
  payload : Payload
  deriving DecidableEq, Repr

/-- A message: its records in the order written. -/
abbrev Message := List Record

def Record.encode (r : Record) : List UInt8 :=
  match r.payload with
  | .number n => varint (8 * r.field) ++ varint n
  | .run bytes => varint (8 * r.field + 2) ++ varint bytes.length ++ bytes

namespace Message

def encode (m : Message) : List UInt8 := m.flatMap Record.encode

@[simp]
theorem encode_nil : encode [] = [] := rfl

@[simp]
theorem encode_append (m m' : Message) : encode (m ++ m') = encode m ++ encode m' :=
  List.flatMap_append

/-! ## Fields -/

def natural (field n : Nat) : Message := if n = 0 then [] else [⟨field, .number n⟩]

def integer (field : Nat) (n : Int) : Message := natural field (complement n)

def truth (field : Nat) (b : Bool) : Message := natural field b.toNat

def bytes (field : Nat) (bs : List UInt8) : Message :=
  if bs.isEmpty then [] else [⟨field, .run bs⟩]

def text (field : Nat) (s : String) : Message := bytes field (Text.utf8 s)

/-- A run of bytes that is written even when it is empty. -/
def present (field : Nat) (bs : List UInt8) : Message := [⟨field, .run bs⟩]

/-- A nested message, written even when it is empty. -/
def nested (field : Nat) (m : Message) : Message := present field m.encode

/-- A repeated field whose elements are runs of bytes. -/
def repeated (field : Nat) (elements : List (List UInt8)) : Message :=
  elements.map fun bs => ⟨field, .run bs⟩

def texts (field : Nat) (ss : List String) : Message := repeated field (ss.map Text.utf8)

def messages (field : Nat) (ms : List Message) : Message := repeated field (ms.map encode)

/-- A repeated field of packed elements. -/
def packed (field : Nat) (elements : List (List UInt8)) : Message := bytes field elements.flatten

end Message

end VectorClient.Wire
