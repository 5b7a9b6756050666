/-
# VectorClient.Value.Basic — the values that callers write

Parameters are built from values whose type is known only when they are read.
`Value` is that dynamic type: scalars, byte strings, sequences, dictionaries,
members of the vocabularies, and parameter objects that were built before.  A
dictionary keeps its entries in the order in which its keys were first written.

The mutual recursions here follow the nesting of values: a function on values,
one on lists of values and one on lists of entries.
-/
import VectorClient.Column.Basic
import VectorClient.Text.Utf8

namespace VectorClient

set_option autoImplicit false

/-- A value as a caller writes it. -/
inductive Value where
  | none
  | bool (b : Bool)
  | number (n : Number)
  | text (s : String)
  | bytes (bs : List UInt8)
  | byteArray (bs : List UInt8)
  | list (items : List Value)
  | tuple (items : List Value)
  | dict (entries : List (Value × Value))
  | member (m : Member)
  | field (f : FieldSchema)
  | column (c : NamedColumn)
  /-- A parameter object of any other class, as its class and its fields. -/
  | object (title : String) (fields : List (String × Value))
  deriving Repr

/-- Keyword arguments in the order given. -/
abbrev Keywords := List (String × Value)

/-- The value of a keyword. -/
def Keywords.find? (kw : Keywords) (name : String) : Option Value :=
  (List.find? (fun e => e.1 == name) kw).map Prod.snd

namespace Value

instance : Inhabited Value := ⟨.none⟩

def int (n : Int) : Value := .number (.int n)

def double (d : Number.Double) : Value := .number (.double d)

/-- The title of the class of field schemas. -/
def fieldTitle : String := "FieldType"

/-- The title of the class of named columns. -/
def columnTitle : String := "InsertField"

/-- The name of a value's type, as messages give it. -/
def typeName : Value → String
  | .none => "NoneType"
  | .bool _ => "bool"
  | .number (.int _) => "int"
  | .number (.double _) => "float"
  | .text _ => "str"
  | .bytes _ => "bytes"
  | .byteArray _ => "bytearray"
  | .list _ => "list"
  | .tuple _ => "tuple"
  | .dict _ => "dict"
  | .member m => m.title
  | .field _ => fieldTitle
  | .column _ => columnTitle
  | .object title _ => title

/-- Is the value anything but empty, zero, false or none? -/
def isTruthy : Value → Bool
  | .none => false
  | .bool b => b
  | .number n => !n.isZero
  | .text s => !s.isEmpty
  | .bytes bs => !bs.isEmpty
  | .byteArray bs => !bs.isEmpty
  | .list items => !items.isEmpty
  | .tuple items => !items.isEmpty
  | .dict entries => !entries.isEmpty
  | _ => true

/-- The number that a value counts as; a truth value counts as zero or one. -/
def asNumber? : Value → Option Number
  | .bool b => some (.int b.toInt)
  | .number n => some n
  | _ => Option.none

/-- The text that a value counts as; a member counts as its word. -/
def asText? : Value → Option String
  | .text s => some s
  | .member m => some m.word
  | _ => Option.none

/-- The content of a byte string of either kind. -/
def asBytes? : Value → Option (List UInt8)
  | .bytes bs => some bs
  | .byteArray bs => some bs
  | _ => Option.none

/-- The elements of a list or tuple. -/
def asRow? : Value → Option (List Value)
  | .list items => some items
  | .tuple items => some items
  | _ => Option.none

/-- The elements of a sequence: the members of a list or tuple, the characters
of a text, the numbers of a byte string. -/
def elements? : Value → Option (List Value)
  | .list items => some items
  | .tuple items => some items
  | .bytes bs => some (bs.map fun b => int b.toNat)
  | .byteArray bs => some (bs.map fun b => int b.toNat)
  | v => v.asText?.map fun s => s.toList.map fun c => .text c.toString

/-- A row is kept as a tuple, or as bytes, whichever way it was written. -/
def freezeRow : Value → Value
  | .list items => .tuple items
  | .byteArray bs => .bytes bs
  | v => v

end Value

namespace Batch

/-- The rows of a batch as they are stored. -/
def toValues : Batch → List Value
  | .binary rows => rows.map .bytes
  | .float rows => rows.map fun row => .tuple (row.map .number)

end Batch

namespace Column

/-- The rows of a column as they are stored. -/
def toValues : Column → List Value
  | .bools rows => rows.map .bool
  | .ints _ rows => rows.map Value.int
  | .numbers _ rows => rows.map .number
  | .texts _ rows => rows.map .text
  | .vectors batch => batch.toValues

end Column

end VectorClient
