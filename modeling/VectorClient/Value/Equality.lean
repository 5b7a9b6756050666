/-
# VectorClient.Value.Equality — equality and hashing of values

Two values are the same if they cannot be told apart by content: numbers by
exact value (a truth value is zero or one), texts by content (a member is its
word), byte strings by content, sequences of one kind element by element,
dictionaries as sets of entries, parameter objects by class and fields.
Not-a-number is not the same as itself.

A value can be hashed unless it holds a list, a dictionary or a byte array.
-/
import VectorClient.Value.Basic

namespace VectorClient

set_option autoImplicit false

/-- The same keys with the same values, in any order. -/
def sameEntries (a b : List (String × String)) : Bool :=
  a.length == b.length && a.all fun e => b.contains e

def sameRow (a b : List Number) : Bool :=
  a.length == b.length && (a.zip b).all fun (m, n) => m.same n

def Batch.same : Batch → Batch → Bool
  | .binary a, .binary b => a == b
  | .float a, .float b => a.length == b.length && (a.zip b).all fun (m, n) => sameRow m n
  | _, _ => false

def Column.same : Column → Column → Bool
  | .numbers p a, .numbers q b => p == q && sameRow a b
  | .vectors a, .vectors b => a.same b
  | a, b => a == b

def NamedColumn.same (a b : NamedColumn) : Bool := a.name == b.name && a.column.same b.column

def FieldSchema.same (a b : FieldSchema) : Bool :=
  { a with typeParams := [] } == { b with typeParams := [] } &&
    sameEntries a.typeParams b.typeParams

namespace Value

/-- Equality of values that hold no others. -/
def sameScalar (a b : Value) : Bool :=
  match a.asNumber?, b.asNumber?, a.asText?, b.asText?, a.asBytes?, b.asBytes? with
  | some m, some n, _, _, _, _ => m.same n
  | _, _, some s, some t, _, _ => s == t
  | _, _, _, _, some s, some t => s == t
  | _, _, _, _, _, _ => match a, b with
    | .none, .none => true
    | .field f, .field g => f.same g
    | .column c, .column d => c.same d
    | _, _ => false

mutual

/-- Equality of values by content. -/
def same : Value → Value → Bool
  | .list items, .list others => sameItems items others
  | .tuple items, .tuple others => sameItems items others
  | .dict entries, .dict others =>
      entries.length == others.length && sameDict entries others
  | .object title fields, .object other others => title == other && sameFields fields others
  | a, b => sameScalar a b

def sameItems : List Value → List Value → Bool
  | [], [] => true
  | a :: rest, b :: others => same a b && sameItems rest others
  | _, _ => false

/-- Every entry has a counterpart among the others. -/
def sameDict : List (Value × Value) → List (Value × Value) → Bool
  | [], _ => true
  | (k, v) :: rest, others =>
      (others.any fun (k', v') => same k k' && same v v') && sameDict rest others

def sameFields : List (String × Value) → List (String × Value) → Bool
  | [], [] => true
  | (k, v) :: rest, (k', v') :: others => k == k' && same v v' && sameFields rest others
  | _, _ => false

end

mutual

/-- The type that keeps a value from being hashed, the first one met. -/
def unhashable? : Value → Option String
  | .list _ => some "list"
  | .dict _ => some "dict"
  | .byteArray _ => some "bytearray"
  | .field _ => some "dict"
  | .tuple items => unhashableItem? items
  | .object _ fields => unhashableField? fields
  | _ => Option.none

def unhashableItem? : List Value → Option String
  | [] => Option.none
  | v :: rest => (unhashable? v).or (unhashableItem? rest)

def unhashableField? : List (String × Value) → Option String
  | [] => Option.none
  | (_, v) :: rest => (unhashable? v).or (unhashableField? rest)

end

/-- Writes an entry: an equal key keeps its place and its first spelling and
takes the new value, a new key goes to the end. -/
def insertEntry (entries : List (Value × Value)) (key value : Value) : List (Value × Value) :=
  if entries.any fun (k, _) => k.same key then
    entries.map fun (k, v) => if k.same key then (k, value) else (k, v)
  else entries ++ [(key, value)]

/-- The dictionary of entries in the order written. -/
def ofEntries (entries : List (Value × Value)) : Value :=
  .dict (entries.foldl (fun done (k, v) => insertEntry done k v) [])

end Value

end VectorClient
