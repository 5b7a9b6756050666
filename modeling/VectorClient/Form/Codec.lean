/-
# VectorClient.Form.Codec — how each kind of field is read and written

A codec reads a value into a typed one and writes it back as it is stored.
Codecs are built from small ones: a text, a name (a text that is not blank), a
truth value, an integer or a number of seconds within bounds, a word of a
vocabulary, and tuples, pairs and dictionaries of these.  Of the checks on one
value only the first that fails is reported; the elements of a tuple are all
checked, and each reports at its own index.
-/
import VectorClient.Form.Verdict
import VectorClient.Text.Pairs

namespace VectorClient

set_option autoImplicit false

/-- How values of a type are read and written. -/
structure Codec (α : Type) where
  read : Value → Verdict α
  write : α → Value

namespace Codec

variable {α β : Type}

/-- Reads as before, then refuses what `fault?` finds a fault with. -/
def checked (c : Codec α) (fault? : α → Option Fault) : Codec α where
  read v := (c.read v).bind fun a =>
    match fault? a with
    | some fault => .refuse fault
    | none => .accepted a
  write := c.write

/-- None, or as before. -/
def optional (c : Codec α) : Codec (Option α) where
  read
    | .none => .accepted none
    | v => (c.read v).map some
  write
    | none => .none
    | some a => c.write a

/-- Any value, kept as it is. -/
def anything : Codec Value := ⟨.accepted, id⟩

/-! ## Scalars -/

def readText (v : Value) : Verdict String :=
  match v.asText?, v.asBytes? with
  | some s, _ => .accepted s
  | none, some bs => match Text.ofUtf8? bs with
    | some s => .accepted s
    | none => .refuse .notUtf8
  | none, none => .refuse .notText

/-- A text, a member as its word, or bytes that encode a text. -/
def text : Codec String := ⟨readText, .text⟩

/-- A text that is not blank. -/
def name : Codec String := text.checked fun s => if Text.isBlank s then some .blank else none

/-- A byte string, or the encoding of a text. -/
def bytes : Codec (List UInt8) where
  read v := match v.asBytes?, v.asText? with
    | some bs, _ => .accepted bs
    | none, some s => .accepted (Text.utf8 s)
    | none, none => .refuse .notBytes
  write := .bytes

def truth : Codec Bool where
  read
    | .bool b => .accepted b
    | _ => .refuse .notTruth
  write := .bool

/-- The bounds of a number: strictly above, at least, and at most. -/
structure Bounds where
  above : Option Int
  least : Option Int
  most : Option Int
  deriving DecidableEq, Repr

/-- The first bound that a number is not within; the upper one is tried first.
Not-a-number is within no bound. -/
def Bounds.fault? (b : Bounds) (n : Number) : Option Fault :=
  let tooLarge := b.most.filter fun bound => !n.le (.int bound)
  let tooSmall := b.least.filter fun bound => !(Number.int bound).le n
  let notAbove := b.above.filter fun bound => !(Number.int bound).lt n
  (tooLarge.map Fault.notAtMost).or
    ((tooSmall.map Fault.notAtLeast).or (notAbove.map Fault.notAbove))

/-- An integer within bounds; a truth value is no integer. -/
def integer (b : Bounds) : Codec Int :=
  checked ⟨readInteger, Value.int⟩ fun n => b.fault? (.int n)
where
  readInteger : Value → Verdict Int
    | .number (.int n) => .accepted n
    | _ => .refuse .notInteger

/-- A number as a double. -/
def readSeconds : Value → Verdict Number.Double
  | .number n => match n.toDouble? with
    | some d => .accepted d
    | none => .aborted .integerTooLarge
  | v => .refuse (.notSeconds v.typeName)

/-- A number of seconds above zero, and at most the bound if there is one. -/
def seconds (most : Option Int) : Codec Number.Double :=
  checked ⟨readSeconds, Value.double⟩ fun d => (Bounds.mk (some 0) none most).fault? (.double d)

/-- A word of a vocabulary, however the text was written. -/
def choice (α : Type) [Vocabulary α] (wrap : α → Member) : Codec α where
  read v := match (readText v).accepted?.bind Vocabulary.ofWord? with
    | some m => .accepted m
    | none => .refuse (.notAWord (Vocabulary.words α))
  write m := .member (wrap m)

def dataType : Codec DataType := choice DataType .dataType

def metric : Codec MetricType :=
  (choice MetricType .metricType).checked fun m => if m = .invalid then some .metricUnset else none

def index : Codec IndexType :=
  (choice IndexType .indexType).checked fun m => if m = .invalid then some .indexUnset else none

/-! ## Tuples -/

/-- Reads each element under its index, counted from `first`. -/
def readItems (c : Codec α) (first : Nat) : List Value → Verdict (List α)
  | [] => .accepted []
  | v :: rest =>
      .both (· :: ·) ((c.read v).under (.index first)) (readItems c (first + 1) rest)

/-- How many elements are accepted. -/
def validCount (c : Codec α) (items : List Value) : Nat :=
  items.countP fun v => (c.read v).isAccepted

/-- The entry of a tuple with too few valid elements. -/
def countEntries (least valid : Nat) : List Entry :=
  if valid < least then [([], .tooFew least valid)] else []

/-- A list or tuple of elements, with at least so many of them.  Only valid
elements count, and their number is reported after the faults of the others. -/
def many (least : Nat) (c : Codec α) : Codec (List α) where
  read v := match v.asRow? with
    | none => .refuse .notTuple
    | some items =>
        (readItems c 0 items).alsoRefuse (countEntries least (validCount c items))
  write items := .tuple (items.map c.write)

def names (least : Nat) : Codec (List String) := many least name

/-- Rows as they are stored; what they hold is checked across fields. -/
def rows (least : Nat) : Codec (List Value) := many least ⟨fun v => .accepted v.freezeRow, id⟩

/-- A part of a pair that may be missing. -/
def readPart (c : Codec α) (i : Nat) (v? : Option Value) : Verdict α :=
  (match v? with
    | some v => c.read v
    | none => .refuse .missing).under (.index i)

/-- A list or tuple of exactly two parts. -/
def pair (c : Codec α) (d : Codec β) : Codec (α × β) where
  read v := match v.asRow? with
    | none => .refuse .notTuple
    | some items =>
        if 2 < items.length then .refuse (.tooMany 2 items.length)
        else .both Prod.mk (readPart c 0 items[0]?) (readPart d 1 items[1]?)
  write p := .tuple [c.write p.1, d.write p.2]

/-! ## Dictionaries -/

/-- How the key of an entry is shown in a location: texts as they are, integers
and truth values as digits, anything else as printed. -/
def keyText (k : Value) : String :=
  match k.asText?, k.asNumber? with
  | some s, _ => s
  | none, some (.int n) => (Value.int n).printedOrType
  | _, _ => k.printedOrType

/-- Reads each entry, the key before the value. -/
def readEntries : List (Value × Value) → Verdict (List (String × String))
  | [] => .accepted []
  | (k, v) :: rest =>
      .both (· :: ·)
        (.both Prod.mk
          (((text.read k).under .key).under (.name (keyText k)))
          ((text.read v).under (.name (keyText k))))
        (readEntries rest)

/-- A dictionary from texts to texts.  Keys that read as one text are one entry. -/
def texts : Codec (List (String × String)) where
  read
    | .dict entries =>
        (readEntries entries).map Text.Pairs.ofList
    | _ => .refuse .notDict
  write entries := .dict (entries.map fun (k, v) => (.text k, .text v))

end Codec

end VectorClient
