/-
# VectorClient.Proofs.Wire.Messages — reading messages off the wire

`Message.decode?` reads the records of a message back (`decode?_encode`).  What a
message says of a field is then a view of its records: a field that occurs
once has its last value, or its default if it is absent; a repeated field has
all values in order, packed or not; of fields that exclude each other the last
one written counts.

`payloads` is what all views look at.  Each writer of `Wire.Message` has one
lemma about it, so a view of a message that was put together by writers is found by
`simp`.
-/
import VectorClient.Proofs.Number.Bits

namespace VectorClient.Wire

set_option autoImplicit false

/-! ## Records -/

/-- The record at the front, and the bytes behind it.  No request holds records of
other kinds than numbers and runs. -/
def readRecord? (bytes : List UInt8) : Option (Record × List UInt8) :=
  (readVarint? bytes).bind fun (tag, bytes) =>
    if tag % 8 = 0 then
      (readVarint? bytes).map fun (n, bytes) => (⟨tag / 8, .number n⟩, bytes)
    else if tag % 8 = 2 then
      (readVarint? bytes).bind fun (length, bytes) =>
        if length ≤ bytes.length then
          some (⟨tag / 8, .run (bytes.take length)⟩, bytes.drop length)
        else none
    else none

theorem readRecord?_encode (r : Record) (rest : List UInt8) :
    readRecord? (r.encode ++ rest) = some (r, rest) := by
  obtain ⟨field, payload⟩ := r
  cases payload with
  | number n =>
      have kind : 8 * field % 8 = 0 := by omega
      have number : 8 * field / 8 = field := by omega
      simp [Record.encode, readRecord?, kind, number]
  | run bytes =>
      have kind : (8 * field + 2) % 8 = 2 := by omega
      have number : (8 * field + 2) / 8 = field := by omega
      simp [Record.encode, readRecord?, kind, number]

theorem Record.encode_ne_nil (r : Record) : r.encode ≠ [] := by
  obtain ⟨field, payload⟩ := r
  cases payload <;> simp [Record.encode, varint_ne_nil]

namespace Message

/-- The records of a message. -/
def decode? (bytes : List UInt8) : Option Message := readAll? readRecord? bytes

/-- A message is read back from its bytes. -/
@[simp]
theorem decode?_encode (m : Message) : decode? m.encode = some m :=
  readAll?_flatMap (fun r _ rest => readRecord?_encode r rest) fun r _ => r.encode_ne_nil

/-! ## Payloads -/

/-- What the records of a field carry, in order. -/
def payloads (m : Message) (field : Nat) : List Payload :=
  (m.filter fun r => r.field == field).map Record.payload

/-- The payloads of a natural number: none for the default. -/
def naturalPayloads (n : Nat) : List Payload := if n = 0 then [] else [.number n]

/-- The payloads of a run of bytes: none for the default. -/
def bytesPayloads (bs : List UInt8) : List Payload := if bs.isEmpty then [] else [.run bs]

section

variable (field other n : Nat) (bs : List UInt8) (m m' : Message)

@[simp]
theorem payloads_append : payloads (m ++ m') field = payloads m field ++ payloads m' field := by
  simp [payloads]

@[simp]
theorem payloads_natural :
    payloads (natural other n) field = if other = field then naturalPayloads n else [] := by
  unfold natural naturalPayloads
  split <;> by_cases same : other = field <;> simp [payloads, same]

@[simp]
theorem payloads_integer (i : Int) :
    payloads (integer other i) field =
      if other = field then naturalPayloads (complement i) else [] :=
  payloads_natural field other _

@[simp]
theorem payloads_truth (b : Bool) :
    payloads (truth other b) field = if other = field then naturalPayloads b.toNat else [] :=
  payloads_natural field other _

@[simp]
theorem payloads_bytes :
    payloads (bytes other bs) field = if other = field then bytesPayloads bs else [] := by
  unfold bytes bytesPayloads
  split <;> by_cases same : other = field <;> simp [payloads, same]

@[simp]
theorem payloads_text (s : String) :
    payloads (text other s) field = if other = field then bytesPayloads (Text.utf8 s) else [] :=
  payloads_bytes field other _

@[simp]
theorem payloads_packed (elements : List (List UInt8)) :
    payloads (packed other elements) field =
      if other = field then bytesPayloads elements.flatten else [] :=
  payloads_bytes field other _

@[simp]
theorem payloads_repeated (elements : List (List UInt8)) :
    payloads (repeated other elements) field =
      if other = field then elements.map .run else [] := by
  by_cases same : other = field
  · subst same
    induction elements with
    | nil => simp [payloads, repeated]
    | cons bs rest ih => simpa [payloads, repeated] using ih
  · simp [payloads, repeated, same, List.filter_map, Function.comp_def]

@[simp]
theorem payloads_texts (ss : List String) :
    payloads (texts other ss) field = if other = field then (ss.map Text.utf8).map .run else [] :=
  payloads_repeated field other _

@[simp]
theorem payloads_messages (ms : List Message) :
    payloads (messages other ms) field = if other = field then (ms.map encode).map .run else [] :=
  payloads_repeated field other _

@[simp]
theorem payloads_present :
    payloads (present other bs) field = if other = field then [.run bs] else [] :=
  payloads_repeated field other [bs]

@[simp]
theorem payloads_nested :
    payloads (nested other m) field = if other = field then [.run m.encode] else [] :=
  payloads_present field other _

end

/-! ## Views -/

/-- The run that a payload carries; a number carries none. -/
def run? : Payload → Option (List UInt8)
  | .run bs => some bs
  | .number _ => none

def number? : Payload → Option Nat
  | .number n => some n
  | .run _ => none

/-- The runs of a field. -/
def runs (m : Message) (field : Nat) : List (List UInt8) := (m.payloads field).filterMap run?

/-- The number of a field that occurs once. -/
def numberOf (m : Message) (field : Nat) : Nat :=
  ((m.payloads field).filterMap number?).getLast?.getD 0

/-- The truth value of a field that occurs once. -/
def truthOf (m : Message) (field : Nat) : Bool := m.numberOf field != 0

/-- The bytes of a field that occurs once. -/
def bytesOf (m : Message) (field : Nat) : List UInt8 := (m.runs field).getLast?.getD []

def textOf? (m : Message) (field : Nat) : Option String := Text.ofUtf8? (m.bytesOf field)

def textsOf? (m : Message) (field : Nat) : Option (List String) :=
  (m.runs field).mapM Text.ofUtf8?

/-- The message of a field that occurs once.  What is written of it more than once is
one message. -/
def messageOf? (m : Message) (field : Nat) : Option Message := decode? (m.runs field).flatten

def messagesOf? (m : Message) (field : Nat) : Option (List Message) :=
  (m.runs field).mapM decode?

/-- The numbers that a payload carries, packed or alone. -/
def numbers? : Payload → Option (List Nat)
  | .number n => some [n]
  | .run bs => readAll? readVarint? bs

/-- The numbers of a repeated field. -/
def numbersOf? (m : Message) (field : Nat) : Option (List Nat) :=
  ((m.payloads field).mapM numbers?).map List.flatten

/-- The floating-point numbers of a repeated field, packed. -/
def floatsOf? (f : Number.BinaryFormat) (m : Message) (field : Nat) :
    Option (List (Number.Binary f)) :=
  ((m.runs field).mapM (readAll? (readFloat? f))).map List.flatten

/-- Of fields that exclude each other, the one that is set. -/
def member? (m : Message) (fields : List Nat) : Option Nat :=
  (m.reverse.find? fun r => fields.contains r.field).map Record.field

/-! ## Views of what was written -/

section

variable {m : Message} {field : Nat}

theorem mapM_map_eq_some {α β : Type} {write : α → β} {read? : β → Option α}
    (reads : ∀ a, read? (write a) = some a) (as : List α) :
    (as.map write).mapM read? = some as := by
  induction as with
  | nil => rfl
  | cons a as ih => simp [reads, ih]

theorem runs_eq {elements : List (List UInt8)}
    (written : m.payloads field = elements.map .run) : m.runs field = elements := by
  rw [runs, written, List.filterMap_map]
  exact List.filterMap_some

theorem numberOf_eq {n : Nat} (written : m.payloads field = naturalPayloads n) :
    m.numberOf field = n := by
  rw [numberOf, written, naturalPayloads]
  by_cases zero : n = 0 <;> simp [zero, number?]

theorem truthOf_eq {b : Bool} (written : m.payloads field = naturalPayloads b.toNat) :
    m.truthOf field = b := by
  rw [truthOf, numberOf_eq written]
  cases b <;> rfl

theorem bytesOf_eq {bs : List UInt8}
    (written : m.payloads field = bytesPayloads bs ∨ m.payloads field = [.run bs]) :
    m.bytesOf field = bs := by
  rw [bytesOf, runs]
  rcases written with written | written
  · rw [written, bytesPayloads]
    by_cases empty : bs = [] <;> simp [empty, run?]
  · simp [written, run?]

theorem textOf?_eq {s : String} (written : m.payloads field = bytesPayloads (Text.utf8 s)) :
    m.textOf? field = some s := by
  rw [textOf?, bytesOf_eq (.inl written), Text.ofUtf8?_utf8]

theorem textsOf?_eq {ss : List String}
    (written : m.payloads field = (ss.map Text.utf8).map .run) : m.textsOf? field = some ss := by
  rw [textsOf?, runs_eq written, mapM_map_eq_some Text.ofUtf8?_utf8]

theorem messageOf?_eq {inner : Message} (written : m.payloads field = [.run inner.encode]) :
    m.messageOf? field = some inner := by
  have alone : m.runs field = [inner.encode] := runs_eq written
  rw [messageOf?, alone, List.flatten_singleton, decode?_encode]

theorem messagesOf?_eq {inners : List Message}
    (written : m.payloads field = (inners.map encode).map .run) :
    m.messagesOf? field = some inners := by
  rw [messagesOf?, runs_eq written, mapM_map_eq_some decode?_encode]

theorem numbersOf?_eq {ns : List Nat}
    (written : m.payloads field = bytesPayloads (ns.map varint).flatten) :
    m.numbersOf? field = some ns := by
  have read : readAll? readVarint? (ns.map varint).flatten = some ns := by
    rw [← List.flatMap_def]
    exact readAll?_flatMap (fun n _ rest => readVarint?_varint n rest) fun n _ => varint_ne_nil n
  rw [numbersOf?, written, bytesPayloads]
  by_cases empty : (ns.map varint).flatten.isEmpty
  · have none : ns = [] := by
      rw [List.isEmpty_iff.mp empty, readAll?] at read
      simpa using read.symm
    simp [none]
  · simp [empty, numbers?, read]

theorem floatsOf?_eq {f : Number.BinaryFormat} (fills : f.FillsBytes)
    {xs : List (Number.Binary f)}
    (written : m.payloads field = bytesPayloads (xs.map floatBytes).flatten) :
    m.floatsOf? f field = some xs := by
  have read := readFloats_flatten fills xs
  rw [floatsOf?, runs, written, bytesPayloads]
  by_cases empty : (xs.map floatBytes).flatten.isEmpty
  · have none : xs = [] := by
      rw [List.isEmpty_iff.mp empty, readAll?] at read
      simpa using read.symm
    simp [none]
  · simp [empty, read, run?]

/-- Of fields that exclude each other, the one that is written last is set. -/
theorem member?_append_present {fields : List Nat} (before : Message) (bs : List UInt8)
    (among : field ∈ fields) : (before ++ present field bs).member? fields = some field := by
  simp [member?, present, among]

end

end Message

end VectorClient.Wire
