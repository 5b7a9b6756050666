/-
# VectorClient.Request.Rows — rows and vectors on the wire

A column travels as one array of its type.  Vectors are laid end to end beside
their dimension, so a reader cuts the array into rows again.
-/
import VectorClient.Param.Lookup
import VectorClient.Param.Rows
import VectorClient.Request.Fault
import VectorClient.Request.Pairs

namespace VectorClient

set_option autoImplicit false

open Wire.Message

/-- The packed four-byte numbers of a list. -/
def Request.singles (numbers : List Number) : Except Request.Fault (List (List UInt8)) :=
  Request.each (fun n => (Request.double n).map fun d =>
    Wire.floatBytes (d.convert .single)) numbers

/-- The packed eight-byte numbers of a list. -/
def Request.doubles (numbers : List Number) : Except Request.Fault (List (List UInt8)) :=
  Request.each (fun n => (Request.double n).map Wire.floatBytes) numbers

namespace Batch

/-- The vectors of a batch end to end, as the one array that holds them. -/
def array : Batch → Except Request.Fault Wire.Message
  | .binary rows => .ok (present 3 rows.flatten)
  | .float rows =>
      (Request.singles rows.flatten).map fun elements => nested 2 (packed 1 elements)

/-- The vectors of a batch end to end, behind their dimension. -/
def toMessage (b : Batch) : Except Request.Fault Wire.Message :=
  (Request.signed .bits64 1 b.dimension).bind fun dimension =>
    b.array.map fun vectors => dimension ++ vectors

/-- The batch as one side of a distance. -/
def toOperand (b : Batch) : Except Request.Fault Wire.Message := b.toMessage.map (nested 2)

/-- The bytes of each target vector. -/
def targets : Batch → Except Request.Fault (List (List UInt8))
  | .binary rows => .ok rows
  | .float rows =>
      Request.each (fun row => (Request.each Request.component row).map List.flatten) rows

/-- The target vectors of a search as one tagged group. -/
def placeholderGroup (b : Batch) : Except Request.Fault Wire.Message :=
  b.targets.map fun values =>
    nested 1 (text 1 Defaults.placeholderTag ++ natural 2 b.kind.dataType.number ++
      repeated 3 values)

end Batch

namespace Column

/-- The array of a scalar column, or the vectors of a vector column. -/
def toMessage : Column → Except Request.Fault Wire.Message
  | .bools rows => .ok (array 1 (packed 1 (rows.map fun b => Wire.varint b.toNat)))
  | .ints .bits64 rows => .ok (array 3 (packed 1 (rows.map element)))
  | .ints _ rows => .ok (array 2 (packed 1 (rows.map element)))
  | .numbers .single rows => (Request.singles rows).map fun elements => array 4 (packed 1 elements)
  | .numbers .double rows => (Request.doubles rows).map fun elements => array 5 (packed 1 elements)
  | .texts _ rows => .ok (array 6 (Wire.Message.texts 1 rows))
  | .vectors batch => batch.toMessage.map (nested 4)
where
  element (n : Int) : List UInt8 := Wire.varint (Wire.complement n)
  array (field : Nat) (m : Wire.Message) : Wire.Message := nested 3 (nested field m)

end Column

def NamedColumn.toMessage (c : NamedColumn) : Except Request.Fault Wire.Message :=
  c.column.toMessage.map fun rows =>
    natural 1 c.column.dataType.number ++ text 2 c.name ++ rows

def Insertion.request (p : Insertion) : Except Request.Fault Wire.Message :=
  (Request.each NamedColumn.toMessage p.columns).bind fun columns =>
    (Request.unsigned 32 7 p.rowCount).map fun rowCount =>
      text 3 p.collection ++ text 4 p.partitionName ++ messages 5 columns ++ rowCount

namespace Search

/-- What the server is told by name. -/
def pairs (p : Search) : Except Request.Fault Text.Pairs :=
  (Request.decimal p.topK).bind fun topK =>
    (Request.decimal p.roundDecimal).map fun roundDecimal =>
      [(Defaults.fieldKey, p.field), (Defaults.topKKey, topK),
       (Defaults.metricTypeKey, Vocabulary.word p.metric),
       (Defaults.roundDecimalKey, roundDecimal), (Defaults.paramsKey, p.params)]

/-- Expressions are written in the server's boolean language. -/
def dialect : Nat := 1

def request (p : Search) : Except Request.Fault Wire.Message :=
  p.vectors.placeholderGroup.bind fun group =>
    p.pairs.bind fun settings =>
      (Request.unsigned 64 10 p.travelTimestamp).bind fun travel =>
        (Request.unsigned 64 11 p.guaranteeTimestamp).map fun guarantee =>
          text 3 p.collection ++ texts 4 p.partitions ++ text 5 p.expr ++ bytes 6 group.encode ++
            natural 7 dialect ++ texts 8 p.outFields ++ Request.pairs 9 settings ++ travel ++
              guarantee

end Search

def Query.request (p : Query) : Except Request.Fault Wire.Message :=
  (Request.unsigned 64 7 p.travelTimestamp).bind fun travel =>
    (Request.unsigned 64 8 p.guaranteeTimestamp).map fun guarantee =>
      text 3 p.collection ++ text 4 p.expr ++ texts 5 p.outFields ++ texts 6 p.partitions ++
        travel ++ guarantee

def Distance.request (p : Distance) : Except Request.Fault Wire.Message :=
  p.left.toOperand.bind fun left =>
    p.right.toOperand.map fun right =>
      nested 2 left ++ nested 3 right ++
        Request.pairs 4 [(Defaults.metricTypeKey, Vocabulary.word p.metric)]

end VectorClient
