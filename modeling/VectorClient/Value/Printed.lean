/-
# VectorClient.Value.Printed — the text of a value

`Value.printed?` is how a message shows a value: texts quoted, sequences in
brackets, a member as its qualified name and word, a parameter object as its
class and its fields.  A value that holds an integer with too many digits
(`Number.Printable`) has no text.  `Value.display?` is the same except at the
top, where a text stands for itself, a member is its qualified name, and a
parameter object is its fields alone.
-/
import VectorClient.Text.Quoted
import VectorClient.Value.Basic

namespace VectorClient

set_option autoImplicit false

open Text

/-- A member between angle brackets. -/
def Member.printed (m : Member) : String :=
  "<" ++ m.qualified ++ ": " ++ quoted m.word ++ ">"

/-- The text of each field of a schema. -/
def FieldSchema.texts? (f : FieldSchema) : Option (List String) :=
  let dimension? := match f.dimension with
    | none => some noneText
    | some n => (Number.int n).text?
  dimension?.map fun dimension =>
    [fieldText "name" (quoted f.name),
     fieldText "data_type" (Member.dataType f.dataType).printed,
     fieldText "description" (quoted f.description),
     fieldText "primary_key" (truthText f.primaryKey),
     fieldText "auto_id" (truthText f.autoId),
     fieldText "dimension" dimension,
     fieldText "type_params" (dictText (f.typeParams.map fun (k, v) =>
       pairText (quoted k) (quoted v)))]

/-- The text of each row of a column, as the row is stored. -/
def Column.texts? : Column → Option (List String)
  | .bools rows => some (rows.map truthText)
  | .ints _ rows => rows.mapM fun n => (Number.int n).text?
  | .numbers _ rows => rows.mapM Number.text?
  | .texts _ rows => some (rows.map quoted)
  | .vectors (.binary rows) => some (rows.map quotedBytes)
  | .vectors (.float rows) => rows.mapM fun row => (row.mapM Number.text?).map tupleText

/-- The text of each field of a column. -/
def NamedColumn.texts? (c : NamedColumn) : Option (List String) :=
  c.column.texts?.map fun rows =>
    [fieldText "name" (quoted c.name),
     fieldText "data_type" (Member.dataType c.column.dataType).printed,
     fieldText "values" (tupleText rows)]

namespace Value

mutual

/-- The text of a value, if it has one. -/
def printed? : Value → Option String
  | .none => some noneText
  | .bool b => some (truthText b)
  | .number n => n.text?
  | .text s => some (quoted s)
  | .bytes bs => some (quotedBytes bs)
  | .byteArray bs => some ("bytearray(" ++ quotedByteArray bs ++ ")")
  | .list items => (printedItems? items).map fun texts => bracketed "[" texts "]"
  | .tuple items => (printedItems? items).map tupleText
  | .dict entries => (printedEntries? entries).map dictText
  | .member m => some m.printed
  | .field f => f.texts?.map (objectText fieldTitle)
  | .column c => c.texts?.map (objectText columnTitle)
  | .object title fields => (printedFields? fields).map (objectText title)

def printedItems? : List Value → Option (List String)
  | [] => some []
  | v :: rest => do return (← printed? v) :: (← printedItems? rest)

def printedEntries? : List (Value × Value) → Option (List String)
  | [] => some []
  | (k, v) :: rest => do
      return pairText (← printed? k) (← printed? v) :: (← printedEntries? rest)

def printedFields? : List (String × Value) → Option (List String)
  | [] => some []
  | (name, v) :: rest => do return fieldText name (← printed? v) :: (← printedFields? rest)

end

/-- A message that shows a value.  Of a value without a text only that is said. -/
def inMessage (v : Value) (message : (shown : String) → String) : String :=
  (v.printed?.map message).getD Number.tooManyDigits

/-- The text of a value where it stands by itself, if it has one. -/
def display? : Value → Option String
  | .text s => some s
  | .member m => some m.qualified
  | .field f => f.texts?.map (String.intercalate " ")
  | .column c => c.texts?.map (String.intercalate " ")
  | .object _ fields => (printedFields? fields).map (String.intercalate " ")
  | v => v.printed?

/-- The text of a value where it stands by itself, or what is said of one that has none. -/
def display (v : Value) : String := v.display?.getD Number.tooManyDigits

/-- The text of a value, or its type if it has none. -/
def printedOrType (v : Value) : String :=
  v.printed?.getD ("<unprintable " ++ v.typeName ++ " object>")

end Value

end VectorClient
