/-
# VectorClient.Vocabulary — the closed vocabularies of requests and results

Six enumerations whose members are written as upper-case words.  Each is a
`Vocabulary`: a title, its members in order, and the word of each member.  A
word is read by looking it up (`Vocabulary.ofWord?`), and is read as the one
member whose word it is (`Vocabulary.ofWord?_eq_some_iff`).  `Member` is a member
of any of the six.
-/
namespace VectorClient

set_option autoImplicit false

/-- The type of the data in one field of a collection. -/
inductive DataType where
  | unset | bool | int8 | int16 | int32 | int64 | float | double | string | varchar
  | binaryVector | floatVector
  deriving DecidableEq, Repr

/-- The algorithm of a vector index. -/
inductive IndexType where
  | invalid | flat | ivfFlat | ivfSq8 | ivfPq | hnsw | rhnswFlat | rhnswPq | rhnswSq | annoy
  | binFlat | binIvfFlat
  deriving DecidableEq, Repr

/-- The distance between vectors. -/
inductive MetricType where
  | invalid | l2 | innerProduct | hamming | jaccard | tanimoto | substructure | superstructure
  deriving DecidableEq, Repr

/-- Which collections or partitions a listing reports. -/
inductive ShowType where
  | all | inMemory
  deriving DecidableEq, Repr

/-- Whether a client still takes calls. -/
inductive ConnectionState where
  | opened | closed
  deriving DecidableEq, Repr

/-- The outcome class of an operation. -/
inductive ResultStatus where
  | success | serverError | transportError | clientNotConnected | waitTimeout
  deriving DecidableEq, Repr

/-- A closed set of words.  Every member is listed, and its word is its alone. -/
class Vocabulary (α : Type) where
  title : String
  members : List α
  word : α → String
  find_word (m : α) : (members.find? fun n => word n == word m) = some m

namespace Vocabulary

variable {α : Type} [Vocabulary α]

def words (α : Type) [Vocabulary α] : List String := (members : List α).map word

def ofWord? (w : String) : Option α := members.find? fun m => word m == w

@[simp]
theorem ofWord?_word (m : α) : ofWord? (word m) = some m := find_word m

theorem ofWord?_eq_some_iff {w : String} {m : α} : ofWord? w = some m ↔ word m = w := by
  constructor
  · intro found
    simpa using List.find?_some found
  · rintro rfl
    exact find_word m

end Vocabulary

instance : Vocabulary DataType where
  title := "DataType"
  members := [.unset, .bool, .int8, .int16, .int32, .int64, .float, .double, .string, .varchar,
    .binaryVector, .floatVector]
  word
    | .unset => "NONE" | .bool => "BOOL" | .int8 => "INT8" | .int16 => "INT16"
    | .int32 => "INT32" | .int64 => "INT64" | .float => "FLOAT" | .double => "DOUBLE"
    | .string => "STRING" | .varchar => "VARCHAR" | .binaryVector => "BINARY_VECTOR"
    | .floatVector => "FLOAT_VECTOR"
  find_word m := by cases m <;> rfl

instance : Vocabulary IndexType where
  title := "IndexType"
  members := [.invalid, .flat, .ivfFlat, .ivfSq8, .ivfPq, .hnsw, .rhnswFlat, .rhnswPq, .rhnswSq,
    .annoy, .binFlat, .binIvfFlat]
  word
    | .invalid => "INVALID" | .flat => "FLAT" | .ivfFlat => "IVF_FLAT" | .ivfSq8 => "IVF_SQ8"
    | .ivfPq => "IVF_PQ" | .hnsw => "HNSW" | .rhnswFlat => "RHNSW_FLAT" | .rhnswPq => "RHNSW_PQ"
    | .rhnswSq => "RHNSW_SQ" | .annoy => "ANNOY" | .binFlat => "BIN_FLAT"
    | .binIvfFlat => "BIN_IVF_FLAT"
  find_word m := by cases m <;> rfl

instance : Vocabulary MetricType where
  title := "MetricType"
  members := [.invalid, .l2, .innerProduct, .hamming, .jaccard, .tanimoto, .substructure,
    .superstructure]
  word
    | .invalid => "INVALID" | .l2 => "L2" | .innerProduct => "IP" | .hamming => "HAMMING"
    | .jaccard => "JACCARD" | .tanimoto => "TANIMOTO" | .substructure => "SUBSTRUCTURE"
    | .superstructure => "SUPERSTRUCTURE"
  find_word m := by cases m <;> rfl

instance : Vocabulary ShowType where
  title := "ShowType"
  members := [.all, .inMemory]
  word
    | .all => "ALL" | .inMemory => "IN_MEMORY"
  find_word m := by cases m <;> rfl

instance : Vocabulary ConnectionState where
  title := "ConnectionState"
  members := [.opened, .closed]
  word
    | .opened => "OPEN" | .closed => "CLOSED"
  find_word m := by cases m <;> rfl

instance : Vocabulary ResultStatus where
  title := "ResultStatus"
  members := [.success, .serverError, .transportError, .clientNotConnected, .waitTimeout]
  word
    | .success => "SUCCESS" | .serverError => "SERVER_ERROR"
    | .transportError => "TRANSPORT_ERROR" | .clientNotConnected => "CLIENT_NOT_CONNECTED"
    | .waitTimeout => "WAIT_TIMEOUT"
  find_word m := by cases m <;> rfl

/-- The two kinds of vectors. -/
inductive VectorKind where
  | binary | float
  deriving DecidableEq, Repr

def VectorKind.dataType : VectorKind → DataType
  | .binary => .binaryVector
  | .float => .floatVector

namespace DataType

/-- The kind of vectors that a field of the type holds, if it holds vectors. -/
def vectorKind? : DataType → Option VectorKind
  | .binaryVector => some .binary
  | .floatVector => some .float
  | _ => none

def isVector (t : DataType) : Bool := t.vectorKind?.isSome

/-- The number of the type on the wire. -/
def number : DataType → Nat
  | .unset => 0 | .bool => 1 | .int8 => 2 | .int16 => 3 | .int32 => 4 | .int64 => 5
  | .float => 10 | .double => 11 | .string => 20 | .varchar => 21
  | .binaryVector => 100 | .floatVector => 101

end DataType

/-- The number of the listing on the wire. -/
def ShowType.number : ShowType → Nat
  | .all => 0
  | .inMemory => 1

/-- The kind of vectors that a metric compares. -/
def MetricType.kind : MetricType → VectorKind
  | .hamming | .jaccard | .tanimoto | .substructure | .superstructure => .binary
  | .invalid | .l2 | .innerProduct => .float

/-- A member of any of the vocabularies. -/
inductive Member where
  | dataType (m : DataType)
  | indexType (m : IndexType)
  | metricType (m : MetricType)
  | showType (m : ShowType)
  | connectionState (m : ConnectionState)
  | resultStatus (m : ResultStatus)
  deriving DecidableEq, Repr

namespace Member

def title : Member → String
  | .dataType _ => Vocabulary.title DataType
  | .indexType _ => Vocabulary.title IndexType
  | .metricType _ => Vocabulary.title MetricType
  | .showType _ => Vocabulary.title ShowType
  | .connectionState _ => Vocabulary.title ConnectionState
  | .resultStatus _ => Vocabulary.title ResultStatus

def word : Member → String
  | .dataType m => Vocabulary.word m
  | .indexType m => Vocabulary.word m
  | .metricType m => Vocabulary.word m
  | .showType m => Vocabulary.word m
  | .connectionState m => Vocabulary.word m
  | .resultStatus m => Vocabulary.word m

/-- The words of every vocabulary by title. -/
def catalog : List (String × List String) :=
  [(Vocabulary.title DataType, Vocabulary.words DataType),
   (Vocabulary.title IndexType, Vocabulary.words IndexType),
   (Vocabulary.title MetricType, Vocabulary.words MetricType),
   (Vocabulary.title ShowType, Vocabulary.words ShowType),
   (Vocabulary.title ConnectionState, Vocabulary.words ConnectionState),
   (Vocabulary.title ResultStatus, Vocabulary.words ResultStatus)]

/-- The member with a word in the vocabulary of a title. -/
def find? (title word : String) : Option Member :=
  if title = Vocabulary.title DataType then (Vocabulary.ofWord? word).map .dataType
  else if title = Vocabulary.title IndexType then (Vocabulary.ofWord? word).map .indexType
  else if title = Vocabulary.title MetricType then (Vocabulary.ofWord? word).map .metricType
  else if title = Vocabulary.title ShowType then (Vocabulary.ofWord? word).map .showType
  else if title = Vocabulary.title ConnectionState then
    (Vocabulary.ofWord? word).map .connectionState
  else if title = Vocabulary.title ResultStatus then (Vocabulary.ofWord? word).map .resultStatus
  else none

/-- The word in brackets that names the member with its vocabulary. -/
def qualified (m : Member) : String := m.title ++ "." ++ m.word

/-- The number on the wire, for the vocabularies that have one. -/
def number? : Member → Option Nat
  | .dataType m => some m.number
  | .showType m => some m.number
  | _ => none

end Member

end VectorClient
