/-
# VectorClient.Client.Response — what a server answers

A response is a message of named fields.  `Response.ofValue` reads one from a
written value by the shape of its type (`Shape.fields`): fields at their
default are left out, as they are on the wire, numbers of four bytes are
rounded to them, and a nested message that was given is kept even if it is
empty.  The views (`int`, `text`, `ints`, …) give a field's value, or its
default if it is absent.
-/
import VectorClient.Value.Basic

namespace VectorClient

set_option autoImplicit false

/-- The content of a field. -/
inductive Datum where
  | int (n : Int)
  | truth (b : Bool)
  | text (s : String)
  | double (d : Number.Double)
  | list (items : List Datum)
  | message (fields : List (String × Datum))
  /-- Messages by key. -/
  | entries (es : List (String × Datum))
  deriving Repr

/-- The fields of a message that are not at their default. -/
abbrev Datum.Fields := List (String × Datum)

namespace Datum.Fields

def find? (fields : Fields) (name : String) : Option Datum :=
  (List.find? (fun e => e.1 == name) fields).map Prod.snd

def int (fields : Fields) (name : String) : Int :=
  match fields.find? name with
  | some (.int n) => n
  | _ => 0

def text (fields : Fields) (name : String) : String :=
  match fields.find? name with
  | some (.text s) => s
  | _ => ""

def truth (fields : Fields) (name : String) : Bool :=
  match fields.find? name with
  | some (.truth b) => b
  | _ => false

def message (fields : Fields) (name : String) : Fields :=
  match fields.find? name with
  | some (.message inner) => inner
  | _ => []

def list (fields : Fields) (name : String) : List Datum :=
  match fields.find? name with
  | some (.list items) => items
  | _ => []

def ints (fields : Fields) (name : String) : List Int :=
  (fields.list name).filterMap fun
    | .int n => some n
    | _ => none

def texts (fields : Fields) (name : String) : List String :=
  (fields.list name).filterMap fun
    | .text s => some s
    | _ => none

def messages (fields : Fields) (name : String) : List Fields :=
  (fields.list name).filterMap fun
    | .message inner => some inner
    | _ => none

/-- The messages of a field by key. -/
def entries (fields : Fields) (name : String) : List (String × Fields) :=
  match fields.find? name with
  | some (.entries es) => es.filterMap fun
    | (key, .message inner) => some (key, inner)
    | _ => none
  | _ => []

end Datum.Fields

/-- A message of some type. -/
structure Response where
  title : String
  fields : Datum.Fields
  deriving Repr

/-- What a call reports about itself; code zero is success. -/
structure Status where
  code : Int
  reason : String
  deriving DecidableEq, Repr

namespace Response

/-- The title of the type that holds nothing but a status. -/
def statusTitle : String := "Status"

/-- The status of a response: the response itself, or its field of that name. -/
def status (r : Response) : Status :=
  let fields := if r.title = statusTitle then r.fields else r.fields.message "status"
  ⟨fields.int "error_code", fields.text "reason"⟩

end Response

/-- The shape of one value in a message. -/
inductive Shape where
  | int | truth | text
  /-- A number of four bytes. -/
  | single
  | message (title : String)
  deriving DecidableEq, Repr

/-- How often a field occurs. -/
inductive Occurrence where
  | once | repeated
  /-- By key. -/
  | keyed
  deriving DecidableEq, Repr

namespace Shape

/-- The fields of a type of message. -/
def fields : String → List (String × Occurrence × Shape)
  | "Status" => [("error_code", .once, .int), ("reason", .once, .text), ("code", .once, .int)]
  | "BoolResponse" => [("status", .once, .message "Status"), ("value", .once, .truth)]
  | "CalcDistanceResults" =>
      [("status", .once, .message "Status"), ("float_dist", .once, .message "FloatArray")]
  | "DescribeCollectionResponse" =>
      [("status", .once, .message "Status"), ("collectionID", .once, .int),
       ("shards_num", .once, .int), ("aliases", .repeated, .text),
       ("collection_name", .once, .text)]
  | "DescribeIndexResponse" =>
      [("status", .once, .message "Status"),
       ("index_descriptions", .repeated, .message "IndexDescription")]
  | "FieldData" =>
      [("type", .once, .int), ("field_name", .once, .text),
       ("scalars", .once, .message "ScalarField")]
  | "FloatArray" => [("data", .repeated, .single)]
  | "FlushResponse" =>
      [("status", .once, .message "Status"), ("coll_segIDs", .keyed, .message "LongArray")]
  | "GetCollectionStatisticsResponse" =>
      [("status", .once, .message "Status"), ("stats", .repeated, .message "KeyValuePair")]
  | "GetIndexBuildProgressResponse" =>
      [("status", .once, .message "Status"), ("indexed_rows", .once, .int),
       ("total_rows", .once, .int)]
  | "GetIndexStateResponse" =>
      [("status", .once, .message "Status"), ("state", .once, .int), ("fail_reason", .once, .text)]
  | "GetMetricsResponse" =>
      [("status", .once, .message "Status"), ("response", .once, .text),
       ("component_name", .once, .text)]
  | "GetPartitionStatisticsResponse" =>
      [("status", .once, .message "Status"), ("stats", .repeated, .message "KeyValuePair")]
  | "GetPersistentSegmentInfoResponse" =>
      [("status", .once, .message "Status"),
       ("infos", .repeated, .message "PersistentSegmentInfo")]
  | "GetQuerySegmentInfoResponse" =>
      [("status", .once, .message "Status"), ("infos", .repeated, .message "QuerySegmentInfo")]
  | "IDs" => [("int_id", .once, .message "LongArray"), ("str_id", .once, .message "StringArray")]
  | "IndexDescription" =>
      [("index_name", .once, .text), ("indexID", .once, .int),
       ("params", .repeated, .message "KeyValuePair"), ("field_name", .once, .text)]
  | "KeyValuePair" => [("key", .once, .text), ("value", .once, .text)]
  | "LongArray" => [("data", .repeated, .int)]
  | "MutationResult" =>
      [("status", .once, .message "Status"), ("IDs", .once, .message "IDs"),
       ("succ_index", .repeated, .int), ("insert_cnt", .once, .int), ("delete_cnt", .once, .int),
       ("timestamp", .once, .int)]
  | "PersistentSegmentInfo" =>
      [("segmentID", .once, .int), ("collectionID", .once, .int), ("num_rows", .once, .int),
       ("state", .once, .int)]
  | "QueryResults" =>
      [("status", .once, .message "Status"), ("fields_data", .repeated, .message "FieldData"),
       ("collection_name", .once, .text)]
  | "QuerySegmentInfo" =>
      [("segmentID", .once, .int), ("mem_size", .once, .int), ("index_name", .once, .text),
       ("nodeID", .once, .int)]
  | "ScalarField" => [("long_data", .once, .message "LongArray")]
  | "SearchResultData" =>
      [("num_queries", .once, .int), ("top_k", .once, .int), ("scores", .repeated, .single),
       ("ids", .once, .message "IDs"), ("topks", .repeated, .int)]
  | "SearchResults" =>
      [("status", .once, .message "Status"), ("results", .once, .message "SearchResultData"),
       ("collection_name", .once, .text)]
  | "ShowCollectionsResponse" =>
      [("status", .once, .message "Status"), ("collection_names", .repeated, .text),
       ("collection_ids", .repeated, .int), ("inMemory_percentages", .repeated, .int)]
  | "ShowPartitionsResponse" =>
      [("status", .once, .message "Status"), ("partition_names", .repeated, .text),
       ("partitionIDs", .repeated, .int), ("inMemory_percentages", .repeated, .int)]
  | "StringArray" => [("data", .repeated, .text)]
  | _ => []

end Shape

namespace Datum

/-- Is the content what an absent field stands for? -/
def isDefault : Datum → Bool
  | .int n => n == 0
  | .truth b => !b
  | .text s => s.isEmpty
  | .double d => d == Number.Double.zero
  | .list items => items.isEmpty
  | .entries es => es.isEmpty
  | .message _ => false

/-- A number rounded to four bytes. -/
def single (n : Number) : Datum :=
  .double ((n.toDouble.convert .single : Number.Single).convert .double)

/-- A scalar of a shape. -/
def scalar? : Shape → Value → Option Datum
  | .int, .number (.int n) => some (.int n)
  | .int, .bool b => some (.int b.toInt)
  | .truth, .bool b => some (.truth b)
  | .text, .text s => some (.text s)
  | .single, .number n => some (single n)
  | _, _ => none

mutual

/-- The content of a field of a shape, however often it occurs. -/
def ofValue? (occurrence : Occurrence) (shape : Shape) : Value → Option Datum
  | .dict fields => match occurrence, shape with
    | .once, .message title => some (.message (ofFields title fields))
    | .keyed, shape => some (.entries (ofEntries shape fields))
    | _, _ => none
  | .list items => if occurrence = .repeated then some (.list (ofItems shape items)) else none
  | v => if occurrence = .once then scalar? shape v else none

def ofItems (shape : Shape) : List Value → List Datum
  | [] => []
  | v :: rest => (ofValue? .once shape v).toList ++ ofItems shape rest

def ofEntries (shape : Shape) : List (Value × Value) → List (String × Datum)
  | [] => []
  | (k, v) :: rest =>
      match k.asText?, ofValue? .once shape v with
      | some key, some d => (key, d) :: ofEntries shape rest
      | _, _ => ofEntries shape rest

/-- The fields of a message of some type that are not at their default. -/
def ofFields (title : String) : List (Value × Value) → List (String × Datum)
  | [] => []
  | (k, v) :: rest =>
      let here := match (Shape.fields title).find? (fun e => some e.1 == k.asText?) with
        | some (name, occurrence, shape) =>
            match ofValue? occurrence shape v with
            | some d => if d.isDefault then [] else [(name, d)]
            | none => []
        | none => []
      here ++ ofFields title rest

end

end Datum

/-- Reads a response of some type from its written fields. -/
def Response.ofValue (title : String) : Value → Response
  | .dict fields => ⟨title, Datum.ofFields title fields⟩
  | _ => ⟨title, []⟩

end VectorClient
