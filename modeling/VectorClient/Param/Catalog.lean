/-
# VectorClient.Param.Catalog — every class of parameters

The parameters of the operations, and the three that are not an operation's:
connections, field schemas and named columns.  A `Parameter` is an accepted
parameter with its class; it can be viewed as fields, compared by its fields,
and carried inside other values.
-/
import VectorClient.Operation
import VectorClient.Value.Equality

namespace VectorClient

set_option autoImplicit false

/-- A class of parameters. -/
inductive ParamClass where
  | operation (o : Operation)
  | connection
  | fieldSchema
  | namedColumn
  deriving DecidableEq, Repr

namespace ParamClass

def all : List ParamClass :=
  [.connection, .fieldSchema, .namedColumn] ++ Operation.all.map .operation

/-- The type of the parameters of a class. -/
def Param : ParamClass → Type
  | .operation o => o.Param
  | .connection => Connection
  | .fieldSchema => FieldSchema
  | .namedColumn => NamedColumn

def blueprint : (c : ParamClass) → Blueprint c.Param
  | .operation o => o.blueprint
  | .connection => Connection.blueprint
  | .fieldSchema => FieldSchema.blueprint
  | .namedColumn => NamedColumn.blueprint

def title (c : ParamClass) : String := c.blueprint.title

def ofTitle? (title : String) : Option ParamClass := all.find? fun c => c.title == title

end ParamClass

/-- An accepted parameter of some class. -/
structure Parameter where
  paramClass : ParamClass
  param : paramClass.Param

namespace Parameter

/-- Builds a parameter of a class from keywords. -/
def build (c : ParamClass) (kw : Keywords) : Verdict Parameter :=
  (c.blueprint.build kw).map fun param => ⟨c, param⟩

/-- The fields as they are stored. -/
def fields (p : Parameter) : Keywords := p.paramClass.blueprint.view p.param

/-- The parameter as a value that others can hold. -/
def toValue : Parameter → Value
  | ⟨.fieldSchema, f⟩ => .field f
  | ⟨.namedColumn, c⟩ => .column c
  | p => .object p.paramClass.title p.fields

/-- The class and the fields of a value that is a parameter object. -/
def ofValue? : Value → Option (String × Keywords)
  | .field f => some (Value.fieldTitle, FieldSchema.blueprint.view f)
  | .column c => some (Value.columnTitle, NamedColumn.blueprint.view c)
  | .object title fields => some (title, fields)
  | _ => none

/-- Two parameters are the same if their classes and fields are. -/
def same (p q : Parameter) : Bool := p.toValue.same q.toValue

/-- The type that keeps a parameter from being hashed. -/
def unhashable? (p : Parameter) : Option String := p.toValue.unhashable?

/-- What is read off the fields of a parameter, by name. -/
def derived : Parameter → List (String × Value)
  | ⟨.connection, p⟩ => [("target", .text (Connection.target p))]
  | ⟨.namedColumn, p⟩ =>
      let dimension := (NamedColumn.column p).dimension?
      [("row_count", Value.int (NamedColumn.column p).rowCount),
       ("dimension", (dimension.map fun (n : Nat) => Value.int n).getD .none)]
  | ⟨.operation .insert, p⟩ => [("row_count", Value.int (Insertion.rowCount p))]
  | ⟨.operation .search, p⟩ =>
      [("vector_type", .member (.dataType (Search.vectors p).kind.dataType))]
  | ⟨.operation .calcDistance, p⟩ =>
      [("vector_type", .member (.dataType (Distance.left p).kind.dataType))]
  | ⟨.operation .showCollections, p⟩ =>
      [("show_type", .member (.showType (CollectionSet.showType p)))]
  | ⟨.operation .showPartitions, p⟩ =>
      [("show_type", .member (.showType (PartitionSet.showType p)))]
  | _ => []

end Parameter

end VectorClient
