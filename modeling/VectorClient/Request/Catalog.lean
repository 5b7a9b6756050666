/-
# VectorClient.Request.Catalog — the message of every parameter

The message that a parameter becomes on the wire, with the message's type.  A
connection becomes none.
-/
import VectorClient.Param.Catalog
import VectorClient.Request.Basic

namespace VectorClient

set_option autoImplicit false

def Parameter.message? : Parameter → Option (String × Except Request.Fault Wire.Message)
  | ⟨.operation o, p⟩ => some (o.requestName, o.request p)
  | ⟨.fieldSchema, f⟩ => some ("FieldSchema", FieldSchema.toMessage f)
  | ⟨.namedColumn, c⟩ => some ("FieldData", NamedColumn.toMessage c)
  | ⟨.connection, _⟩ => none

end VectorClient
