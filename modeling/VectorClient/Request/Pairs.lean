/-
# VectorClient.Request.Pairs — key and value pairs in requests

Settings that the server reads by name travel as pairs of texts.
-/
import VectorClient.Text.Pairs
import VectorClient.Value.Printed
import VectorClient.Wire.Record

namespace VectorClient.Request

set_option autoImplicit false

open Wire.Message

def pair (e : String × String) : Wire.Message := text 1 e.1 ++ text 2 e.2

def pairs (field : Nat) (ps : Text.Pairs) : Wire.Message := messages field (ps.map pair)

/-- The text of a key: a text, or bytes that encode one. -/
def keyText (k : Value) : String :=
  (k.asText?.or (k.asBytes?.bind Text.ofUtf8?)).getD k.display

/-- The pairs of a dictionary, each value as its text. -/
def pairsOfEntries (entries : List (Value × Value)) : Text.Pairs :=
  entries.map fun (k, v) => (keyText k, v.display)

end VectorClient.Request
