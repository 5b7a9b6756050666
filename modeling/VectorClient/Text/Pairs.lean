/-
# VectorClient.Text.Pairs — ordered pairs of texts

A list of key and value texts in which writing a key that is there already keeps
its place.
-/
namespace VectorClient.Text

set_option autoImplicit false

abbrev Pairs := List (String × String)

namespace Pairs

/-- Writes a value over that of the same key, or a new pair behind all others. -/
def insert (pairs : Pairs) (key value : String) : Pairs :=
  if pairs.any (fun e => e.1 == key) then
    pairs.map fun e => if e.1 == key then (key, value) else e
  else pairs ++ [(key, value)]

/-- The pairs written one after the other. -/
def ofList (entries : List (String × String)) : Pairs :=
  entries.foldl (fun done e => insert done e.1 e.2) []

end Pairs

end VectorClient.Text
