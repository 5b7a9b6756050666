/-
# VectorClient.Wait.Script — answers written beforehand

A script is used in order, and its last answer is repeated for ever.
-/
namespace VectorClient

set_option autoImplicit false

structure Script (α : Type) where
  next : α
  later : List α
  deriving Repr

namespace Script

variable {α : Type}

def ofList? : List α → Option (Script α)
  | [] => none
  | a :: rest => some ⟨a, rest⟩

/-- The next answer, and the script of those after it. -/
def take : Script α → α × Script α
  | ⟨a, []⟩ => (a, ⟨a, []⟩)
  | ⟨a, b :: rest⟩ => (a, ⟨b, rest⟩)

end Script

/-- An error that is raised from outside. -/
inductive Raised where
  /-- A value that is refused; a closed channel refuses calls in this way. -/
  | refusal (message : String)
  /-- A value of the wrong type. -/
  | wrongType (message : String)
  | other (kind message : String)
  deriving DecidableEq, Repr

def Raised.message : Raised → String
  | .refusal message => message
  | .wrongType message => message
  | .other _ message => message

end VectorClient
