/-
# VectorClient.Form.Binding — arguments and the names they bind

A construction binds its arguments to names: those given by position in the
order of its signature, the others by the name they come with.  The first name
of a signature is bound by the construction itself (`Signature.receiver`), so no
argument may come under it.

`Signature.fault?` is the first fault of a list of arguments: a name that is
unknown or bound twice, in the order in which names are given; then too many
positions; then names that need an argument and have none.
-/
import VectorClient.Text.Quoted
import VectorClient.Value.Basic

namespace VectorClient

set_option autoImplicit false

open Text

/-- The names that a construction binds. -/
structure Signature where
  /-- What the construction is called in messages. -/
  callee : String
  /-- The name that the construction binds itself. -/
  receiver : String
  required : List String
  optional : List String
  deriving DecidableEq, Repr

/-- Why arguments cannot be bound. -/
inductive BindingFault where
  | unknownName (callee name : String)
  | boundTwice (callee name : String)
  /-- How many positions there are at least and at most, and how many were given. -/
  | tooMany (callee : String) (least most given : Nat)
  | missing (callee : String) (names : List String)
  deriving DecidableEq, Repr

namespace BindingFault

/-- Names in a row, the last one after `and`. -/
def conjunction : List String → String
  | [] => ""
  | [a] => a
  | [a, b] => a ++ " and " ++ b
  | names => String.intercalate ", " names.dropLast ++ ", and " ++ names.getLastD ""

def message : BindingFault → String
  | .unknownName callee name =>
      callee ++ "() got an unexpected keyword argument " ++ between name
  | .boundTwice callee name => callee ++ "() got multiple values for argument " ++ between name
  | .tooMany callee least most given =>
      let range := if least = most then toString most
        else "from " ++ toString least ++ " to " ++ toString most
      callee ++ "() takes " ++ range ++ " positional argument" ++
        (if least = most ∧ most = 1 then "" else "s") ++ " but " ++ toString given ++
        (if given = 1 then " was given" else " were given")
  | .missing callee names =>
      callee ++ "() missing " ++ toString names.length ++ " required positional argument" ++
        (if names.length = 1 then "" else "s") ++ ": " ++ conjunction (names.map between)

end BindingFault

namespace Signature

/-- The names that arguments bind, in order. -/
def names (s : Signature) : List String := s.required ++ s.optional

/-- The fault of an argument that comes under a name, beside those given by position. -/
def nameFault? (s : Signature) (positions : Nat) (name : String) : Option BindingFault :=
  if name ∈ s.receiver :: s.names.take positions then some (.boundTwice s.callee name)
  else if name ∈ s.names then none
  else some (.unknownName s.callee name)

/-- The first fault of arguments by position and by name. -/
def fault? (s : Signature) (args : List Value) (named : Keywords) : Option BindingFault :=
  (named.findSome? fun e => s.nameFault? args.length e.1).or
    (if s.names.length < args.length then
      some (.tooMany s.callee (s.required.length + 1) (s.names.length + 1) (args.length + 1))
    else match (s.required.drop args.length).filter fun n => (Keywords.find? named n).isNone with
      | [] => none
      | unbound => some (.missing s.callee unbound))

/-- What a name is bound to, if anything is. -/
def value? (s : Signature) (args : List Value) (named : Keywords) (name : String) : Option Value :=
  (args[s.names.idxOf name]?).or (Keywords.find? named name)

/-- The values of the names in order; an optional one without an argument is none. -/
def bind (s : Signature) (args : List Value) (named : Keywords) :
    Except BindingFault (List Value) :=
  match s.fault? args named with
  | some fault => .error fault
  | none => .ok (s.names.map fun n => (s.value? args named n).getD .none)

end Signature

end VectorClient
