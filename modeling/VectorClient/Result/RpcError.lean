/-
# VectorClient.Result.RpcError — errors of remote calls

What a failed remote call tells: perhaps a text, perhaps a status code, perhaps
details.  `RpcError.describe` renders it as the name of the code and the
details, and falls back to the text where there are no details.
-/
import VectorClient.Value.Printed

namespace VectorClient

set_option autoImplicit false

/-- The status code of a failed call. -/
inductive StatusCode where
  /-- A standard code, by its name. -/
  | named (name : String)
  /-- Any other value. -/
  | plain (v : Value)
  deriving Repr

namespace StatusCode

/-- The text of a code: a name if it has one; none has no text. -/
def text? : StatusCode → Option String
  | .named name => some name
  | .plain .none => none
  | .plain (.member m) => some m.word
  | .plain (.field f) => some f.name
  | .plain (.column c) => some c.name
  | .plain v => some v.display

end StatusCode

structure RpcError where
  /-- What the error was made with. -/
  text : Option Value
  /-- The code, if the error can be asked for one. -/
  code : Option StatusCode
  /-- The details, if the error can be asked for them. -/
  details : Option Value
  deriving Repr

namespace RpcError

/-- The text of the error itself. -/
def display (e : RpcError) : String := (e.text.map Value.display).getD ""

/-- The code's text and the details.  Without a code the details stand alone, as
they are. -/
def describe (e : RpcError) : Value :=
  let details := match e.details with
    | some d => if d.isTruthy then d else .text e.display
    | none => .text e.display
  match e.code.bind StatusCode.text? with
  | none => details
  | some "" => details
  | some code => .text (code ++ ": " ++ details.display)

end RpcError

end VectorClient
