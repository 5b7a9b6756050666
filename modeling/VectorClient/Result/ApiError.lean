/-
# VectorClient.Result.ApiError — a failed operation as an error

The error that a result stands for when it is no success.  Its parts are any
values; an absent or empty status or details, and an absent code, are left out
of the text.
-/
import VectorClient.Form.Binding
import VectorClient.Value.Printed

namespace VectorClient

set_option autoImplicit false

structure ApiError where
  message : Value
  status : Value
  errorCode : Value
  details : Value
  deriving Repr

namespace ApiError

def text (e : ApiError) : String :=
  let status := if e.status.isTruthy then " (Status: " ++ e.status.display ++ ")" else ""
  let code := match e.errorCode with
    | .none => ""
    | code => " (Error Code: " ++ code.display ++ ")"
  let details := if e.details.isTruthy then " Details: " ++ e.details.display else ""
  e.message.display ++ status ++ code ++ details

/-- How an error is made: with a message, and perhaps more. -/
def signature : Signature :=
  ⟨"MilvusApiError.__init__", "self", ["message"], ["status", "error_code", "details"]⟩

/-- The error of arguments given by position and by name. -/
def ofArguments (args : List Value) (named : Keywords) : Except BindingFault ApiError :=
  (signature.bind args named).map fun parts =>
    let part (i : Nat) : Value := parts[i]?.getD .none
    ⟨part 0, part 1, part 2, part 3⟩

end ApiError

end VectorClient
