/-
# VectorClient.Result.Envelope — the result of an operation

Every operation answers with an envelope: its outcome class, a payload if and
only if the outcome is a success, the server's error code, and a message.
`Envelope.blueprint` is the class of envelopes that callers write themselves;
the client makes its own with the five constructors below.
-/
import VectorClient.Form.Blueprint
import VectorClient.Result.ApiError
import VectorClient.Text.Integer

namespace VectorClient

set_option autoImplicit false

/-- The outcome of an operation with a payload of type `α`. -/
structure Envelope (α : Type) where
  status : ResultStatus
  data : Option α
  errorCode : Option Int
  message : String
  deriving DecidableEq, Repr

namespace Envelope

variable {α β : Type}

/-- The message of every success. -/
def successMessage : String := "Success"

def success (a : α) : Envelope α := ⟨.success, some a, none, successMessage⟩

def serverError (code : Int) (reason : String) : Envelope α :=
  ⟨.serverError, none, some code, reason⟩

def transportError (message : String) : Envelope α := ⟨.transportError, none, none, message⟩

def clientNotConnected : Envelope α :=
  ⟨.clientNotConnected, none, none, "Client is not connected"⟩

def waitTimeout (message : String) : Envelope α := ⟨.waitTimeout, none, none, message⟩

def ok (e : Envelope α) : Bool := e.status == .success

/-- The payload of a success. -/
def payload? (e : Envelope α) : Option α := if e.ok then e.data else none

/-- The envelope without its payload, for an operation with another one. -/
def withoutData (e : Envelope α) : Envelope β := { e with data := none }

/-- The envelope itself if it is a success, otherwise the error that it stands for. -/
def require (e : Envelope α) : Except ApiError (Envelope α) :=
  if e.ok then .ok e
  else .error
    { message := .text "Milvus operation failed"
      status := .text (Vocabulary.word e.status)
      errorCode := (e.errorCode.map Value.int).getD .none
      details := if e.message.isEmpty then .none else .text e.message }

section

variable (a b : α) (code : Int) (message : String) (e : Envelope α)

@[simp]
theorem ok_success : (success a).ok = true := rfl

@[simp]
theorem ok_serverError : (serverError code message : Envelope α).ok = false := rfl

@[simp]
theorem ok_transportError : (transportError message : Envelope α).ok = false := rfl

@[simp]
theorem ok_clientNotConnected : (clientNotConnected : Envelope α).ok = false := rfl

@[simp]
theorem ok_waitTimeout : (waitTimeout message : Envelope α).ok = false := rfl

@[simp]
theorem ok_withoutData : (e.withoutData : Envelope β).ok = e.ok := rfl

@[simp]
theorem payload?_success : (success a).payload? = some a := rfl

@[simp]
theorem success_inj : success a = success b ↔ a = b := by simp [success]

theorem payload?_of_not_ok {e : Envelope α} (failed : e.ok = false) : e.payload? = none := by
  simp [payload?, failed]

end

end Envelope

/-- An integer in lenient notation: truth values, whole doubles within 64 bits,
and texts and bytes that hold one. -/
def Codec.lenientInteger : Codec Int where
  read
    | .number (.int n) => .accepted n
    | .bool b => .accepted b.toInt
    | .number (.double d) => ofDouble d
    | .bytes bs => match Text.ofUtf8? bs with
      | some s => ofText s
      | none => .refuse .unreadableInteger
    | v => match v.asText? with
      | some s => ofText s
      | none => .refuse .notInteger
  write := Value.int
where
  ofText (s : String) : Verdict Int := match Text.readInteger s with
    | .ok n => .accepted n
    | .error .malformed => .refuse .unreadableInteger
    | .error .tooLong => .refuse .tooLong
  ofDouble (d : Number.Double) : Verdict Int := match d.truncate? with
    | none => .refuse .notFinite
    | some n =>
        if !d.isWhole then .refuse .fractional
        else if -0x8000000000000000 < n ∧ n < 0x8000000000000000 then .accepted n
        else .refuse .tooLong

namespace Envelope

/-- Envelopes as callers write them: the payload is any value but none. -/
def blueprint : Blueprint (Envelope Value) where
  title := "R"
  Raw := ResultStatus × Value × Option Int × String × Unit
  fields :=
    .cons "status" (.choice ResultStatus .resultStatus) none
      (.cons "data" .anything (some .none)
        (.cons "error_code" Codec.lenientInteger.optional (some none)
          (.cons "message" .text (some "") .nil)))
  pack := fun (status, data, errorCode, message, ()) =>
    match status, data with
    | .success, .none => .error .payload
    | .success, a => .ok ⟨status, some a, errorCode, message⟩
    | _, .none => .ok ⟨status, none, errorCode, message⟩
    | _, _ => .error .payload
  unpack e := (e.status, e.data.getD .none, e.errorCode, e.message, ())
  extras := .ignored

end Envelope

/-- The five ways to make an envelope by name. -/
inductive Factory where
  | success | serverError | transportError | clientNotConnected | waitTimeout
  deriving DecidableEq, Repr

namespace Factory

def ofName? : String → Option Factory
  | "success" => some .success
  | "server_error" => some .serverError
  | "transport_error" => some .transportError
  | "client_not_connected" => some .clientNotConnected
  | "wait_timeout" => some .waitTimeout
  | _ => none

def status : Factory → ResultStatus
  | .success => .success
  | .serverError => .serverError
  | .transportError => .transportError
  | .clientNotConnected => .clientNotConnected
  | .waitTimeout => .waitTimeout

/-- What a factory is called in messages, and the arguments that it takes. -/
def signature : Factory → Signature
  | .success => ⟨"R.success", "cls", ["data"], []⟩
  | .serverError => ⟨"R.server_error", "cls", ["error_code", "reason"], []⟩
  | .transportError => ⟨"R.transport_error", "cls", ["message"], []⟩
  | .clientNotConnected => ⟨"R.client_not_connected", "cls", [], []⟩
  | .waitTimeout => ⟨"R.wait_timeout", "cls", ["message"], []⟩

/-- The fields that a factory sets from the values of its arguments. -/
def fields (f : Factory) (values : List Value) : Keywords :=
  let arg (i : Nat) : Value := values[i]?.getD .none
  ("status", .member (.resultStatus f.status)) :: match f with
    | .success => [("data", arg 0), ("message", .text Envelope.successMessage)]
    | .serverError => [("error_code", arg 0), ("message", arg 1)]
    | .transportError | .waitTimeout => [("message", arg 0)]
    | .clientNotConnected =>
        [("message", .text (Envelope.clientNotConnected : Envelope Value).message)]

/-- The fields that a factory sets from arguments by position. -/
def keywords (f : Factory) (args : List Value) : Except BindingFault Keywords :=
  (f.signature.bind args []).map f.fields

end Factory

/-- The payload of a call that only reports a status. -/
structure Acknowledgement where
  text : String
  deriving DecidableEq, Repr

namespace Acknowledgement

/-- What is said when the server says nothing. -/
def silent : Acknowledgement := ⟨"Success"⟩

def blueprint : Blueprint Acknowledgement :=
  { Blueprint.plain "RpcStatus" (.cons "msg" .text (some silent.text) .nil)
      (fun (text, ()) => Acknowledgement.mk text) (fun a => (a.text, ())) with
    extras := .ignored }

end Acknowledgement

end VectorClient
