/-
# VectorClient.Proofs.Client.Telling — what a call that came back tells

What a response tells, it tells by its fields.  A field holds its content, if that is of
the kind wanted, and else the default of the kind, as it does when it was left out
(`Datum.Fields.Holds`).  What a failed call tells is the name of its code and its details.

* `Response.Tells`: the code and the reason of a response, by its fields.
* `Response.tells_iff`: they are those of its status.
* `RpcError.Tells.describes`: a failed call is described by what it tells.
-/
import VectorClient.Client.Response
import VectorClient.Result.RpcError

namespace VectorClient

set_option autoImplicit false

/-! ## Fields -/

namespace Datum.Fields

/-- What the field of a name holds: its content, if it is of the kind wanted, and else the
default. -/
inductive Holds {α : Type} (fields : Fields) (name : String) (kind : α → Datum) (absent : α) :
    α → Prop
  | given {a : α} (held : fields.lookup name = some (kind a)) : Holds fields name kind absent a
  | left (other : ∀ a, fields.lookup name ≠ some (kind a)) : Holds fields name kind absent absent

variable {α : Type} {fields : Fields} {name : String}

theorem find?_eq_lookup (fields : Fields) (name : String) :
    fields.find? name = fields.lookup name := by
  induction fields with
  | nil => rfl
  | cons e rest ih =>
      rw [find?, List.find?_cons, List.lookup_cons, BEq.comm, ← ih]
      cases name == e.1 <;> rfl

/-- What a field holds is any value that is read from contents of the kind, and is the default
otherwise. -/
theorem holds_iff_of {kind : α → Datum} {absent value a : α}
    (reads : ∀ a, fields.find? name = some (kind a) → value = a)
    (leaves : (∀ a, fields.find? name ≠ some (kind a)) → value = absent) :
    fields.Holds name kind absent a ↔ a = value := by
  rw [find?_eq_lookup] at reads leaves
  constructor
  · intro holds
    cases holds with
    | given held => exact (reads _ held).symm
    | left other => exact (leaves other).symm
  · rintro rfl
    by_cases given : ∃ a, fields.lookup name = some (kind a)
    · obtain ⟨a, held⟩ := given
      rw [reads a held]
      exact .given held
    · rw [leaves (not_exists.mp given)]
      exact .left (not_exists.mp given)

theorem holds_int_iff {n : Int} : fields.Holds name .int 0 n ↔ n = fields.int name := by
  refine holds_iff_of (fun n held => by rw [int, held]) fun other => ?_
  unfold int
  split
  · rename_i held
    exact absurd held (other _)
  · rfl

theorem holds_text_iff {s : String} : fields.Holds name .text "" s ↔ s = fields.text name := by
  refine holds_iff_of (fun s held => by rw [text, held]) fun other => ?_
  unfold text
  split
  · rename_i held
    exact absurd held (other _)
  · rfl

theorem holds_truth_iff {b : Bool} :
    fields.Holds name .truth false b ↔ b = fields.truth name := by
  refine holds_iff_of (fun b held => by rw [truth, held]) fun other => ?_
  unfold truth
  split
  · rename_i held
    exact absurd held (other _)
  · rfl

theorem holds_message_iff {inner : Fields} :
    fields.Holds name .message [] inner ↔ inner = fields.message name := by
  refine holds_iff_of (fun inner held => by rw [message, held]) fun other => ?_
  unfold message
  split
  · rename_i held
    exact absurd held (other _)
  · rfl

end Datum.Fields

/-! ## Responses -/

namespace Response

/-- The code and the reason that a response tells: by its own fields, if it is a status, and else
by those of its field of that name. -/
inductive Tells (r : Response) (code : Int) (reason : String) : Prop
  | own (status : r.title = "Status") (code : r.fields.Holds "error_code" .int 0 code)
      (reason : r.fields.Holds "reason" .text "" reason)
  | nested {inner : Datum.Fields} (other : r.title ≠ "Status")
      (status : r.fields.Holds "status" .message [] inner)
      (code : inner.Holds "error_code" .int 0 code) (reason : inner.Holds "reason" .text "" reason)

variable {r : Response} {code : Int} {reason : String}

theorem tells_iff : r.Tells code reason ↔ code = r.status.code ∧ reason = r.status.reason := by
  rw [status]
  by_cases own : r.title = statusTitle
  · rw [if_pos own]
    constructor
    · intro tells
      cases tells with
      | own _ code reason =>
          exact ⟨Datum.Fields.holds_int_iff.mp code, Datum.Fields.holds_text_iff.mp reason⟩
      | nested other => exact absurd own other
    · rintro ⟨code, reason⟩
      exact .own own (Datum.Fields.holds_int_iff.mpr code) (Datum.Fields.holds_text_iff.mpr reason)
  · rw [if_neg own]
    constructor
    · intro tells
      cases tells with
      | own status => exact absurd status own
      | nested _ status code reason =>
          rw [Datum.Fields.holds_message_iff] at status
          subst status
          exact ⟨Datum.Fields.holds_int_iff.mp code, Datum.Fields.holds_text_iff.mp reason⟩
    · rintro ⟨code, reason⟩
      exact .nested own (Datum.Fields.holds_message_iff.mpr rfl)
        (Datum.Fields.holds_int_iff.mpr code) (Datum.Fields.holds_text_iff.mpr reason)

theorem tells_status (r : Response) : r.Tells r.status.code r.status.reason :=
  tells_iff.mpr ⟨rfl, rfl⟩

/-- A response tells one code and one reason. -/
theorem Tells.unique {code' : Int} {reason' : String} (tells : r.Tells code reason)
    (tells' : r.Tells code' reason') : code = code' ∧ reason = reason' := by
  obtain ⟨rfl, rfl⟩ := tells_iff.mp tells
  obtain ⟨rfl, rfl⟩ := tells_iff.mp tells'
  exact ⟨rfl, rfl⟩

end Response

/-! ## Failed calls -/

namespace RpcError

/-- The text that a failed call tells whose code has a name: the name and the details, or the
name and the text of the error itself, if there are no details. -/
inductive Tells (e : RpcError) : String → Prop
  | details {name details : String} (code : e.code = some (.named name)) (named : name ≠ "")
      (told : e.details = some (.text details)) (something : details ≠ "") :
      Tells e (name ++ ": " ++ details)
  | itself {name text : String} (code : e.code = some (.named name)) (named : name ≠ "")
      (untold : e.details = none ∨ e.details = some .none ∨ e.details = some (.text ""))
      (made : e.text = some (.text text)) : Tells e (name ++ ": " ++ text)

theorem Tells.describes {e : RpcError} {text : String} (tells : e.Tells text) :
    e.describe.display = text := by
  cases tells with
  | @details name details code named told something =>
      have truthy : (Value.text details).isTruthy = true := by
        simpa [Value.isTruthy] using something
      simp [describe, code, StatusCode.text?, told, truthy, Value.display, Value.display?]
  | @itself name text code named untold made =>
      have display : e.display = text := by
        rw [display, made]
        rfl
      rcases untold with untold | untold | untold <;>
        simp [describe, code, StatusCode.text?, untold, Value.isTruthy, display,
          Value.display, Value.display?]

end RpcError

end VectorClient
