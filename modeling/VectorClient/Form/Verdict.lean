/-
# VectorClient.Form.Verdict — the outcome of reading arguments

Reading ends in one of three ways: a value is accepted, it is rejected with the
entries of a report, or reading is aborted by a cause that no report covers.
Verdicts combine (`Verdict.both`): the entries of all parts are kept, in order
(`Verdict.entries_both`), and the first abort ends everything.  A combination is
accepted exactly if its parts are (`Verdict.both_eq_accepted_iff`).
-/
import VectorClient.Report.Fault

namespace VectorClient

set_option autoImplicit false

/-- A cause that ends reading at once. -/
inductive Abort where
  /-- An integer where a number of seconds is expected is past the last finite double. -/
  | integerTooLarge
  /-- A parameter was given a keyword that is no text. -/
  | keywordNotText
  /-- A parameter was given its own name as a keyword. -/
  | receiverNamed
  deriving DecidableEq, Repr

/-- The outcome of reading a value of type `α`. -/
inductive Verdict (α : Type) where
  | accepted (a : α)
  | rejected (entries : List Entry)
  | aborted (cause : Abort)
  deriving Repr

namespace Verdict

variable {α β γ : Type}

/-- Rejected for one fault at the place itself. -/
def refuse (fault : Fault) : Verdict α := .rejected [([], fault)]

def map (f : α → β) : Verdict α → Verdict β
  | .accepted a => .accepted (f a)
  | .rejected entries => .rejected entries
  | .aborted cause => .aborted cause

/-- A further check of what was accepted. -/
def bind (v : Verdict α) (f : α → Verdict β) : Verdict β :=
  match v with
  | .accepted a => f a
  | .rejected entries => .rejected entries
  | .aborted cause => .aborted cause

/-- Both verdicts: rejected with the entries of both, aborted by the first abort. -/
def both (combine : α → β → γ) : Verdict α → Verdict β → Verdict γ
  | .aborted cause, _ => .aborted cause
  | _, .aborted cause => .aborted cause
  | .rejected xs, .rejected ys => .rejected (xs ++ ys)
  | .rejected xs, .accepted _ => .rejected xs
  | .accepted _, .rejected ys => .rejected ys
  | .accepted a, .accepted b => .accepted (combine a b)

/-- The entries of a rejection; none of an acceptance. -/
def entries : Verdict α → List Entry
  | .rejected entries => entries
  | _ => []

def accepted? : Verdict α → Option α
  | .accepted a => some a
  | _ => none

theorem accepted?_eq_some_iff {v : Verdict α} {a : α} :
    v.accepted? = some a ↔ v = .accepted a := by
  cases v <;> simp [accepted?]

def isAccepted (v : Verdict α) : Bool := v.accepted?.isSome

/-- Places a rejection one step further out. -/
def under (step : Step) : Verdict α → Verdict α
  | .rejected entries => .rejected (entries.map fun (location, fault) => (step :: location, fault))
  | v => v

/-- Rejected for the given entries, accepted if there are none. -/
def ofEntries : List Entry → Verdict Unit
  | [] => .accepted ()
  | entries => .rejected entries

/-- Adds entries behind those of the verdict. -/
def alsoRefuse (v : Verdict α) (more : List Entry) : Verdict α :=
  both (fun a _ => a) v (ofEntries more)

/-! ## When a combined verdict accepts, and what it reports -/

theorem both_eq_accepted_iff {combine : α → β → γ} {v : Verdict α} {w : Verdict β} {c : γ} :
    both combine v w = .accepted c ↔
      ∃ a b, v = .accepted a ∧ w = .accepted b ∧ combine a b = c := by
  cases v <;> cases w <;> simp [both]

theorem map_eq_accepted_iff {v : Verdict α} {f : α → β} {b : β} :
    v.map f = .accepted b ↔ ∃ a, v = .accepted a ∧ f a = b := by
  cases v <;> simp [map]

theorem bind_eq_accepted_iff {v : Verdict α} {f : α → Verdict β} {b : β} :
    v.bind f = .accepted b ↔ ∃ a, v = .accepted a ∧ f a = .accepted b := by
  cases v <;> simp [bind]

theorem under_eq_accepted_iff {step : Step} {v : Verdict α} {a : α} :
    v.under step = .accepted a ↔ v = .accepted a := by
  cases v <;> simp [under]

theorem alsoRefuse_eq_accepted_iff {v : Verdict α} {more : List Entry} {a : α} :
    v.alsoRefuse more = .accepted a ↔ v = .accepted a ∧ more = [] := by
  cases v <;> cases more <;> simp [alsoRefuse, both, ofEntries]

/-- Two verdicts that do not abort report the entries of both, in order. -/
theorem entries_both {combine : α → β → γ} {v : Verdict α} {w : Verdict β}
    (hv : ∀ cause, v ≠ .aborted cause) (hw : ∀ cause, w ≠ .aborted cause) :
    (both combine v w).entries = v.entries ++ w.entries := by
  cases v <;> cases w <;> simp_all [both, entries]

end Verdict

end VectorClient
