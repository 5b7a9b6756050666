/-
# VectorClient.Proofs.Request.Numbers — numbers on their way into a request

Numbers are converted one by one, and the first that no request can carry ends the
request.  If none does, all of them have been converted: whatever holds of each
conversion holds along the lists (`forall₂_of_each`).

* `exists_mapM_of_each`: messages that are each read back.
* `exists_of_singles`, `exists_of_doubles`: arrays of numbers, each rounded to nearest.
* `exists_of_component`: a component of a target vector.
* `eq_integer_of_signed`, `eq_integer_of_unsigned`: integers that have to fit their field.
-/
import VectorClient.Proofs.Number.Nearest
import VectorClient.Proofs.Param.Accepted
import VectorClient.Proofs.Wire.Numbers
import VectorClient.Request.Rows

namespace VectorClient

set_option autoImplicit false

open Number Wire

/-- The type of a number on the wire. -/
def DataType.ofNumber? (n : Nat) : Option DataType :=
  (Vocabulary.members : List DataType).find? fun t => t.number == n

@[simp]
theorem DataType.ofNumber?_number (t : DataType) : ofNumber? t.number = some t := by
  cases t <;> rfl

namespace Request

/-! ## Element by element -/

section Each

variable {α β γ : Type}

/-- What holds of every conversion holds along the lists. -/
theorem forall₂_of_each {f : α → Except Fault β} {R : α → β → Prop} :
    ∀ {as : List α} {bs : List β}, (∀ a ∈ as, ∀ b, f a = .ok b → R a b) →
      each f as = .ok bs → List.Forall₂ R as bs
  | [], _, _, converted => by
      cases converted
      exact .nil
  | a :: as, bs, converts, converted => by
      simp only [each] at converted
      split at converted
      · cases converted
      · rename_i b here
        obtain ⟨bs', later, rfl⟩ := map_eq_ok_iff.mp converted
        exact .cons (converts a (by simp) b here)
          (forall₂_of_each (fun a member => converts a (by simp [member])) later)

/-- Elements that are each written from a counterpart. -/
theorem exists_of_each {f : α → Except Fault β} {R : α → γ → Prop} {write : γ → β}
    (converts : ∀ a b, f a = .ok b → ∃ x, R a x ∧ b = write x) {as : List α} {bs : List β}
    (converted : each f as = .ok bs) :
    ∃ xs : List γ, List.Forall₂ R as xs ∧ bs = xs.map write := by
  have along := forall₂_of_each (fun a _ => converts a) converted
  clear converted
  induction along with
  | nil => exact ⟨[], .nil, rfl⟩
  | cons here _ ih =>
      obtain ⟨x, one, rfl⟩ := here
      obtain ⟨xs, more, rfl⟩ := ih
      exact ⟨x :: xs, .cons one more, rfl⟩

/-- Messages that are each read back are read back in order. -/
theorem exists_mapM_of_each {f : α → Except Fault Message} {read? : Message → Option γ}
    {R : α → γ → Prop} {as : List α} {ms : List Message}
    (reads : ∀ a ∈ as, ∀ m, f a = .ok m → ∃ read, read? m = some read ∧ R a read)
    (written : each f as = .ok ms) :
    ∃ back, ms.mapM read? = some back ∧ List.Forall₂ R as back := by
  have along := forall₂_of_each reads written
  clear reads written
  induction along with
  | nil => exact ⟨[], rfl, .nil⟩
  | cons here _ ih =>
      obtain ⟨read, one, same⟩ := here
      obtain ⟨back, more, sames⟩ := ih
      exact ⟨read :: back, by simp [one, more], .cons same sames⟩

end Each

/-! ## Floating-point numbers -/

theorem toDouble?_of_double {n : Number} {d : Double} (converted : double n = .ok d) :
    n.toDouble? = some d := by
  unfold double at converted
  split at converted
  · cases converted
    assumption
  · cases converted

theorem exists_of_singles {numbers : List Number} {elements : List (List UInt8)}
    (written : singles numbers = .ok elements) :
    ∃ xs : List Single, List.Forall₂ RoundsToSingle numbers xs ∧ elements = xs.map floatBytes := by
  refine exists_of_each (fun n element converted => ?_) written
  obtain ⟨d, rounded, rfl⟩ := map_eq_ok_iff.mp converted
  exact ⟨d.convert .single, roundsToSingle_convert (toDouble?_of_double rounded), rfl⟩

theorem exists_of_doubles {numbers : List Number} {elements : List (List UInt8)}
    (written : doubles numbers = .ok elements) :
    ∃ xs : List Double, List.Forall₂ RoundsToDouble numbers xs ∧ elements = xs.map floatBytes := by
  refine exists_of_each (fun n element converted => ?_) written
  obtain ⟨d, rounded, rfl⟩ := map_eq_ok_iff.mp converted
  exact ⟨d, roundsToDouble_of_toDouble? (toDouble?_of_double rounded), rfl⟩

/-- A component that is not refused is written as its four-byte number. -/
theorem exists_of_component {n : Number} {element : List UInt8}
    (written : component n = .ok element) :
    ∃ x : Single, n.RoundsToSingle x ∧ element = floatBytes x := by
  unfold component at written
  split at written
  · cases written
  · rename_i rounded
    split at written
    · cases written
    · cases written
      exact ⟨_, roundsToSingle_convert rounded, rfl⟩

/-! ## Integers -/

/-- Numbers with at most so many digits are written as their digits. -/
theorem decimal_eq_ok_iff {n : Int} {digits : String} :
    decimal n = .ok digits ↔ Printable n ∧ toString n = digits := by
  unfold decimal
  split
  · rename_i few
    exact ⟨fun written => ⟨few, Except.ok.inj written⟩, fun ⟨_, same⟩ => congrArg _ same⟩
  · rename_i many
    exact ⟨nofun, fun ⟨few, _⟩ => absurd few many⟩

/-- A signed field is written exactly if the number fits it. -/
theorem signed_eq_ok_iff {width : IntWidth} {field : Nat} {n : Int} {m : Message} :
    Request.signed width field n = .ok m ↔ width.Fits n ∧ Message.integer field n = m := by
  unfold Request.signed
  split
  · rename_i fits
    exact ⟨fun written => ⟨fits, Except.ok.inj written⟩, fun ⟨_, same⟩ => congrArg _ same⟩
  · rename_i outside
    exact ⟨nofun, fun ⟨fits, _⟩ => absurd fits outside⟩

/-- A signed field of 64 bits is written as its complement, and read back from it. -/
theorem eq_integer_of_signed {field : Nat} {n : Int} {m : Message}
    (written : Request.signed .bits64 field n = .ok m) :
    m = Message.integer field n ∧ Wire.signed 64 (complement n) = n := by
  obtain ⟨fits, rfl⟩ := signed_eq_ok_iff.mp written
  exact ⟨rfl, signed_complement_bits64 fits⟩

/-- An unsigned field is written as the number itself. -/
theorem eq_integer_of_unsigned {width field : Nat} (word : width ≤ 64) {n : Int} {m : Message}
    (written : Request.unsigned width field n = .ok m) :
    m = Message.integer field n ∧ (complement n : Int) = n ∧ complement n < 2 ^ width := by
  have pow_le : 2 ^ width ≤ 2 ^ 64 := Nat.pow_le_pow_right (by decide) word
  unfold Request.unsigned at written
  split at written
  · rename_i bounds
    cases written
    obtain ⟨least, most⟩ := bounds
    change n < ((2 ^ width : Nat) : Int) at most
    refine ⟨rfl, ?_⟩
    unfold complement
    omega
  · cases written

end Request

end VectorClient
