/-
# VectorClient.Wait.Timeline — readings of a clock

What a wait does with time: it adds a sleep to a reading, takes the difference
of two readings, and asks whether a difference has reached a limit.  The client
runs on `Number`, whose sums are rounded to doubles; any other type with these
operations, exact ones included, serves as well.
-/
import VectorClient.Number.Basic

namespace VectorClient

set_option autoImplicit false

/-- A type of clock readings and durations. -/
class Timeline (τ : Type) where
  zero : τ
  add : τ → τ → τ
  sub : τ → τ → τ
  le : τ → τ → Bool
  /-- The duration of a number of seconds. -/
  ofSeconds : Number.Double → τ
  /-- A duration rounded to tenths. -/
  tenths : τ → String
  text : τ → String

instance : Timeline Number where
  zero := .double Number.Double.zero
  add a b := .double (a.toDouble.add b.toDouble)
  sub a b := .double (a.toDouble.sub b.toDouble)
  le := Number.le
  ofSeconds := .double
  tenths a := a.toDouble.oneDecimal
  text := Number.text

end VectorClient
