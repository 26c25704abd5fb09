import Liveboard.Decimal.Binary

/-!
# Spans of time

A span is a whole number of nanoseconds. Delays are computed in doubles
of seconds (`Span.toSeconds`) and turned back into spans by rounding the exact
value of the double to the nearest nanosecond, a half going to the even
neighbour (`Span.ofSeconds?`). Spans have an end, at `2 ^ 64` seconds, and a
double that is negative, not finite or beyond that end makes none.
-/

namespace Liveboard

/-- **A span of time**, in nanoseconds. -/
structure Span where
  /-- The length in nanoseconds. -/
  nanos : Nat
  deriving DecidableEq, Repr, Inhabited

namespace Span

/-- The nanoseconds of a second. -/
def perSecond : Nat := 10 ^ 9

/-- No time at all. -/
def zero : Span := ⟨0⟩

/-- A span of whole seconds. -/
def ofSecs (n : Nat) : Span := ⟨n * perSecond⟩

/-- A span of whole milliseconds. -/
def ofMillis (n : Nat) : Span := ⟨n * 10 ^ 6⟩

/-- The whole seconds of a span. -/
def secs (s : Span) : Nat := s.nanos / perSecond

/-- The nanoseconds beyond the whole seconds. -/
def subsec (s : Span) : Nat := s.nanos % perSecond

/-- The least number of milliseconds that covers a span. -/
def millisUp (s : Span) : Nat := (s.nanos + (10 ^ 6 - 1)) / 10 ^ 6

/-- A span is made of its seconds and the nanoseconds beyond. -/
theorem secs_mul_add_subsec (s : Span) : s.secs * perSecond + s.subsec = s.nanos := by
  simp only [secs, subsec, Nat.mul_comm]
  exact Nat.div_add_mod _ _

/-- A span in seconds. -/
def toSeconds (s : Span) : Float :=
  s.secs.toUInt64.toFloat + s.subsec.toUInt64.toFloat / perSecond.toUInt64.toFloat

/-- **The span of a number of seconds.** There is none for what is no
number, for negative numbers, and from `2 ^ 64` seconds on. -/
def ofSeconds? (x : Float) : Option Span :=
  match Binary.ofFloat x with
  | .finite negative m e =>
    let r := Ratio.ofBinary m e
    if negative ∧ m ≠ 0 then none
    else if 2 ^ 64 * r.den ≤ r.num then none
    else some ⟨(Ratio.mk (r.num * perSecond) r.den).roundHalfEven⟩
  | _ => none

end Span

end Liveboard
