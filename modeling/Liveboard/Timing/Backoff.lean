import Liveboard.Timing.Span

/-!
# Delays between attempts

The delay before another attempt grows by a factor with every attempt
since the last reset, is capped (`BackoffPolicy.nominal`), and is then spread
over a band whose half-width is a share of the capped delay. All of this is
arithmetic on doubles of seconds; a delay that no span can hold has no value
(`BackoffPolicy.delay?`), and an attempt is counted whether its delay has a
value or not.

Where in the band a delay lies is drawn. The draw is an argument, a number
from 0 to 1, and nothing is said about how it comes about.
-/

namespace Liveboard

/-- **How attempts are spaced**, and how many of them may fail in a row. -/
structure BackoffPolicy where
  /-- The delay of the first attempt. -/
  baseDelay : Span
  /-- The cap of the delay before it is spread. -/
  maxDelay : Span
  /-- The factor by which the delay grows with each attempt. -/
  multiplier : Float
  /-- The half-width of the band of a delay, as a share of the delay. -/
  jitter : Float
  /-- The number of failures in a row after which no attempt is made. -/
  maxFailures : Nat
  deriving Inhabited

namespace BackoffPolicy

/-- The policy used where none is given. -/
def standard : BackoffPolicy where
  baseDelay := .ofMillis 500
  maxDelay := .ofSecs 30
  multiplier := 2.0
  jitter := 0.3
  maxFailures := 8

/-- The rounds of squaring that are left for the exponent `n`: `acc` is
multiplied by the square at hand for every one in the binary digits of
`n`, the lowest first. -/
def powerFrom (acc x : Float) : Nat → Float
  | 0 => acc
  | n + 1 =>
    let acc' := if (n + 1) % 2 = 1 then acc * x else acc
    if (n + 1) / 2 = 0 then acc' else powerFrom acc' (x * x) ((n + 1) / 2)

/-- **The power of a double by repeated squaring.** -/
def power (x : Float) (n : Nat) : Float :=
  powerFrom 1.0 x n

/-- The lesser of two doubles; what is no number loses against a number. -/
def lesser (x y : Float) : Float :=
  if x.isNaN then y else if y.isNaN then x else if y < x then y else x

/-- The largest exponent of the factor. -/
def maxExponent : Nat := 2 ^ 31 - 1

/-- **The capped delay of an attempt**, in seconds, before it is spread. -/
def nominal (p : BackoffPolicy) (attempt : Nat) : Float :=
  lesser (p.baseDelay.toSeconds * power p.multiplier (min attempt maxExponent))
    p.maxDelay.toSeconds

/-- Whether a double is finite. -/
def isFiniteNumber (x : Float) : Bool :=
  match Binary.ofFloat x with
  | .finite .. => true
  | _ => false

/-- A double, or zero for one that is less or no number. -/
def nonNegative (x : Float) : Float :=
  if x > 0.0 then x else 0.0

/-- The least and the greatest delay of an attempt, in seconds. -/
def band (p : BackoffPolicy) (attempt : Nat) : Float × Float :=
  let capped := p.nominal attempt
  let spread := capped * p.jitter
  (capped - spread, capped + spread)

/-- **The delay of an attempt.** Without a spread it is the capped delay;
otherwise `draw` chooses its place in the band. There is no delay if the
band is empty or not finite, or if the delay is longer than any span. -/
def delay? (p : BackoffPolicy) (attempt : Nat) (draw : Float) : Option Span :=
  let capped := p.nominal attempt
  if p.jitter ≤ 0.0 || capped ≤ 0.0 then Span.ofSeconds? (nonNegative capped)
  else
    let (low, high) := p.band attempt
    if low ≤ high && isFiniteNumber (high - low) then
      Span.ofSeconds? (nonNegative (low + draw * (high - low)))
    else none

end BackoffPolicy

/-- **A policy in use**: the attempts since the last reset decide the next
delay. -/
structure Backoff where
  /-- How attempts are spaced. -/
  policy : BackoffPolicy
  /-- The attempts since the last reset. -/
  attempt : Nat
  deriving Inhabited

namespace Backoff

/-- A policy of which no attempt was made. -/
def ofPolicy (p : BackoffPolicy) : Backoff := ⟨p, 0⟩

/-- The count of attempts stays there. -/
def maxAttempt : Nat := 2 ^ 32 - 1

/-- One more attempt. -/
def advance (b : Backoff) : Backoff :=
  { b with attempt := min (b.attempt + 1) maxAttempt }

/-- **The next delay**, and the state after the attempt was counted. -/
def next (b : Backoff) (draw : Float) : Option Span × Backoff :=
  (b.policy.delay? b.attempt draw, b.advance)

/-- The state after a success. -/
def reset (b : Backoff) : Backoff :=
  { b with attempt := 0 }

@[simp] theorem attempt_reset (b : Backoff) : b.reset.attempt = 0 := rfl

@[simp] theorem policy_advance (b : Backoff) : b.advance.policy = b.policy := rfl

end Backoff

end Liveboard
