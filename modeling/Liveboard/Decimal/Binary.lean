/-!
# Doubles as exact numbers

A finite double stands for one rational number: a whole significand times a
power of two. Everything that is printed or rounded is decided on that
rational, in natural-number arithmetic, so that no rule depends on how a
particular conversion routine behaves.

`Binary.ofFloat` takes the bits of a double apart. A `Ratio` is a
non-negative fraction with the two roundings in use, which send a half up
or to the even neighbour. It is a pair of natural numbers and not a rational
in lowest terms: the roundings do not need the lowest terms, and a power of
two of a thousand bits is costly to reduce.
-/

-- A power of whole numbers is the one that they come with, also in a module that knows
-- powers in any monoid. Otherwise `2 ^ 64` would be one term here and another in a proof.
attribute [default_instance 20000, instance (20000)] instPowNat

namespace Liveboard

/-- **What a double stands for.** -/
inductive Binary where
  /-- No number at all. -/
  | nan
  /-- An infinity of the given sign. -/
  | infinite (negative : Bool)
  /-- `± significand · 2 ^ exponent`; zero keeps its sign. -/
  | finite (negative : Bool) (significand : Nat) (exponent : Int)
  deriving DecidableEq, Repr

/-- The reading of a double: one sign bit, eleven bits of exponent and
fifty-two bits of significand, whose leading one is implicit unless the
exponent field is zero. -/
def Binary.ofFloat (x : Float) : Binary :=
  let bits := x.toBits.toNat
  let negative := bits / 2 ^ 63 == 1
  let field : Nat := bits / 2 ^ 52 % 2 ^ 11
  let fraction := bits % 2 ^ 52
  if field == 2047 then
    if fraction == 0 then .infinite negative else .nan
  else if field == 0 then .finite negative fraction (-1074)
  else .finite negative (fraction + 2 ^ 52) ((field : Int) - 1075)

/-- **A non-negative fraction.** The denominator of every fraction built
below is positive. -/
structure Ratio where
  /-- What is divided. -/
  num : Nat
  /-- What it is divided by. -/
  den : Nat
  deriving DecidableEq, Repr

namespace Ratio

/-- `m · 2 ^ e` as a fraction. -/
def ofBinary (m : Nat) (e : Int) : Ratio :=
  if 0 ≤ e then ⟨m * 2 ^ e.toNat, 1⟩ else ⟨m, 2 ^ (-e).toNat⟩

/-- The fraction times ten to the power `k`. -/
def shift (r : Ratio) (k : Int) : Ratio :=
  if 0 ≤ k then ⟨r.num * 10 ^ k.toNat, r.den⟩ else ⟨r.num, r.den * 10 ^ (-k).toNat⟩

/-- The whole number nearest to the fraction; a half goes up. -/
def roundHalfUp (r : Ratio) : Nat :=
  (2 * r.num + r.den) / (2 * r.den)

/-- The whole number nearest to the fraction; a half goes to the even
neighbour. -/
def roundHalfEven (r : Ratio) : Nat :=
  let q := r.num / r.den
  let twice := 2 * (r.num % r.den)
  if twice < r.den then q
  else if r.den < twice then q + 1
  else q + q % 2

end Ratio

end Liveboard
