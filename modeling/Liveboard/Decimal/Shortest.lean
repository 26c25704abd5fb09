import Liveboard.Decimal.Binary

/-!
# The fewest digits that read back

A double is printed by the shortest decimal that lies in the interval of
numbers rounding to it; among decimals of that length, by the nearest
one. The search goes from one digit to seventeen: for each length the
two neighbours of the value on the grid of that length are tried, and
the first grid with a hit wins. Seventeen digits always tell two doubles
apart, so the search of `Scientific.shortest` needs no other bound.

The interval (`Interval.ofBinary`) is closed where the significand is even
and open where it is odd, for a number half-way between two doubles is read
as the even one. At a power of two its lower half is half as wide as the
upper.
-/

namespace Liveboard

/-- A decimal number, `coefficient · 10 ^ exponent`. -/
structure Scientific where
  /-- The digits, read as a whole number. -/
  coefficient : Nat
  /-- The power of ten they are scaled by. -/
  exponent : Int
  deriving DecidableEq, Repr

namespace Scientific

/-- The decimal digits of a whole number, most significant first. -/
def digitsOf (n : Nat) : List Char :=
  Nat.toDigits 10 n

/-- The exponent of the first digit of a positive fraction: the `e` with
`10 ^ e ≤ r < 10 ^ (e + 1)`. -/
def leadingExponent (r : Ratio) : Int :=
  if r.den ≤ r.num then (digitsOf (r.num / r.den)).length - 1
  else -((digitsOf ((r.den - 1) / r.num)).length : Int)

/-- The interval of numbers that round to a double, with the double in
it. All three bounds share one denominator. -/
structure Interval where
  /-- The lower end. -/
  low : Nat
  /-- The double itself. -/
  value : Nat
  /-- The upper end. -/
  high : Nat
  /-- The common denominator. -/
  den : Nat
  /-- Whether the ends themselves round to the double. -/
  closed : Bool

/-- The rounding interval of `m · 2 ^ e`: half a step to each side, and a
quarter below when `m` is the least significand of its binade. The ends
belong to it when `m` is even, because halves go to even significands. -/
def Interval.ofBinary (m : Nat) (e : Int) : Interval :=
  let scale := if 2 ≤ e then 2 ^ (e - 2).toNat else 1
  let den := if 2 ≤ e then 1 else 2 ^ (2 - e).toNat
  let below := if m == 2 ^ 52 && e != -1074 then 1 else 2
  { low := (4 * m - below) * scale
    value := 4 * m * scale
    high := (4 * m + 2) * scale
    den := den
    closed := m % 2 == 0 }

/-- Whether `c · 10 ^ k` lies in the interval. -/
def Interval.contains (i : Interval) (c : Nat) (k : Int) : Bool :=
  let r := (Ratio.mk c 1).shift k
  let point := r.num * i.den
  if i.closed then i.low * r.den ≤ point && point ≤ i.high * r.den
  else i.low * r.den < point && point < i.high * r.den

/-- The nearer to the value of the two neighbours `c` and `c + 1` on the
grid of step `10 ^ k`; a tie goes to the even one. -/
def Interval.nearer (i : Interval) (c : Nat) (k : Int) : Nat :=
  let r := (Ratio.mk i.value i.den).shift (-k)
  let twice := 2 * r.num
  let middle := (2 * c + 1) * r.den
  if twice < middle then c
  else if middle < twice then c + 1
  else c + c % 2

/-- Drops zeros at the end of the coefficient. -/
def trim : Nat → Scientific → Scientific
  | 0, s => s
  | fuel + 1, s =>
    if s.coefficient ≠ 0 ∧ s.coefficient % 10 = 0 then
      trim fuel ⟨s.coefficient / 10, s.exponent + 1⟩
    else s

/-- Tries the grids of `n`, `n + 1`, … digits, at most `fuel` of them. -/
def search (i : Interval) (lead : Int) : Nat → Nat → Option Scientific
  | 0, _ => none
  | fuel + 1, n =>
    let k := lead - n + 1
    let r := (Ratio.mk i.value i.den).shift (-k)
    let c := r.num / r.den
    match i.contains c k, i.contains (c + 1) k with
    | true, true => some ⟨i.nearer c k, k⟩
    | true, false => some ⟨c, k⟩
    | false, true => some ⟨c + 1, k⟩
    | false, false => search i lead fuel (n + 1)

/-- **The shortest decimal of a positive `m · 2 ^ e`.** Seventeen digits
always tell two doubles apart, so the search ends there. -/
def shortest (m : Nat) (e : Int) : Scientific :=
  if m == 0 then ⟨0, 0⟩
  else
    let i := Interval.ofBinary m e
    match search i (leadingExponent ⟨i.value, i.den⟩) 17 1 with
    | some s => trim 20 s
    | none => ⟨0, 0⟩

end Scientific

end Liveboard
