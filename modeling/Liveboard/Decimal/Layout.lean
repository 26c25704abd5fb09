import Liveboard.Decimal.Shortest

/-!
# Writing doubles

Two texts of a double occur. *Prose* is what messages and settings show:
always positional, no point on whole numbers. *Data* is what JSON bodies
and type complaints show: whole numbers end in `.0`, and very large or
very small numbers get an exponent. Both show the shortest digits that
read back, so the difference is one record of decisions: `FloatLayout.prose`
and `FloatLayout.data` are two of them, and `FloatLayout.render` is the one
way to write a double.

Fixed places, for the display lines, are another matter. `fixedPlaces`
rounds the exact value, and a half goes to the even neighbour.
-/

namespace Liveboard

/-- **The decisions of one way of writing doubles.** The position of a
number is the number of its digits before the point: 1 for `7.25`, 0 for
`0.5`, -1 for `0.05`. -/
structure FloatLayout where
  /-- The positions written without an exponent. -/
  positional : Int → Bool
  /-- What follows a whole number. -/
  wholeSuffix : String

namespace FloatLayout

/-- Messages and settings: never an exponent, no point on whole numbers. -/
def prose : FloatLayout := ⟨fun _ => true, ""⟩

/-- Data: `.0` on whole numbers, an exponent from `1e16` up and below
`1e-5`. -/
def data : FloatLayout := ⟨fun p => -5 < p && p ≤ 16, ".0"⟩

/-- A run of zeros. -/
def zeros (n : Nat) : String :=
  String.ofList (List.replicate n '0')

/-- The digits with a point put in so that `position` of them stand
before it. -/
def pointed (l : FloatLayout) (digits : List Char) (position : Int) : String :=
  if position ≤ 0 then
    "0." ++ zeros (-position).toNat ++ String.ofList digits
  else
    let before := position.toNat
    if digits.length ≤ before then
      String.ofList digits ++ zeros (before - digits.length) ++ l.wholeSuffix
    else
      String.ofList (digits.take before) ++ "." ++ String.ofList (digits.drop before)

/-- The digits with one of them before the point and an exponent, which
always carries its sign. -/
def exponential (digits : List Char) (position : Int) : String :=
  let tail := digits.drop 1
  let mantissa := String.ofList (digits.take 1) ++
    (if tail.isEmpty then "" else "." ++ String.ofList tail)
  let e := position - 1
  if e < 0 then mantissa ++ "e-" ++ toString e.natAbs
  else mantissa ++ "e+" ++ toString e.natAbs

/-- The text of a non-negative decimal. -/
def decimal (l : FloatLayout) (s : Scientific) : String :=
  if s.coefficient == 0 then "0" ++ l.wholeSuffix
  else
    let digits := Scientific.digitsOf s.coefficient
    let position := digits.length + s.exponent
    if l.positional position then l.pointed digits position
    else exponential digits position

/-- **The text of a double**: its sign, and the shortest digits that read
back. -/
def render (l : FloatLayout) (x : Float) : String :=
  match Binary.ofFloat x with
  | .nan => "NaN"
  | .infinite negative => if negative then "-inf" else "inf"
  | .finite negative m e =>
    (if negative then "-" else "") ++ l.decimal (Scientific.shortest m e)

end FloatLayout

/-- Fills a text up with zeros in front to a least length. -/
def padZeros (width : Nat) (s : String) : String :=
  FloatLayout.zeros (width - s.length) ++ s

/-- **The text of a double with `places` decimals.** The exact value is
rounded, and a half goes to the even neighbour. -/
def fixedPlaces (places : Nat) (x : Float) : String :=
  match Binary.ofFloat x with
  | .nan => "NaN"
  | .infinite negative => if negative then "-inf" else "inf"
  | .finite negative m e =>
    let scaled := ((Ratio.ofBinary m e).shift places).roundHalfEven
    let whole := toString (scaled / 10 ^ places)
    let sign := if negative then "-" else ""
    if places == 0 then sign ++ whole
    else sign ++ whole ++ "." ++ padZeros places (toString (scaled % 10 ^ places))

end Liveboard
