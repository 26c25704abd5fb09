import Liveboard.Decimal.Binary

/-!
# Reading numbers

Numbers as people write them in settings: a whole number with an optional
sign, and a double with an optional sign, point and exponent, or as one of
the words for infinity and for what is no number. `readSigned?` and
`readUnsigned?` read whole numbers of 64 bits, `readDouble?` doubles.

A double is always the one nearest to what is written (`floatOfDecimal`),
however many digits that has.
-/

namespace Liveboard

/-- The whole number that a run of decimal digits writes. -/
def digitsValue (cs : List Char) : Nat :=
  cs.foldl (fun n c => n * 10 + (c.toNat - '0'.toNat)) 0

/-- **The double nearest to `m · 10 ^ e`**, infinite when that is beyond
the largest double. Exponents far outside the range of doubles are settled
by the number of digits, without computing the power. -/
def floatOfDecimal (negative : Bool) (m : Nat) (e : Int) : Float :=
  let position := (Nat.toDigits 10 m).length + e
  let magnitude : Float :=
    if m == 0 || position < -400 then 0.0
    else if 400 < position then 1.0 / 0.0
    else if 0 ≤ e then OfScientific.ofScientific (m * 10 ^ e.toNat) false 0
    else OfScientific.ofScientific m true (-e).toNat
  if negative then -magnitude else magnitude

/-- Splits a sign off; whether it is a minus, and what follows it. -/
def splitSign : List Char → Bool × List Char
  | '-' :: rest => (true, rest)
  | '+' :: rest => (false, rest)
  | rest => (false, rest)

/-- Whether a list is a run of at least one decimal digit. -/
def isDigits (cs : List Char) : Bool :=
  !cs.isEmpty && cs.all Char.isDigit

/-- **A whole number of 64 bits with a sign.** -/
def readSigned? (s : String) : Option Int :=
  let (negative, digits) := splitSign s.toList
  let n := digitsValue digits
  if !isDigits digits then none
  else if negative then if n ≤ 2 ^ 63 then some (-(n : Int)) else none
  else if n < 2 ^ 63 then some n
  else none

/-- **A whole number of 64 bits without a sign**; a plus is allowed. -/
def readUnsigned? (s : String) : Option Nat :=
  let digits := match s.toList with
    | '+' :: rest => rest
    | cs => cs
  if isDigits digits && digitsValue digits < 2 ^ 64 then some (digitsValue digits) else none

/-- The words for doubles that are no finite number. -/
def specialDoubles : List (String × Float) :=
  [("inf", 1.0 / 0.0), ("infinity", 1.0 / 0.0), ("nan", 0.0 / 0.0)]

/-- An exponent, if there is one, that takes up the whole list. -/
def readExponent? : List Char → Option Int
  | [] => some 0
  | mark :: rest =>
    if mark = 'e' || mark = 'E' then
      let (negative, digits) := splitSign rest
      if isDigits digits then
        some (if negative then -(digitsValue digits : Int) else digitsValue digits)
      else none
    else none

/-- **A double.** There is a digit before or after the point, and the
point may be left out. -/
def readDouble? (s : String) : Option Float :=
  let (negative, cs) := splitSign s.toList
  match specialDoubles.lookup (String.ofList (cs.map Char.toLower)) with
  | some x => some (if negative then -x else x)
  | none =>
    let whole := cs.takeWhile Char.isDigit
    let rest := cs.dropWhile Char.isDigit
    let (fraction, rest) := match rest with
      | '.' :: rest => (rest.takeWhile Char.isDigit, rest.dropWhile Char.isDigit)
      | rest => ([], rest)
    if whole.isEmpty && fraction.isEmpty then none
    else (readExponent? rest).map fun e =>
      floatOfDecimal negative (digitsValue (whole ++ fraction)) (e - (fraction.length : Int))

/-- A number may start or end with its point. -/
example : (readDouble? ".5").isSome ∧ (readDouble? "5.").isSome ∧ readDouble? "." = none := by
  decide

/-- Leading zeros count for nothing. -/
example : readSigned? "-007" = some (-7) := by decide

end Liveboard
