/-!
# Punycode

A label of a domain name that is not ASCII is written in ASCII: its ASCII
characters first, then the places and values of the others as numbers of
variable length in base 36, where the thresholds between the digits follow
the size of the numbers seen so far. Places and values are one number, which
counts the steps of going through all places again and again for one value
after the other.
-/

namespace Liveboard.Punycode

/-- A digit in base 36: the letters come first. -/
def digit (n : Nat) : Char :=
  if n < 26 then Char.ofNat (97 + n) else Char.ofNat (22 + n)

/-- The value of a digit. -/
def digitValue? (c : Char) : Option Nat :=
  if 'a' ≤ c && c ≤ 'z' then some (c.toNat - 97)
  else if 'A' ≤ c && c ≤ 'Z' then some (c.toNat - 65)
  else if '0' ≤ c && c ≤ '9' then some (c.toNat - 22)
  else none

/-- The threshold of the digit at a place, between 1 and 26. -/
def threshold (place bias : Nat) : Nat :=
  min 26 (max 1 (place - bias))

theorem threshold_pos (place bias : Nat) : 1 ≤ threshold place bias := by
  unfold threshold; omega

/-- Divides by 35 until at most 455 is left, and counts 36 for each. -/
def shrink (delta places : Nat) : Nat × Nat :=
  if 455 < delta then shrink (delta / 35) (places + 36) else (delta, places)
termination_by delta
decreasing_by omega

/-- The bias after a number was seen. -/
def adapt (delta points : Nat) (first : Bool) : Nat :=
  let scaled := if first then delta / 700 else delta / 2
  let (rest, places) := shrink (scaled + scaled / points) 0
  places + 36 * rest / (rest + 38)

/-- The digits of a number, the lowest first. -/
def digits (bias place n : Nat) : List Char :=
  let t := threshold place bias
  if n < t then [digit n]
  else digit (t + (n - t) % (36 - t)) :: digits bias (place + 36) ((n - t) / (36 - t))
termination_by n
decreasing_by
  have := threshold_pos place bias
  exact Nat.lt_of_le_of_lt (Nat.div_le_self _ _) (by omega)

/-- What is known while a label is written. -/
structure Writer where
  /-- The digits so far. -/
  done : List Char
  /-- The number to write next. -/
  delta : Nat
  /-- The bias. -/
  bias : Nat
  /-- The characters written so far. -/
  count : Nat

/-- A character of the label while those of the value `point` are written.
`basic` is the number of the ASCII characters. -/
def Writer.pass (basic point : Nat) (w : Writer) (c : Char) : Writer :=
  if c.toNat < point then { w with delta := w.delta + 1 }
  else if c.toNat = point then
    { done := w.done ++ digits w.bias 36 w.delta
      delta := 0
      bias := adapt w.delta (w.count + 1) (w.count = basic)
      count := w.count + 1 }
  else w

/-- Writes the characters of the values `points`, which increase. -/
def Writer.passes (label : List Char) (basic : Nat) : Nat → List Nat → Writer → Writer
  | _, [], w => w
  | start, point :: rest, w =>
    let w := label.foldl (pass basic point)
      { w with delta := w.delta + (point - start) * (w.count + 1) }
    passes label basic (point + 1) rest { w with delta := w.delta + 1 }

/-- **The ASCII form of a label.** -/
def encode (label : List Char) : List Char :=
  let basic := label.filter fun c => c.toNat < 128
  let points := ((label.filter fun c => 128 ≤ c.toNat).map Char.toNat).mergeSort.eraseDups
  let w := Writer.passes label basic.length 128 points ⟨[], 0, 72, basic.length⟩
  basic ++ (if basic.isEmpty then [] else ['-']) ++ w.done

/-- Reads a number: its value added to `total`, and what follows it. -/
def number? (bias : Nat) (place weight total : Nat) : List Char → Option (Nat × List Char)
  | [] => none
  | c :: rest => do
    let d ← digitValue? c
    let total := total + d * weight
    let t := threshold place bias
    if d < t then return (total, rest)
    else number? bias (place + 36) (weight * (36 - t)) total rest

/-- Reads the numbers one after the other; `fuel` bounds how many. -/
def decodeFrom? (point place bias : Nat) (done : List Char) :
    Nat → List Char → Option (List Char)
  | _, [] => some done
  | 0, _ => none
  | fuel + 1, cs => do
    let (next, rest) ← number? bias 36 1 place cs
    let size := done.length + 1
    let point := point + next / size
    if h : point.isValidChar then
      let index := next % size
      decodeFrom? point (index + 1) (adapt (next - place) size (place = 0))
        (done.take index ++ Char.ofNatAux point h :: done.drop index) fuel rest
    else none

/-- **The label of an ASCII form.** What stands before the last hyphen are
its ASCII characters. -/
def decode? (cs : List Char) : Option (List Char) :=
  let tail := (cs.reverse.takeWhile (· ≠ '-')).reverse
  let basic := (cs.take (cs.length - tail.length)).dropLast
  decodeFrom? 128 0 72 basic tail.length tail

end Liveboard.Punycode
