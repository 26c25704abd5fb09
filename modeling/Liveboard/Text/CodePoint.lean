/-!
# Characters by number

A character can be written as the hexadecimal digits of its code point. The
notations for settings all have escapes of this kind, of different lengths, and
share `CodePoint.ofDigits?`, which is given the digits and refuses what is no
character.
-/

namespace Liveboard.CodePoint

/-- The value of a hexadecimal digit. -/
def hexValue? (c : Char) : Option Nat :=
  if c.isDigit then some (c.toNat - '0'.toNat)
  else if 'a' ≤ c ∧ c ≤ 'f' then some (c.toNat - 'a'.toNat + 10)
  else if 'A' ≤ c ∧ c ≤ 'F' then some (c.toNat - 'A'.toNat + 10)
  else none

/-- The number that hexadecimal digits write. -/
def number? (digits : List Char) : Option Nat :=
  if digits.isEmpty then none
  else digits.foldlM (fun n c => (hexValue? c).map (n * 16 + ·)) 0

/-- **The character that some digits write**, if there is one of that
number; halves of surrogate pairs are none. -/
def ofDigits? (digits : List Char) : Option Char := do
  let n ← number? digits
  if n.isValidChar then some (Char.ofNat n) else none

end Liveboard.CodePoint
