import Liveboard.Decimal.Binary

/-!
# Counts

Requests, streams and bytes are counted in unsigned words of 64 bits.
Counts never wrap: a sum that does not fit stays at the largest count
(`Count.add`). A count that the wire gives as a double is rounded, a half
going up, and is cut off at the largest count as well (`Count.ofBinary`).

A capped sum is as associative as a sum of numbers, so the order in which
deltas are merged does not matter to the counts.
-/

namespace Liveboard

/-- **A count of things.** -/
abbrev Count := UInt64

namespace Count

/-- The largest count. -/
def max : Nat := 2 ^ 64 - 1

/-- A whole number as a count, cut off at the largest one. -/
def ofNatCapped (n : Nat) : Count :=
  UInt64.ofNat (min n max)

/-- The sum of two counts, cut off at the largest one. -/
def add (a b : Count) : Count :=
  ofNatCapped (a.toNat + b.toNat)

/-- The value of a capped number. -/
theorem toNat_ofNatCapped (n : Nat) : (ofNatCapped n).toNat = min n max := by
  have h : min n max < 2 ^ 64 := by simp only [max]; omega
  simp only [ofNatCapped, UInt64.toNat_ofNat']
  omega

/-- The value of a sum. -/
theorem toNat_add (a b : Count) : (add a b).toNat = min (a.toNat + b.toNat) max :=
  toNat_ofNatCapped _

/-- **The count of a non-negative double**, rounded with halves going up.
What is no finite non-negative number has none. -/
def ofBinary? : Binary → Option Count
  | .finite negative m e =>
    if negative ∧ m ≠ 0 then none
    else some (ofNatCapped (Ratio.ofBinary m e).roundHalfUp)
  | _ => none

/-- A byte count in units of `2 ^ 30` bytes. -/
def gigabytes (bytes : Count) : Float :=
  bytes.toFloat / (1073741824 : UInt64).toFloat

end Count

end Liveboard
