import Mathlib.Algebra.Order.Floor.Semifield
import Liveboard.Wire.Scalar
import Liveboard.Proofs.Decimal.Double

/-!
# Numbers in JSON

A number in JSON is a whole number or a double, and either way it is a fraction
(`Json.amount?`). A count is read from the fraction alone: it is rounded, halves going
up, and cut off at the largest count. A whole number is not changed by this, so it is
counted exactly, however large it is.

A measurement is a double. One that was written as a double is taken as it is, and one
that was written as a whole number becomes the nearest double; above `2 ^ 53` that need
not be the same number (`Scalar.stands_of_measure`).

Values are assumed to be as they are read from a text (`Json.Proper`). A double in one of
them is finite then, and so it is a fraction as well.
-/

namespace Liveboard

open Rounding

/-- **A value as it is read from a text**: whole numbers have 64 bits, doubles are finite,
and an object has each key once. -/
inductive Json.Proper : Json → Prop where
  /-- The value `null`. -/
  | null : Proper .null
  /-- A truth value. -/
  | bool (b : Bool) : Proper (.bool b)
  /-- A whole number. -/
  | int {n : Int} (least : -2 ^ 63 ≤ n) (most : n < 2 ^ 64) : Proper (.int n)
  /-- A double. -/
  | float {x : Float} (finite : x.isFinite = true) : Proper (.float x)
  /-- A text. -/
  | string (s : String) : Proper (.string s)
  /-- A list. -/
  | array {items : List Json} (each : ∀ v ∈ items, Proper v) : Proper (.array items)
  /-- An object. -/
  | object {members : List (String × Json)} (keys : (members.map (·.1)).Nodup)
      (each : ∀ m ∈ members, Proper m.2) : Proper (.object members)

/-- Counts have 64 bits. -/
theorem Json.proper_toNat (n : Count) : (Json.int n.toNat).Proper := by
  have bound := n.toNat_lt
  exact .int (by omega) (by omega)

/-- **The number that a value is.** -/
def Json.amount? : Json → Option ℚ
  | .int n => some n
  | .float x => if x.isFinite then some (Double.exact x) else none
  | _ => none

/-! ## Counts -/

namespace Ratio

/-- The fraction that a numerator and a denominator are. -/
def value (r : Ratio) : ℚ :=
  r.num / r.den

theorem value_ofBinary (m : Nat) (e : Int) : (ofBinary m e).value = m * 2 ^ e := by
  rw [ofBinary]
  split
  · rename_i nonneg
    obtain ⟨k, rfl⟩ := Int.eq_ofNat_of_zero_le nonneg
    simp [value]
  · rename_i neg
    obtain ⟨k, hk⟩ : ∃ k : ℕ, e = -k := ⟨(-e).toNat, by omega⟩
    subst hk
    simp [value, div_eq_mul_inv]

theorem den_ofBinary_pos (m : Nat) (e : Int) : 0 < (ofBinary m e).den := by
  rw [ofBinary]
  split
  · exact Nat.one_pos
  · exact Nat.two_pow_pos _

/-- Halves go up. -/
theorem roundHalfUp_eq {r : Ratio} (pos : 0 < r.den) : r.roundHalfUp = ⌊r.value + 1 / 2⌋₊ := by
  have sum : r.value + 1 / 2 = ((2 * r.num + r.den : ℕ) : ℚ) / ((2 * r.den : ℕ) : ℚ) := by
    have : (r.den : ℚ) ≠ 0 := by exact_mod_cast pos.ne'
    rw [value]
    push_cast
    field_simp
  rw [sum, Nat.floor_div_eq_div, roundHalfUp]

end Ratio

/-- **The count of a finite double** that is not negative. -/
theorem Count.ofBinary?_eq_some_iff {x : Float} {n : Count} :
    Count.ofBinary? (Binary.ofFloat x) = some n ↔
      x.isFinite = true ∧ 0 ≤ Double.exact x ∧
        n = Count.ofNatCapped ⌊Double.exact x + 1 / 2⌋₊ := by
  rw [Double.isFinite_iff, Double.exact]
  cases Binary.ofFloat x with
  | nan | infinite =>
    refine iff_of_false (fun no => by cases no) ?_
    rintro ⟨⟨_, _, _, no⟩, -⟩
    cases no
  | finite negative m e =>
    rw [and_iff_right ⟨_, _, _, rfl⟩, Count.ofBinary?]
    by_cases below : negative = true ∧ m ≠ 0
    · obtain ⟨rfl, nonzero⟩ := below
      have pos : (0 : ℚ) < m * 2 ^ e :=
        mul_pos (by exact_mod_cast Nat.pos_of_ne_zero nonzero) (two_zpow_pos e)
      rw [if_pos ⟨rfl, nonzero⟩, Binary.value, if_pos rfl, neg_one_mul]
      exact iff_of_false (fun no => by cases no) fun h => by linarith [h.1]
    · have worth : (Binary.finite negative m e).value = (Ratio.ofBinary m e).value := by
        rw [Binary.value, Ratio.value_ofBinary]
        cases negative with
        | false => exact one_mul _
        | true =>
          obtain rfl : m = 0 := by simpa using below
          simp
      have nonneg : 0 ≤ (Ratio.ofBinary m e).value := by
        rw [Ratio.value_ofBinary]
        exact mul_nonneg (Nat.cast_nonneg m) (two_zpow_pos e).le
      rw [if_neg below, worth, Option.some_inj, Ratio.roundHalfUp_eq (Ratio.den_ofBinary_pos m e),
        and_iff_right nonneg]
      exact eq_comm

/-- A whole number is not changed by rounding. -/
theorem floor_natCast_add_half (n : ℕ) : ⌊(n : ℚ) + 1 / 2⌋₊ = n := by
  rw [Nat.floor_eq_iff (by positivity)]
  constructor <;> linarith

theorem floor_intCast_add_half {n : Int} (nonneg : 0 ≤ n) : ⌊(n : ℚ) + 1 / 2⌋₊ = n.toNat := by
  obtain ⟨k, rfl⟩ := Int.eq_ofNat_of_zero_le nonneg
  rw [Int.cast_natCast, floor_natCast_add_half, Int.toNat_natCast]

namespace Scalar

/-- **What is a count, and which one**: a number that is not negative, rounded and cut
off. -/
theorem count_ok_iff {v : Json} {n : Count} :
    count v = .ok n ↔
      ∃ q, v.amount? = some q ∧ 0 ≤ q ∧ n = Count.ofNatCapped ⌊q + 1 / 2⌋₊ := by
  cases v with
  | int k =>
    rw [count]
    by_cases nonneg : 0 ≤ k
    · rw [if_pos nonneg]
      constructor
      · intro ok
        refine ⟨k, rfl, by exact_mod_cast nonneg, ?_⟩
        rw [floor_intCast_add_half nonneg]
        exact (Except.ok.inj ok).symm
      · rintro ⟨q, same, -, rfl⟩
        obtain rfl := Option.some.inj same
        rw [floor_intCast_add_half nonneg]
    · rw [if_neg nonneg]
      refine iff_of_false (fun no => by cases no) ?_
      rintro ⟨q, same, nonneg', -⟩
      obtain rfl := Option.some.inj same
      exact nonneg (by exact_mod_cast nonneg')
  | float x =>
    have read : count (.float x) = .ok n ↔ Count.ofBinary? (Binary.ofFloat x) = some n := by
      rw [count]
      cases Count.ofBinary? (Binary.ofFloat x) <;> simp
    rw [read, Count.ofBinary?_eq_some_iff, Json.amount?]
    cases finite : x.isFinite with
    | false => simp
    | true => simp
  | null | bool | string | array | object =>
    refine iff_of_false (fun no => by cases no) ?_
    rintro ⟨_, no, -⟩
    cases no

/-- **A count is read as it was written.** -/
theorem count_toNat (n : Count) : count (.int n.toNat) = .ok n := by
  refine count_ok_iff.2 ⟨n.toNat, rfl, Nat.cast_nonneg _, ?_⟩
  rw [← UInt64.toNat_inj, Count.toNat_ofNatCapped, floor_natCast_add_half]
  exact (Nat.min_eq_left (Nat.le_pred_of_lt n.toNat_lt)).symm

/-! ## Measurements -/

theorem rounds_floatOfInt (n : Int) : Double.Rounds (floatOfInt n) n := by
  have magnitude := Double.rounds_ofScientific n.natAbs
  rw [Nat.cast_natAbs] at magnitude
  rw [floatOfInt]
  split
  · rename_i neg
    rw [abs_of_neg neg, Int.cast_neg] at magnitude
    have opposite := magnitude.neg
    rw [neg_neg] at opposite
    exact opposite
  · rename_i nonneg
    rw [abs_of_nonneg (not_lt.1 nonneg)] at magnitude
    exact magnitude

/-- Whole numbers of 64 bits are in the range of the doubles. -/
theorem isFinite_floatOfInt {n : Int} (least : -2 ^ 63 ≤ n) (most : n < 2 ^ 64) :
    (floatOfInt n).isFinite = true := by
  have bound : |(n : ℚ)| ≤ 2 ^ (64 : ℤ) := by
    have : |n| ≤ 2 ^ 64 := abs_le.2 ⟨by omega, by omega⟩
    exact_mod_cast this
  rw [(rounds_floatOfInt n).isFinite_iff, Double.limit_eq]
  exact (abs_rounded_le (representable_two_zpow (by norm_num)) bound).trans_lt
    (zpow_lt_zpow_right₀ one_lt_two (by norm_num))

/-- A whole number below zero is not rounded to zero. -/
theorem rounded_intCast_nonneg_iff (n : Int) : 0 ≤ rounded n ↔ 0 ≤ n := by
  refine ⟨fun nonneg => not_lt.1 fun neg => ?_,
    fun nonneg => rounded_nonneg (by exact_mod_cast nonneg)⟩
  have le : rounded n ≤ rounded (-1) := rounded_mono (by exact_mod_cast Int.le_sub_one_of_lt neg)
  rw [rounded_of_representable representable_one.neg] at le
  linarith

/-- **A number as a double**: the nearest one, which is not below zero unless the number
is. -/
structure Stands (x : Float) (q : ℚ) : Prop where
  /-- It is finite. -/
  isFinite : x.isFinite = true
  /-- It is the nearest one. -/
  exact_eq : Double.exact x = rounded q
  /-- It has the sign of the number. -/
  zero_le_iff : 0.0 ≤ x ↔ 0 ≤ q

theorem stands_of_number? {v : Json} (proper : v.Proper) {x : Float} (number : number? v = some x) :
    ∃ q, v.amount? = some q ∧ Stands x q := by
  cases proper with
  | @int n least most =>
    obtain rfl := Option.some.inj number
    have finite := isFinite_floatOfInt least most
    have worth := (rounds_floatOfInt n).exact_eq finite
    refine ⟨n, rfl, finite, worth, ?_⟩
    rw [Double.zero_le_iff finite, worth, rounded_intCast_nonneg_iff, Int.cast_nonneg_iff]
  | @float x finite =>
    obtain rfl := Option.some.inj number
    exact ⟨_, if_pos finite, finite, (rounded_of_representable (Double.representable_exact x)).symm,
      Double.zero_le_iff finite⟩
  | null | bool | string | array | object => cases number

theorem exists_number? {v : Json} {q : ℚ} (amount : v.amount? = some q) :
    ∃ x, number? v = some x := by
  cases v with
  | int | float => exact ⟨_, rfl⟩
  | null | bool | string | array | object => cases amount

theorem measure_ok_iff {v : Json} {x : Float} :
    measure v = .ok x ↔ number? v = some x ∧ x.isFinite = true ∧ 0.0 ≤ x := by
  rw [measure, double]
  cases number : number? v with
  | none => exact iff_of_false (fun no => by cases no) fun h => by cases h.1
  | some y =>
    show (if (y.isFinite && decide (0.0 ≤ y)) = true then Except.ok y
      else .error (Fault.badMeasure y)) = .ok x ↔ _
    simp only [Bool.and_eq_true, decide_eq_true_eq]
    by_cases good : y.isFinite = true ∧ 0.0 ≤ y
    · rw [if_pos good, Except.ok.injEq, Option.some_inj]
      exact ⟨fun same => ⟨same, same ▸ good⟩, fun h => h.1⟩
    · rw [if_neg good]
      refine iff_of_false (fun no => by cases no) fun h => good ?_
      obtain rfl := Option.some.inj h.1
      exact h.2

/-- **What is a measurement**: a number that is not negative. -/
theorem exists_measure_iff {v : Json} (proper : v.Proper) :
    (∃ x, measure v = .ok x) ↔ ∃ q, v.amount? = some q ∧ 0 ≤ q := by
  simp only [measure_ok_iff]
  constructor
  · rintro ⟨x, number, -, nonneg⟩
    obtain ⟨q, amount, stands⟩ := stands_of_number? proper number
    exact ⟨q, amount, stands.zero_le_iff.1 nonneg⟩
  · rintro ⟨q, amount, nonneg⟩
    obtain ⟨x, number⟩ := exists_number? amount
    obtain ⟨q', amount', stands⟩ := stands_of_number? proper number
    obtain rfl := Option.some.inj (amount.symm.trans amount')
    exact ⟨x, number, stands.isFinite, stands.zero_le_iff.2 nonneg⟩

/-- **Which measurement it is**: the nearest double. -/
theorem stands_of_measure {v : Json} (proper : v.Proper) {x : Float} (ok : measure v = .ok x) :
    ∃ q, v.amount? = some q ∧ 0 ≤ q ∧ Stands x q := by
  obtain ⟨number, -, nonneg⟩ := measure_ok_iff.1 ok
  obtain ⟨q, amount, stands⟩ := stands_of_number? proper number
  exact ⟨q, amount, stands.zero_le_iff.1 nonneg, stands⟩

end Scalar

end Liveboard
