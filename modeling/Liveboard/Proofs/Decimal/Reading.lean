import Mathlib.Algebra.Order.Field.Power
import Liveboard.Decimal.Reading
import Liveboard.Proofs.Decimal.Double

/-!
# The double nearest to a decimal

A decimal is a whole number times a power of ten, and it is read as the nearest double. It
is computed in four ways. A small whole number is multiplied or divided by a small power of
ten, both of which are doubles, so this rounds once. Others are worked out in whole
numbers. And where the number of digits shows that the decimal is far out of range, the
power is not computed at all: the double is zero or infinite, as it would be otherwise.

So all of them come to the same (`Double.rounds_floatOfDecimal`): the decimal, rounded, if
that is below `2 ^ 1024`, and infinite if not. What is read is never no number.

This is how decimals are read here. It is not true of every reader of numbers: one that is
content with its best effort multiplies doubles that are rounded already, and what it reads
of a long decimal may be a neighbour of the nearest double.
-/

namespace Liveboard

open Float.Model Float.Model.UnpackedFloat Rounding Unpacked

namespace Double

/-! ## Out of range -/

/-- What is not below the upper end is not rounded to anything below it. -/
theorem limit_le_abs_rounded {q : ℚ} (large : limit ≤ |q|) : limit ≤ |rounded q| := by
  have power : Representable limit := limit_eq ▸ representable_two_zpow (by norm_num)
  rcases abs_choice q with same | opposite
  · rw [same] at large
    have le := rounded_mono large
    rw [rounded_of_representable power] at le
    exact le.trans (le_abs_self _)
  · rw [opposite] at large
    have le := rounded_mono large
    rw [rounded_of_representable power, rounded_neg] at le
    exact le.trans (neg_le_abs _)

/-- **Zero is the result** of what is too small. -/
theorem rounds_zero {q : ℚ} (small : |q| < 2 ^ (-1075 : ℤ)) : Rounds 0.0 q := by
  have none := rounded_eq_zero small
  refine ⟨rfl, iff_of_true rfl ?_, fun _ => ?_⟩
  · rw [none, abs_zero]
    exact limit_pos
  · rw [none, exact, show Binary.ofFloat 0.0 = .finite false 0 (-1074) from rfl, Binary.value,
      Nat.cast_zero, zero_mul, mul_zero]

/-- **Infinity is the result** of what is too large. -/
theorem rounds_infinity {q : ℚ} (large : limit ≤ |q|) : Rounds (1.0 / 0.0) q := by
  have infinite : (1.0 / 0.0 : Float).isFinite = false := rfl
  refine ⟨rfl, ?_, fun finite => ?_⟩
  · rw [infinite]
    exact iff_of_false Bool.false_ne_true (not_lt.2 (limit_le_abs_rounded large))
  · rw [infinite] at finite
    cases finite

/-! ## Powers of ten -/

/-- The powers of ten that are doubles. -/
theorem representable_ten_pow {k : ℕ} (small : k ≤ 22) : Representable (10 ^ k) := by
  refine ⟨5 ^ k, k, ?_, by omega, ?_⟩
  · rw [abs_of_pos (by positivity)]
    calc (5 : ℤ) ^ k ≤ 5 ^ 22 := pow_le_pow_right₀ (by norm_num) small
      _ < 2 ^ 53 := by norm_num
  · rw [zpow_natCast]
    push_cast
    rw [← mul_pow]
    norm_num

theorem powersOfTen_eq : ∀ k : Fin 23, Float.exactlyRepresentablePowersOfTen[k]
    = OfScientific.ofScientific (10 ^ k.val) false 0 := by
  decide +kernel

/-- The table of the powers of ten. -/
theorem rounds_powersOfTen (k : Fin 23) :
    Float.exactlyRepresentablePowersOfTen[k].isFinite = true ∧
      exact Float.exactlyRepresentablePowersOfTen[k] = 10 ^ k.val := by
  have power := rounds_ofScientific (10 ^ k.val)
  rw [← powersOfTen_eq k] at power
  have same := rounded_of_representable (representable_ten_pow (Nat.le_of_lt_succ k.isLt))
  rw [Nat.cast_pow, Nat.cast_ofNat] at power
  have finite : Float.exactlyRepresentablePowersOfTen[k].isFinite = true := by
    rw [power.isFinite_iff, same, abs_of_pos (by positivity)]
    calc (10 : ℚ) ^ k.val ≤ 10 ^ 22 := pow_le_pow_right₀ (by norm_num) (Nat.le_of_lt_succ k.isLt)
      _ < 2 ^ 74 := by norm_num
      _ ≤ limit := pow_le_pow_right₀ (by norm_num) (by norm_num)
  exact ⟨finite, (power.exact_eq finite).trans same⟩

/-- A power of ten has more than three bits for each zero. -/
theorem two_pow_le_ten_pow (k : ℕ) : (2 : ℚ) ^ (3 * k) ≤ 10 ^ k := by
  rw [pow_mul]
  exact pow_le_pow_left₀ (by norm_num) (by norm_num) k

/-! ## Quotients -/

/-- **A whole number divided by a power of ten.** -/
theorem rounds_ofScientific_div (m : ℕ) {k : ℕ} (pos : 0 < k) :
    Rounds (OfScientific.ofScientific m true k) (m / 10 ^ k) := by
  show Rounds (Float.ofScientific m true k) (m / 10 ^ k)
  rw [Float.ofScientific]
  split
  · rename_i small
    have word : m.toUInt64.toNat = m := by
      show m % 2 ^ 64 = m
      omega
    obtain ⟨finite, power⟩ := rounds_powersOfTen ⟨k, by omega⟩
    have nonzero : (10 : ℚ) ^ k ≠ 0 := by positivity
    have quotient := rounds_div (isFinite_toFloat m.toUInt64) finite (power ▸ nonzero)
    rw [exact_toFloat, power, word,
      rounded_of_representable (representable_natCast small.1)] at quotient
    exact quotient
  · refine rounds_of_yields (u := UnpackedFloat.ofScientific .binary64 m (Int.negOfNat k)) rfl ?_
    have bits : (2 : ℤ) ^ Format.binary64.exponentBits = 2048 := by decide
    have few : ¬-(k : ℤ) > 2 ^ Format.binary64.exponentBits := by omega
    unfold UnpackedFloat.ofScientific
    by_cases zero : m = 0
    · rw [dif_pos zero, zero, Nat.cast_zero, zero_div, rounded_zero]
      exact ⟨rfl, trivial, rfl⟩
    rw [dif_neg zero, Int.negOfNat_eq, Int.ofNat_eq_natCast, if_neg few]
    by_cases far : -(k : ℤ) < -(2 ^ Format.binary64.exponentBits + m.log2)
    · have small : |(m / 10 ^ k : ℚ)| < 2 ^ (-1075 : ℤ) := by
        rw [abs_of_nonneg (by positivity), div_lt_iff₀ (by positivity)]
        calc (m : ℚ) < 2 ^ k := by
              exact_mod_cast Nat.lt_log2_self.trans_le (Nat.pow_le_pow_right two_pos (by omega))
          _ ≤ 2 ^ (-1075 + 3 * k : ℤ) := by
              rw [← zpow_natCast]
              exact two_zpow_le.2 (by omega)
          _ = 2 ^ (-1075 : ℤ) * 2 ^ (3 * k) := by
              rw [zpow_add₀ two_ne_zero]
              norm_cast
          _ ≤ 2 ^ (-1075 : ℤ) * 10 ^ k :=
              mul_le_mul_of_nonneg_left (two_pow_le_ten_pow k) (two_zpow_pos _).le
      rw [if_pos far, rounded_eq_zero small]
      exact ⟨rfl, trivial, rfl⟩
    · have result := yields_div_finite .positive .positive 0 0 (Nat.pos_of_ne_zero zero)
        (Nat.pow_pos (n := k) (show 0 < 10 by norm_num))
      rw [if_neg far, if_neg (by omega)]
      simp only [neg_neg, Int.toNat_natCast]
      rw [zpow_zero, mul_one, mul_one] at result
      rw [show unit (.positive / .positive) = 1 from rfl, one_mul, Nat.cast_pow,
        Nat.cast_ofNat] at result
      exact result

/-! ## Decimals -/

/-- A whole number has as many digits as the powers of ten around it say. -/
theorem lt_ten_zpow (m : ℕ) : (m : ℚ) < 10 ^ ((Nat.toDigits 10 m).length : ℤ) := by
  have less := (Nat.length_toDigits_le_iff (by norm_num) Nat.length_toDigits_pos).1
    (le_refl (Nat.toDigits 10 m).length)
  rw [zpow_natCast]
  exact_mod_cast less

theorem ten_zpow_le {m : ℕ} (pos : 0 < m) :
    (10 : ℚ) ^ ((Nat.toDigits 10 m).length - 1 : ℤ) ≤ m := by
  obtain ⟨k, length⟩ := Nat.exists_eq_succ_of_ne_zero
    (Nat.length_toDigits_pos (b := 10) (n := m)).ne'
  rw [length, Nat.cast_succ, add_sub_cancel_right, zpow_natCast]
  rcases Nat.eq_zero_or_pos k with rfl | more
  · exact_mod_cast pos
  · have least := (Nat.length_toDigits_le_iff (b := 10) (n := m) (by norm_num) more).not.1
      (by omega)
    exact_mod_cast not_lt.1 least

/-- **A decimal is read as the nearest double**, whichever way `floatOfDecimal` computes
it. -/
theorem rounds_floatOfDecimal (negative : Bool) (m : ℕ) (e : ℤ) :
    Rounds (floatOfDecimal negative m e) ((if negative then -1 else 1) * (m * 10 ^ e)) := by
  have nonneg : (0 : ℚ) ≤ m * 10 ^ e := by positivity
  have magnitude : ∀ magnitude, Rounds magnitude (m * 10 ^ e) →
      Rounds (if negative then -magnitude else magnitude)
        ((if negative then -1 else 1) * (m * 10 ^ e)) := by
    intro magnitude result
    cases negative with
    | false =>
      rw [if_neg Bool.false_ne_true, if_neg Bool.false_ne_true, one_mul]
      exact result
    | true =>
      rw [if_pos rfl, if_pos rfl, neg_one_mul]
      exact result.neg
  unfold floatOfDecimal
  refine magnitude _ ?_
  simp only [Bool.or_eq_true, beq_iff_eq, decide_eq_true_eq]
  split_ifs with out above whole
  · refine rounds_zero ?_
    rw [abs_of_nonneg nonneg]
    rcases out with rfl | low
    · rw [Nat.cast_zero, zero_mul]
      exact two_zpow_pos _
    · calc (m : ℚ) * 10 ^ e < 10 ^ ((Nat.toDigits 10 m).length : ℤ) * 10 ^ e :=
            mul_lt_mul_of_pos_right (lt_ten_zpow m) (by positivity)
        _ = 10 ^ ((Nat.toDigits 10 m).length + e) := (zpow_add₀ (by norm_num) _ _).symm
        _ ≤ 10 ^ (-(400 : ℕ) : ℤ) := zpow_le_zpow_right₀ (by norm_num) low.le
        _ ≤ 2 ^ (-(3 * 400 : ℕ) : ℤ) := by
            rw [zpow_neg, zpow_neg, zpow_natCast, zpow_natCast]
            exact inv_anti₀ (by positivity) (two_pow_le_ten_pow 400)
        _ ≤ 2 ^ (-1075 : ℤ) := two_zpow_le.2 (by norm_num)
  · refine rounds_infinity ?_
    rw [abs_of_nonneg nonneg]
    have pos : 0 < m := Nat.pos_of_ne_zero fun zero => out (.inl zero)
    calc limit ≤ 2 ^ (3 * 400) := pow_le_pow_right₀ one_le_two (by norm_num)
      _ ≤ 10 ^ 400 := two_pow_le_ten_pow 400
      _ = 10 ^ ((400 : ℕ) : ℤ) := (zpow_natCast ..).symm
      _ ≤ 10 ^ ((Nat.toDigits 10 m).length - 1 + e : ℤ) :=
          zpow_le_zpow_right₀ (by norm_num) (by omega)
      _ = 10 ^ ((Nat.toDigits 10 m).length - 1 : ℤ) * 10 ^ e := zpow_add₀ (by norm_num) _ _
      _ ≤ m * 10 ^ e := mul_le_mul_of_nonneg_right (ten_zpow_le pos) (by positivity)
  · obtain ⟨k, rfl⟩ := Int.eq_ofNat_of_zero_le whole
    have result := rounds_ofScientific (m * 10 ^ k)
    rw [Nat.cast_mul, Nat.cast_pow, Nat.cast_ofNat] at result
    rw [zpow_natCast]
    exact result
  · obtain ⟨k, rfl⟩ : ∃ k : ℕ, e = -k := ⟨(-e).toNat, by omega⟩
    have result := rounds_ofScientific_div m (k := k) (by omega)
    rw [neg_neg, Int.toNat_natCast, zpow_neg, zpow_natCast, ← div_eq_mul_inv]
    exact result

end Double

end Liveboard
