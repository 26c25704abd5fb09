import Mathlib.Algebra.Order.Archimedean.Basic
import Mathlib.Algebra.Order.Floor.Ring
import Mathlib.Data.Int.Log
import Mathlib.Data.Rat.Floor
import Mathlib.Tactic.FieldSimp
import Mathlib.Tactic.Linarith
import Mathlib.Tactic.Positivity
import Mathlib.Tactic.Ring
import Liveboard.Decimal.Binary

/-!
# Rounding to doubles

The finite doubles are the fractions `m * 2 ^ e` with a whole number `m` of at
most 53 bits and an exponent `e` of at least `-1074`. The fractions near some
`x` lie on a grid whose width is a power of two (`Rounding.grid`). To round `x`
is to move it to the nearest point of this grid, and half way between two points
to the one with an even multiple (`Rounding.rounded`).

No upper end is assumed here. A result of `2 ^ 1024` or more is what a double
cannot hold; the arithmetic of doubles gives infinity where the rounded result
is such. This way the four facts that everything rests on have no side
conditions: rounding leaves the `Rounding.Representable` fractions as they are
and ends in them, keeps the order (`Rounding.rounded_mono`), has nothing
representable nearer (`Rounding.abs_sub_rounded_le`), and commutes with powers
of two as long as the least exponent is out of sight
(`Rounding.rounded_two_zpow_mul`).
-/

namespace Liveboard.Rounding

/-! ## Whole numbers -/

/-- **The nearest whole number**; half way between two the even one. -/
def halfEven (q : ℚ) : ℤ :=
  if Int.fract q < 1 / 2 then ⌊q⌋
  else if 1 / 2 < Int.fract q then ⌊q⌋ + 1
  else ⌊q⌋ + ⌊q⌋ % 2

theorem floor_le_halfEven (q : ℚ) : ⌊q⌋ ≤ halfEven q := by
  unfold halfEven
  split_ifs <;> omega

theorem halfEven_le_floor_add_one (q : ℚ) : halfEven q ≤ ⌊q⌋ + 1 := by
  unfold halfEven
  split_ifs <;> omega

@[simp] theorem halfEven_intCast (n : ℤ) : halfEven n = n := by
  rw [halfEven, Int.fract_intCast, if_pos (by norm_num), Int.floor_intCast]

theorem halfEven_mono {p q : ℚ} (le : p ≤ q) : halfEven p ≤ halfEven q := by
  rcases (Int.floor_le_floor le).lt_or_eq with less | same
  · calc halfEven p ≤ ⌊p⌋ + 1 := halfEven_le_floor_add_one p
      _ ≤ ⌊q⌋ := less
      _ ≤ halfEven q := floor_le_halfEven q
  · have fract : Int.fract p ≤ Int.fract q := by
      rw [Int.fract, Int.fract, same]
      linarith
    unfold halfEven
    rw [same]
    split_ifs <;> first | omega | linarith

theorem halfEven_neg (q : ℚ) : halfEven (-q) = -halfEven q := by
  by_cases whole : Int.fract q = 0
  · have eq : q = (⌊q⌋ : ℤ) := by
      rw [← sub_eq_zero]
      exact whole
    rw [eq, ← Int.cast_neg, halfEven_intCast, halfEven_intCast]
  · have fract : Int.fract (-q) = 1 - Int.fract q := Int.fract_neg whole
    have floor : ⌊-q⌋ = -⌊q⌋ - 1 := by
      have exact : ((⌊-q⌋ : ℤ) : ℚ) = ((-⌊q⌋ - 1 : ℤ) : ℚ) := by
        have here := Int.floor_add_fract q
        have there := Int.floor_add_fract (-q)
        push_cast
        linarith
      exact_mod_cast exact
    unfold halfEven
    rw [fract, floor]
    split_ifs <;> first | omega | linarith

/-- **No whole number is nearer.** -/
theorem abs_sub_halfEven_le (q : ℚ) (n : ℤ) : |q - halfEven q| ≤ |q - n| := by
  have sum := Int.floor_add_fract q
  have nonneg := Int.fract_nonneg q
  have less := Int.fract_lt_one q
  -- Other whole numbers are as far away as one of the two neighbours.
  have far : Int.fract q ≤ |q - n| ∨ 1 - Int.fract q ≤ |q - n| := by
    rcases le_or_gt n ⌊q⌋ with below | above
    · have : (n : ℚ) ≤ ⌊q⌋ := by exact_mod_cast below
      left
      rw [le_abs]
      left
      linarith
    · have : (⌊q⌋ : ℚ) + 1 ≤ n := by exact_mod_cast above
      right
      rw [le_abs]
      right
      linarith
  have low : |q - (⌊q⌋ : ℤ)| = Int.fract q := by
    rw [Int.self_sub_floor]
    exact abs_of_nonneg nonneg
  have high : |q - ((⌊q⌋ + 1 : ℤ) : ℚ)| = 1 - Int.fract q := by
    rw [abs_sub_comm, abs_of_nonneg] <;> push_cast <;> linarith
  unfold halfEven
  split_ifs with small large
  · rw [low]
    rcases far with far | far <;> linarith
  · rw [high]
    rcases far with far | far <;> linarith
  · have half : Int.fract q = 1 / 2 := le_antisymm (not_lt.1 large) (not_lt.1 small)
    have either : |q - ((⌊q⌋ + ⌊q⌋ % 2 : ℤ) : ℚ)| = 1 / 2 := by
      rcases Int.emod_two_eq_zero_or_one ⌊q⌋ with even | odd
      · rw [even, add_zero, low, half]
      · rw [odd, high, half]
        norm_num
    rw [either]
    rcases far with far | far <;> linarith

theorem abs_sub_halfEven_le_half (q : ℚ) : |q - halfEven q| ≤ 1 / 2 :=
  (abs_sub_halfEven_le q (round q)).trans (abs_sub_round q)

/-- What is nearer than one half. -/
theorem halfEven_eq {q : ℚ} {n : ℤ} (near : |q - n| < 1 / 2) : halfEven q = n := by
  have nearest := (abs_sub_halfEven_le q n).trans_lt near
  rw [abs_lt] at near nearest
  have less : ((halfEven q - n : ℤ) : ℚ) < 1 := by push_cast; linarith
  have more : (-1 : ℚ) < ((halfEven q - n : ℤ) : ℚ) := by push_cast; linarith
  have less : halfEven q - n < 1 := by exact_mod_cast less
  have more : -1 < halfEven q - n := by exact_mod_cast more
  omega

theorem halfEven_nonneg {q : ℚ} (nonneg : 0 ≤ q) : 0 ≤ halfEven q := by
  rw [← halfEven_intCast 0]
  exact halfEven_mono (by exact_mod_cast nonneg)

/-! ## The grid -/

variable {x y z : ℚ}

/-- **The grid around a fraction** has the width `2 ^ grid x`: 53 bits from the first
one of the fraction on, but nothing below `2 ^ (-1074)`. -/
def grid (x : ℚ) : ℤ :=
  max (Int.log 2 |x| - 52) (-1074)

theorem grid_neg (x : ℚ) : grid (-x) = grid x := by
  rw [grid, grid, abs_neg]

theorem neg_1074_le_grid (x : ℚ) : -1074 ≤ grid x :=
  le_max_right ..

theorem two_zpow_pos (k : ℤ) : (0 : ℚ) < 2 ^ k :=
  zpow_pos two_pos k

theorem two_zpow_le {k l : ℤ} : (2 : ℚ) ^ k ≤ 2 ^ l ↔ k ≤ l :=
  zpow_le_zpow_iff_right₀ one_lt_two

/-- A factor that is a power of two moves the first bit. -/
theorem log_two_zpow_mul (k : ℤ) (pos : 0 < x) : Int.log 2 (2 ^ k * x) = k + Int.log 2 x := by
  have power := two_zpow_pos k
  have low : (2 : ℚ) ^ Int.log 2 x ≤ x := by
    exact_mod_cast Int.zpow_log_le_self (R := ℚ) one_lt_two pos
  have high : x < 2 ^ (Int.log 2 x + 1) := by
    exact_mod_cast Int.lt_zpow_succ_log_self (R := ℚ) one_lt_two x
  refine le_antisymm ?_ ?_
  · rw [← Int.lt_add_one_iff, ← Int.lt_zpow_iff_log_lt one_lt_two (mul_pos power pos), add_assoc]
    push_cast
    rw [zpow_add₀ two_ne_zero]
    exact mul_lt_mul_of_pos_left high power
  · rw [← Int.zpow_le_iff_le_log one_lt_two (mul_pos power pos)]
    push_cast
    rw [zpow_add₀ two_ne_zero]
    exact mul_le_mul_of_nonneg_left low power.le

theorem abs_lt_two_zpow_grid (x : ℚ) : |x| < 2 ^ (grid x + 53) := by
  have less : |x| < 2 ^ (Int.log 2 |x| + 1) := by
    exact_mod_cast Int.lt_zpow_succ_log_self (R := ℚ) one_lt_two |x|
  refine less.trans_le (two_zpow_le.2 ?_)
  have := le_max_left (Int.log 2 |x| - 52) (-1074)
  rw [grid]
  omega

/-- Above the finest grid a fraction has 53 bits. -/
theorem two_zpow_grid_le_abs (nonzero : x ≠ 0) (coarse : -1074 < grid x) :
    2 ^ (grid x + 52) ≤ |x| := by
  have eq : grid x + 52 = Int.log 2 |x| := by
    rw [grid] at coarse ⊢
    omega
  rw [eq]
  exact_mod_cast Int.zpow_log_le_self (R := ℚ) one_lt_two (abs_pos.2 nonzero)

/-- What is small has a fine grid. -/
theorem grid_le_of_abs_lt {k : ℤ} (nonzero : x ≠ 0) (bound : -1074 ≤ k)
    (less : |x| < 2 ^ (k + 53)) : grid x ≤ k := by
  have log : Int.log 2 |x| < k + 53 := by
    rw [← Int.lt_zpow_iff_log_lt one_lt_two (abs_pos.2 nonzero)]
    exact_mod_cast less
  exact max_le (by omega) bound

theorem grid_mono (nonzero : x ≠ 0) (le : |x| ≤ |y|) : grid x ≤ grid y :=
  max_le_max_right _ (sub_le_sub_right (Int.log_mono_right (abs_pos.2 nonzero) le) _)

/-! ## Rounding -/

/-- **The nearest double**, if doubles had no upper end. -/
def rounded (x : ℚ) : ℚ :=
  halfEven (x / 2 ^ grid x) * 2 ^ grid x

@[simp] theorem rounded_zero : rounded 0 = 0 := by
  rw [rounded, zero_div, show halfEven 0 = 0 from halfEven_intCast 0, Int.cast_zero, zero_mul]

theorem rounded_neg (x : ℚ) : rounded (-x) = -rounded x := by
  rw [rounded, rounded, grid_neg, neg_div, halfEven_neg, Int.cast_neg, neg_mul]

/-- **What rounding leaves as it is.** -/
def Representable (x : ℚ) : Prop :=
  ∃ m e : ℤ, |m| < 2 ^ 53 ∧ -1074 ≤ e ∧ x = m * 2 ^ e

theorem representable_zero : Representable 0 :=
  ⟨0, 0, by norm_num, by norm_num, by norm_num⟩

theorem representable_two_zpow {k : ℤ} (bound : -1074 ≤ k) : Representable (2 ^ k) :=
  ⟨1, k, by norm_num, bound, by norm_num⟩

theorem representable_one : Representable 1 :=
  representable_two_zpow (k := 0) (by norm_num)

theorem Representable.neg (h : Representable x) : Representable (-x) := by
  obtain ⟨m, e, bits, bound, rfl⟩ := h
  exact ⟨-m, e, by rwa [abs_neg], bound, by push_cast; ring⟩

theorem Representable.abs (h : Representable x) : Representable |x| := by
  rcases abs_choice x with same | opposite
  · rwa [same]
  · rw [opposite]
    exact h.neg

/-- A whole number of 53 bits. -/
theorem representable_natCast {n : ℕ} (bits : n < 2 ^ 53) : Representable n :=
  ⟨n, 0, by rw [abs_of_nonneg (Int.natCast_nonneg n)]; exact_mod_cast bits, by norm_num,
    by norm_num⟩

/-- A point of a grid is a point of every finer one. -/
theorem exists_mul_two_zpow {k l : ℤ} (le : k ≤ l) (m : ℤ) :
    ∃ n : ℤ, (m : ℚ) * 2 ^ l = n * 2 ^ k := by
  obtain ⟨d, hd⟩ := Int.eq_ofNat_of_zero_le (sub_nonneg.2 le)
  have split : (2 : ℚ) ^ l = 2 ^ d * 2 ^ k := by
    rw [← zpow_natCast, ← zpow_add₀ two_ne_zero, ← hd, sub_add_cancel]
  refine ⟨m * 2 ^ d, ?_⟩
  rw [split]
  push_cast
  ring

/-- A representable fraction is a point of its grid. -/
theorem Representable.exists_eq (h : Representable x) : ∃ n : ℤ, x = n * 2 ^ grid x := by
  obtain ⟨m, e, bits, bound, eq⟩ := h
  by_cases zero : x = 0
  · exact ⟨0, by rw [zero]; norm_num⟩
  have fine : grid x ≤ e := by
    refine grid_le_of_abs_lt zero bound ?_
    have bits : |(m : ℚ)| < 2 ^ (53 : ℤ) := by exact_mod_cast bits
    rw [eq, abs_mul, abs_of_pos (two_zpow_pos e), add_comm, zpow_add₀ two_ne_zero]
    exact mul_lt_mul_of_pos_right bits (two_zpow_pos e)
  obtain ⟨n, same⟩ := exists_mul_two_zpow fine m
  exact ⟨n, eq.trans same⟩

theorem rounded_of_representable (h : Representable x) : rounded x = x := by
  obtain ⟨n, eq⟩ := h.exists_eq
  have div : x / 2 ^ grid x = n := by
    rw [div_eq_iff (two_zpow_pos _).ne']
    exact eq
  rw [rounded, div, halfEven_intCast]
  exact eq.symm

/-- The multiple that a fraction is rounded to has 53 bits, or is the power of two after
these. -/
theorem abs_halfEven_le (x : ℚ) : |halfEven (x / 2 ^ grid x)| ≤ 2 ^ 53 := by
  have less : |x / 2 ^ grid x| < 2 ^ 53 := by
    rw [abs_div, abs_of_pos (two_zpow_pos (grid x)), div_lt_iff₀ (two_zpow_pos _)]
    have := abs_lt_two_zpow_grid x
    rwa [add_comm, zpow_add₀ two_ne_zero] at this
  rw [abs_lt] at less
  have top : halfEven ((2 ^ 53 : ℤ) : ℚ) = 2 ^ 53 := halfEven_intCast _
  have bottom : halfEven ((-2 ^ 53 : ℤ) : ℚ) = -2 ^ 53 := halfEven_intCast _
  rw [abs_le]
  constructor
  · rw [← bottom]
    exact halfEven_mono (by push_cast; exact less.1.le)
  · rw [← top]
    exact halfEven_mono (by push_cast; exact less.2.le)

/-- **Rounding ends at something representable.** -/
theorem representable_rounded (x : ℚ) : Representable (rounded x) := by
  rcases (abs_halfEven_le x).lt_or_eq with less | full
  · exact ⟨_, _, less, neg_1074_le_grid x, rfl⟩
  · have power := representable_two_zpow (k := grid x + 53) (by have := neg_1074_le_grid x; omega)
    rw [add_comm, zpow_add₀ two_ne_zero] at power
    rcases (abs_eq (by norm_num)).1 full with pos | neg
    · rw [rounded, pos]
      exact_mod_cast power
    · rw [rounded, neg]
      push_cast
      rw [neg_mul]
      exact_mod_cast power.neg

theorem rounded_nonneg (nonneg : 0 ≤ x) : 0 ≤ rounded x := by
  have le : halfEven 0 ≤ halfEven (x / 2 ^ grid x) :=
    halfEven_mono (div_nonneg nonneg (two_zpow_pos _).le)
  rw [show halfEven 0 = 0 from halfEven_intCast 0] at le
  exact mul_nonneg (by exact_mod_cast le) (two_zpow_pos _).le

/-- Positive fractions are rounded in order. -/
theorem rounded_mono_of_pos (pos : 0 < x) (le : x ≤ y) : rounded x ≤ rounded y := by
  have abs : |x| ≤ |y| := by
    rwa [abs_of_pos pos, abs_of_pos (pos.trans_le le)]
  rcases (grid_mono pos.ne' abs).lt_or_eq with finer | same
  · -- A power of two that lies between them is on both grids.
    have coarse : -1074 < grid y := (neg_1074_le_grid x).trans_lt finer
    have above : 2 ^ (grid y + 52) ≤ y := by
      have := two_zpow_grid_le_abs (pos.trans_le le).ne' coarse
      rwa [abs_of_pos (pos.trans_le le)] at this
    have bound : rounded x ≤ 2 ^ (grid x + 53) := by
      have multiple : ((halfEven (x / 2 ^ grid x) : ℤ) : ℚ) ≤ 2 ^ (53 : ℤ) := by
        exact_mod_cast (abs_le.1 (abs_halfEven_le x)).2
      rw [rounded, add_comm, zpow_add₀ two_ne_zero]
      exact mul_le_mul_of_nonneg_right multiple (two_zpow_pos _).le
    have reached : 2 ^ (grid y + 52) ≤ rounded y := by
      have multiple : (2 : ℤ) ^ 52 ≤ halfEven (y / 2 ^ grid y) := by
        rw [← halfEven_intCast (2 ^ 52)]
        refine halfEven_mono ?_
        rw [le_div_iff₀ (two_zpow_pos _)]
        rw [add_comm, zpow_add₀ two_ne_zero] at above
        exact_mod_cast above
      rw [rounded, add_comm, zpow_add₀ two_ne_zero]
      exact mul_le_mul_of_nonneg_right (by exact_mod_cast multiple) (two_zpow_pos _).le
    exact bound.trans ((two_zpow_le.2 (by omega)).trans reached)
  · rw [rounded, rounded, same]
    have order : halfEven (x / 2 ^ grid y) ≤ halfEven (y / 2 ^ grid y) :=
      halfEven_mono (div_le_div_of_nonneg_right le (two_zpow_pos _).le)
    exact mul_le_mul_of_nonneg_right (by exact_mod_cast order) (two_zpow_pos _).le

/-- **Rounding keeps the order.** -/
theorem rounded_mono (le : x ≤ y) : rounded x ≤ rounded y := by
  rcases lt_trichotomy x 0 with neg | rfl | pos
  · rcases le_or_gt 0 y with nonneg | neg'
    · have left : rounded x ≤ 0 := by
        have := rounded_nonneg (neg_nonneg.2 neg.le)
        rw [rounded_neg] at this
        linarith
      exact left.trans (rounded_nonneg nonneg)
    · have := rounded_mono_of_pos (neg_pos.2 neg') (neg_le_neg le)
      rw [rounded_neg, rounded_neg] at this
      linarith
  · rw [rounded_zero]
    exact rounded_nonneg le
  · exact rounded_mono_of_pos pos le

theorem abs_rounded_le_rounded (le : |x| ≤ z) : |rounded x| ≤ rounded z := by
  rw [abs_le] at le ⊢
  rw [← rounded_neg]
  exact ⟨rounded_mono le.1, rounded_mono le.2⟩

/-- Rounding does not pass what is representable. -/
theorem abs_rounded_le (h : Representable z) (le : |x| ≤ z) : |rounded x| ≤ z := by
  have bound := abs_rounded_le_rounded le
  rwa [rounded_of_representable h] at bound

theorem rounded_le (h : Representable z) (le : x ≤ z) : rounded x ≤ z := by
  rw [← rounded_of_representable h]
  exact rounded_mono le

theorem one_le_rounded (le : 1 ≤ x) : 1 ≤ rounded x := by
  rw [← rounded_of_representable representable_one]
  exact rounded_mono le

/-- **Nothing representable is nearer.** -/
theorem abs_sub_rounded_le (x : ℚ) (h : Representable z) : |x - rounded x| ≤ |x - z| := by
  by_cases zero : x = 0
  · rw [zero, rounded_zero, sub_zero, abs_zero]
    exact abs_nonneg _
  -- Points of the grid are not nearer, since multiples are not.
  have point : ∀ n : ℤ, |x - rounded x| ≤ |x - n * 2 ^ grid x| := by
    intro n
    have scale : ∀ k : ℤ, |x - k * 2 ^ grid x| = |x / 2 ^ grid x - k| * 2 ^ grid x := by
      intro k
      have pos := two_zpow_pos (grid x)
      rw [← abs_of_pos pos, ← abs_mul, abs_of_pos pos, sub_mul, div_mul_cancel₀ _ pos.ne']
    rw [rounded, scale, scale]
    exact mul_le_mul_of_nonneg_right (abs_sub_halfEven_le _ n) (two_zpow_pos _).le
  obtain ⟨n, eq⟩ := h.exists_eq
  rcases le_or_gt (grid x) (grid z) with coarser | finer
  · obtain ⟨m, same⟩ := exists_mul_two_zpow coarser n
    rw [eq, same]
    exact point m
  · -- What is on a finer grid is smaller, and a power of two lies in between.
    have reached := two_zpow_grid_le_abs zero ((neg_1074_le_grid z).trans_lt finer)
    have small : |z| ≤ 2 ^ (grid x + 52) :=
      (abs_lt_two_zpow_grid z).le.trans (two_zpow_le.2 (by omega))
    have power : (2 : ℚ) ^ (grid x + 52) = (2 ^ 52 : ℤ) * 2 ^ grid x := by
      rw [add_comm, zpow_add₀ two_ne_zero]
      norm_num
    rw [abs_le] at small
    rcases lt_or_gt_of_ne zero with neg | pos
    · rw [abs_of_neg neg] at reached
      refine (point (-2 ^ 52)).trans ?_
      rw [show ((-2 ^ 52 : ℤ) : ℚ) * 2 ^ grid x = -2 ^ (grid x + 52) by rw [power]; push_cast; ring,
        abs_of_nonpos (by linarith), abs_of_nonpos (by linarith)]
      linarith
    · rw [abs_of_pos pos] at reached
      refine (point (2 ^ 52)).trans ?_
      rw [← power, abs_of_nonneg (by linarith), abs_of_nonneg (by linarith)]
      linarith

/-- **How far rounding moves**: at most half of the width of the grid. -/
theorem abs_sub_rounded_le_grid (x : ℚ) : |x - rounded x| ≤ 2 ^ grid x / 2 := by
  have pos := two_zpow_pos (grid x)
  have near := abs_sub_halfEven_le_half (x / 2 ^ grid x)
  calc |x - rounded x|
      = |x / 2 ^ grid x - halfEven (x / 2 ^ grid x)| * 2 ^ grid x := by
        rw [← abs_of_pos pos, ← abs_mul, abs_of_pos pos, sub_mul, div_mul_cancel₀ _ pos.ne',
          rounded]
    _ ≤ 1 / 2 * 2 ^ grid x := mul_le_mul_of_nonneg_right near pos.le
    _ = 2 ^ grid x / 2 := by ring

/-- **The error of rounding**: one part in `2 ^ 53`, of anything that is not below the finest
grid. The rounded fraction itself may be as small as it likes. -/
theorem abs_sub_rounded_le_div (normal : 2 ^ (-1022 : ℤ) ≤ y) (le : |x| ≤ y) :
    |x - rounded x| ≤ y / 2 ^ 53 := by
  have pos : 0 < y := (two_zpow_pos _).trans_le normal
  by_cases zero : x = 0
  · rw [zero, rounded_zero, sub_zero, abs_zero]
    exact div_nonneg pos.le (by norm_num)
  have log : -1022 ≤ Int.log 2 |y| := by
    rw [abs_of_pos pos, ← Int.zpow_le_iff_le_log one_lt_two pos]
    exact_mod_cast normal
  have coarse : grid y = Int.log 2 |y| - 52 := max_eq_left (by omega)
  have low : (2 : ℚ) ^ Int.log 2 |y| ≤ y := by
    have := Int.zpow_log_le_self (R := ℚ) one_lt_two pos
    rw [abs_of_pos pos]
    exact_mod_cast this
  have order : grid x ≤ grid y := grid_mono zero (le.trans (le_abs_self y))
  calc |x - rounded x| ≤ 2 ^ grid x / 2 := abs_sub_rounded_le_grid x
    _ ≤ 2 ^ grid y / 2 := div_le_div_of_nonneg_right (two_zpow_le.2 order) two_pos.le
    _ = 2 ^ Int.log 2 |y| / 2 ^ 53 := by
      rw [coarse, zpow_sub₀ two_ne_zero, div_div]
      norm_num
    _ ≤ y / 2 ^ 53 := div_le_div_of_nonneg_right low (by norm_num)

/-- **What is too small is rounded to zero**: less than half of the least distance. -/
theorem rounded_eq_zero (small : |x| < 2 ^ (-1075 : ℤ)) : rounded x = 0 := by
  have near := abs_sub_rounded_le x representable_zero
  rw [sub_zero] at near
  have double : (2 : ℚ) ^ (-1074 : ℤ) = 2 * 2 ^ (-1075 : ℤ) := by
    rw [← zpow_one_add₀ two_ne_zero]
    norm_num
  have less : |rounded x| < 2 ^ (-1074 : ℤ) := by
    have apart := abs_sub_abs_le_abs_sub (rounded x) x
    rw [abs_sub_comm] at apart
    linarith
  -- The multiple of the distance is less than one, so it is zero.
  have multiple : |halfEven (x / 2 ^ grid x)| < 1 := by
    have pos := two_zpow_pos (grid x)
    rw [rounded, abs_mul, abs_of_pos pos] at less
    have below := less.trans_le (two_zpow_le.2 (neg_1074_le_grid x))
    exact_mod_cast (mul_lt_iff_lt_one_left pos).1 below
  rw [rounded, Int.abs_lt_one_iff.1 multiple, Int.cast_zero, zero_mul]

/-! ## Powers of two -/

theorem grid_two_zpow_mul {k : ℤ} (large : 1 ≤ |x|) (bound : 0 ≤ k) :
    grid (2 ^ k * x) = k + grid x := by
  have log : 0 ≤ Int.log 2 |x| := by
    rw [← Int.zpow_le_iff_le_log one_lt_two (one_pos.trans_le large), zpow_zero]
    exact large
  rw [grid, grid, abs_mul, abs_of_pos (two_zpow_pos k), log_two_zpow_mul k (one_pos.trans_le large)]
  omega

/-- **Rounding and powers of two**: away from the finest grid they may change places. -/
theorem rounded_two_zpow_mul {k : ℤ} (large : x = 0 ∨ 1 ≤ |x|) (bound : 0 ≤ k) :
    rounded (2 ^ k * x) = 2 ^ k * rounded x := by
  rcases large with rfl | large
  · rw [mul_zero, rounded_zero, mul_zero]
  have pos := two_zpow_pos k
  rw [rounded, rounded, grid_two_zpow_mul large bound, zpow_add₀ two_ne_zero,
    mul_div_mul_left _ _ pos.ne']
  ring

end Liveboard.Rounding
