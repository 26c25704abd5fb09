import Liveboard.Proofs.Decimal.Double

/-!
# The order of doubles

Two doubles are compared by their signs, then by their exponents, and only then
by their significands. That is the order of the fractions because significands
have all 53 bits (`Unpacked.compare_eq`): the larger exponent makes the larger
fraction, and only at the least exponent, where there is nothing below, a
significand may have fewer.

What is no number is not comparable with anything, and so a test for a range
turns it down whichever of the two ends it looks at. In particular what passes
a test against two finite doubles is finite (`Double.isFinite_of_between`), and
then `Double.le_iff` and `Double.lt_iff` speak of fractions.
-/

namespace Liveboard

open Float.Model Float.Model.UnpackedFloat Rounding Unpacked

/-! ## Comparing fractions -/

namespace Unpacked

/-- A larger exponent makes a larger fraction, if the significand has all its bits. -/
theorem mul_two_zpow_lt {m n : ℕ} {e f : ℤ} (bits : m < 2 ^ 53) (large : 2 ^ 52 ≤ n)
    (less : e < f) : (m : ℚ) * 2 ^ e < n * 2 ^ f := by
  have bits : (m : ℚ) < 2 ^ (53 : ℤ) := by exact_mod_cast bits
  have large : (2 : ℚ) ^ (52 : ℤ) ≤ n := by exact_mod_cast large
  calc (m : ℚ) * 2 ^ e < 2 ^ (53 : ℤ) * 2 ^ e := mul_lt_mul_of_pos_right bits (two_zpow_pos e)
    _ = 2 ^ (53 + e) := (zpow_add₀ two_ne_zero ..).symm
    _ ≤ 2 ^ (52 + f) := two_zpow_le.2 (by omega)
    _ = 2 ^ (52 : ℤ) * 2 ^ f := zpow_add₀ two_ne_zero ..
    _ ≤ n * 2 ^ f := mul_le_mul_of_nonneg_right large (two_zpow_pos f).le

/-- **Exponents first, then significands**: this is how the fractions compare. -/
theorem then_compare_eq {s t : Sign} {m n : ℕ} {e f : ℤ} {posm : 0 < m} {posn : 0 < n}
    (hm : Canonical (.finite s m e posm)) (hn : Canonical (.finite t n f posn)) :
    (compare e f).then (compare m n) = compare ((m : ℚ) * 2 ^ e) (n * 2 ^ f) := by
  obtain ⟨bitsm, leastm, largem⟩ := hm
  obtain ⟨bitsn, leastn, largen⟩ := hn
  rcases lt_trichotomy e f with less | rfl | more
  · have large : 2 ^ 52 ≤ n := largen.resolve_right (by omega)
    rw [compare_lt_iff_lt.2 less, compare_lt_iff_lt.2 (mul_two_zpow_lt bitsm large less)]
    rfl
  · have same : compare ((m : ℚ) * 2 ^ e) (n * 2 ^ e) = compare m n := by
      have pos := two_zpow_pos e
      rcases lt_trichotomy m n with less | rfl | more
      · have less' : (m : ℚ) < n := by exact_mod_cast less
        rw [compare_lt_iff_lt.2 less, compare_lt_iff_lt.2 (mul_lt_mul_of_pos_right less' pos)]
      · rw [compare_eq_iff_eq.2 rfl, compare_eq_iff_eq.2 rfl]
      · have more' : (n : ℚ) < m := by exact_mod_cast more
        rw [compare_gt_iff_gt.2 more, compare_gt_iff_gt.2 (mul_lt_mul_of_pos_right more' pos)]
    rw [compare_eq_iff_eq.2 rfl, same]
    rfl
  · have large : 2 ^ 52 ≤ m := largem.resolve_right (by omega)
    rw [compare_gt_iff_gt.2 more, compare_gt_iff_gt.2 (mul_two_zpow_lt bitsn large more)]
    rfl

/-- Opposite numbers compare the other way round. -/
theorem swap_compare_eq (x y : ℚ) : (compare x y).swap = compare (-x) (-y) := by
  rcases lt_trichotomy x y with less | rfl | more
  · rw [compare_lt_iff_lt.2 less, compare_gt_iff_gt.2 (neg_lt_neg less)]
    rfl
  · rw [compare_eq_iff_eq.2 rfl, compare_eq_iff_eq.2 rfl]
    rfl
  · rw [compare_gt_iff_gt.2 more, compare_lt_iff_lt.2 (neg_lt_neg more)]
    rfl

variable {u v : UnpackedFloat}

/-- **The comparison is that of the fractions.** -/
theorem compare_eq (hu : Canonical u) (hv : Canonical v) (fu : u.isFinite = true)
    (fv : v.isFinite = true) : u.compare v = some (compare (value u) (value v)) := by
  have magnitude : ∀ {m : ℕ} (e : ℤ), 0 < m → (0 : ℚ) < m * 2 ^ e := fun e pos =>
    mul_pos (by exact_mod_cast pos) (two_zpow_pos e)
  have less : ∀ {x y : ℚ}, x < y → some Ordering.lt = some (compare x y) := fun lt =>
    congrArg some (compare_lt_iff_lt.2 lt).symm
  have more : ∀ {x y : ℚ}, y < x → some Ordering.gt = some (compare x y) := fun gt =>
    congrArg some (compare_gt_iff_gt.2 gt).symm
  cases u with
  | infinity | notANumber => cases fu
  | zero s =>
    cases v with
    | infinity | notANumber => cases fv
    | zero t => exact congrArg some (compare_eq_iff_eq.2 rfl).symm
    | finite t n f posn =>
      rw [value_finite, show value (.zero s) = 0 from rfl]
      cases t with
      | positive => exact less (by rw [unit, one_mul]; exact magnitude f posn)
      | negative => exact more (by rw [unit, neg_one_mul, neg_lt_zero]; exact magnitude f posn)
  | finite s m e posm =>
    cases v with
    | infinity | notANumber => cases fv
    | zero t =>
      rw [value_finite, show value (.zero t) = 0 from rfl]
      cases s with
      | positive => exact more (by rw [unit, one_mul]; exact magnitude e posm)
      | negative => exact less (by rw [unit, neg_one_mul, neg_lt_zero]; exact magnitude e posm)
    | finite t n f posn =>
      have left := magnitude e posm
      have right := magnitude f posn
      have order := then_compare_eq hu hv
      rw [value_finite, value_finite]
      cases s with
      | positive =>
        cases t with
        | positive =>
          rw [unit, one_mul, one_mul, ← order]
          rfl
        | negative => exact more (by simp only [unit]; linarith)
      | negative =>
        cases t with
        | positive => exact less (by simp only [unit]; linarith)
        | negative =>
          rw [unit, neg_one_mul, neg_one_mul, ← swap_compare_eq, ← order]
          rfl

/-- A difference is the sum with the opposite number. -/
theorem sub_eq (u v : UnpackedFloat) :
    UnpackedFloat.sub .binary64 u v = UnpackedFloat.add .binary64 u v.neg := by
  have apply_neg : ∀ (s : Sign) (n : ℤ), (-s).apply n = -s.apply n := by
    intro s n
    cases s
    · exact (neg_neg n).symm
    · rfl
  cases u <;> cases v <;> try rfl
  rename_i s₁ m₁ e₁ pos₁ s₂ m₂ e₂ pos₂
  unfold UnpackedFloat.sub UnpackedFloat.neg UnpackedFloat.add
  simp only [apply_neg, Int.sub_eq_add_neg]

end Unpacked

/-! ## Doubles -/

namespace Double

variable {x y z : Float}

theorem compare_eq (hx : x.isFinite = true) (hy : y.isFinite = true) :
    x.toModel.unpack.compare y.toModel.unpack = some (compare (exact x) (exact y)) := by
  rw [exact_eq, exact_eq]
  exact Unpacked.compare_eq (canonical x) (canonical y) hx hy

/-- **The order of doubles** is that of the fractions. -/
theorem le_iff (hx : x.isFinite = true) (hy : y.isFinite = true) : x ≤ y ↔ exact x ≤ exact y := by
  show decide (x.toModel ≤ y.toModel) = true ↔ _
  rw [decide_eq_true_iff]
  show (x.toModel.unpack.compare y.toModel.unpack).any (·.isLE) = true ↔ _
  rw [compare_eq hx hy, Option.any_some, Ordering.isLE_iff_ne_gt, compare_gt_iff_gt,
    not_lt]

theorem lt_iff (hx : x.isFinite = true) (hy : y.isFinite = true) : x < y ↔ exact x < exact y := by
  show decide (x.toModel < y.toModel) = true ↔ _
  rw [decide_eq_true_iff]
  show (x.toModel.unpack.compare y.toModel.unpack == some .lt) = true ↔ _
  rw [compare_eq hx hy, beq_iff_eq, Option.some_inj, compare_lt_iff_lt]

/-- What is below the upper end by powers of two. -/
theorem lt_limit {q : ℚ} {k : ℤ} (le : q ≤ 2 ^ k) (small : k < 1024) : q < limit :=
  limit_eq ▸ le.trans_lt (zpow_lt_zpow_right₀ one_lt_two small)

/-- What is finite is a number. -/
theorem isNaN_of_isFinite (hx : x.isFinite = true) : x.isNaN = false := by
  have hx : x.toModel.unpack.isFinite = true := hx
  show x.toModel.unpack.isNaN = false
  cases unpacked : x.toModel.unpack <;> rw [unpacked] at hx <;> first | rfl | cases hx

theorem isFinite_zero : (0.0 : Float).isFinite = true :=
  rfl

theorem exact_zero_point_zero : exact 0.0 = 0 := by
  rw [exact, show Binary.ofFloat 0.0 = .finite false 0 (-1074) from rfl, Binary.value]
  norm_num

theorem isFinite_one : (1.0 : Float).isFinite = true :=
  rfl

theorem exact_one_point_zero : exact 1.0 = 1 := by
  rw [exact, show Binary.ofFloat 1.0 = .finite false (2 ^ 52) (-52) from rfl, Binary.value]
  norm_num

/-- **What lies between two finite doubles is finite**: it is comparable with both. -/
theorem isFinite_of_between (hx : x.isFinite = true) (hz : z.isFinite = true) (low : x ≤ y)
    (high : y < z) : y.isFinite = true := by
  have low : (x.toModel.unpack.compare y.toModel.unpack).any (·.isLE) = true :=
    of_decide_eq_true low
  have high : (y.toModel.unpack.compare z.toModel.unpack == some .lt) = true :=
    of_decide_eq_true high
  have hx : x.toModel.unpack.isFinite = true := hx
  have hz : z.toModel.unpack.isFinite = true := hz
  show y.toModel.unpack.isFinite = true
  cases unpacked : y.toModel.unpack with
  | zero | finite => rfl
  | notANumber =>
    rw [unpacked] at high
    cases high
  | infinity s =>
    rw [unpacked] at low high
    cases s with
    | positive =>
      cases other : z.toModel.unpack <;> rw [other] at high hz <;> first | cases high | cases hz
    | negative =>
      cases other : x.toModel.unpack <;> rw [other] at low hx <;> first | cases low | cases hx

/-- A difference is the sum with the opposite number. -/
theorem sub_eq (x y : Float) : x - y = x + -y := by
  show Float.ofModel (pack (UnpackedFloat.sub .binary64 x.toModel.unpack y.toModel.unpack))
    = Float.ofModel (pack (UnpackedFloat.add .binary64 x.toModel.unpack (-y).toModel.unpack))
  rw [unpack_neg, Unpacked.sub_eq]

/-- A difference of finite doubles is the exact one, rounded. -/
theorem rounds_sub (hx : x.isFinite = true) (hy : y.isFinite = true) :
    Rounds (x - y) (exact x - exact y) := by
  rw [Double.sub_eq, sub_eq_add_neg, ← exact_neg]
  exact rounds_add hx ((isFinite_neg y).trans hy)

end Double

end Liveboard
