import Liveboard.Proofs.Decimal.Rounding

/-!
# The arithmetic of doubles

The arithmetic of doubles is carried out on a sign, a whole significand and an
exponent. An operation first computes so many bits of its exact result that what
is left over matters only for the direction of rounding: whether it is nothing,
less than half of the last bit, half of it, or more. Then it drops bits until
the significand has 53 of them, or the exponent is `-1074`, and rounds.

What is dropped is kept track of in two bits, and two bits are enough:
`Unpacked.Extends` is what they say, and dropping one more bit keeps it
(`Unpacked.extends_shiftRight`). So each operation yields the exact result,
rounded. The last step is the same for all of them and is dealt with once
(`Unpacked.yields_roundWithAccuracy`); what is left for an operation is that the
bits it computes extend the exact result.
-/

namespace Liveboard.Unpacked

open Float.Model Float.Model.UnpackedFloat Rounding

/-- **The fraction that is meant**; nothing for what is no number or infinite. -/
def value : UnpackedFloat → ℚ
  | .finite s m e _ => s.apply m * 2 ^ e
  | .infinity _ | .notANumber | .zero _ => 0

/-- **The significand has 53 bits**, or fewer where the exponent is the least. No upper
end is put to the exponent. -/
def Canonical : UnpackedFloat → Prop
  | .finite _ m e _ => m < 2 ^ 53 ∧ -1074 ≤ e ∧ (2 ^ 52 ≤ m ∨ e = -1074)
  | .infinity _ | .notANumber | .zero _ => True

/-! ## Signs -/

/-- A sign as a number. -/
def unit : Sign → ℚ
  | .negative => -1
  | .positive => 1

@[simp] theorem cast_apply (s : Sign) (n : ℤ) : ((s.apply n : ℤ) : ℚ) = unit s * n := by
  cases s <;> simp [Sign.apply, unit]

theorem value_finite (s : Sign) {m : ℕ} (e : ℤ) (pos : 0 < m) :
    value (.finite s m e pos) = unit s * (m * 2 ^ e) := by
  show ((s.apply m : ℤ) : ℚ) * 2 ^ e = _
  rw [cast_apply, mul_assoc, Int.cast_natCast]

theorem unit_mul (s t : Sign) : unit (s * t) = unit s * unit t := by
  cases s <;> cases t
  · exact (neg_one_mul (-1 : ℚ)).symm ▸ (neg_neg (1 : ℚ)).symm
  · exact (mul_one (-1 : ℚ)).symm
  · exact (one_mul (-1 : ℚ)).symm
  · exact (one_mul (1 : ℚ)).symm

theorem unit_div (s t : Sign) : unit (s / t) = unit s * unit t := by
  rw [← unit_mul]
  cases s <;> cases t <;> rfl

theorem unit_mul_self (s : Sign) : unit s * unit s = 1 := by
  cases s <;> norm_num [unit]

theorem rounded_unit_mul (s : Sign) (x : ℚ) : rounded (unit s * x) = unit s * rounded x := by
  cases s <;> simp [unit, rounded_neg]

/-! ## Dropping bits -/

/-- **What two bits say of what was dropped**: whether it is at least a half, and whether
it is neither nothing nor a half. -/
def Extends (em : ExtendedMantissa) (q : ℚ) : Prop :=
  ∃ r : ℚ, q = em.mantissa + r ∧ 0 ≤ r ∧ r < 1 ∧ (em.roundBit = true ↔ 1 / 2 ≤ r) ∧
    (em.stickyBit = true ↔ r ≠ 0 ∧ r ≠ 1 / 2)

/-- Nothing was dropped. -/
theorem extends_exact (m : ℕ) : Extends (.ofMantissaAndAccuracy m .exact) m :=
  ⟨0, (add_zero _).symm, le_rfl, one_pos, by norm_num [ExtendedMantissa.ofMantissaAndAccuracy],
    by simp [ExtendedMantissa.ofMantissaAndAccuracy]⟩

/-- What a division leaves over. -/
theorem extends_accuracyOfFraction (a : ℕ) {b : ℕ} (pos : 0 < b) :
    Extends (.ofMantissaAndAccuracy (a / b) (accuracyOfFraction (a % b) b)) (a / b) := by
  have pos' : (0 : ℚ) < b := by exact_mod_cast pos
  have less : a % b < b := Nat.mod_lt a pos
  have split : (a : ℚ) = (a / b : ℕ) * b + (a % b : ℕ) := by
    exact_mod_cast (Nat.div_add_mod' a b).symm
  have quotient : (a : ℚ) / b = (a / b : ℕ) + (a % b : ℕ) / b := by
    rw [split]
    field_simp
  have below : ((a % b : ℕ) : ℚ) / b < 1 := by
    rw [div_lt_one pos']
    exact_mod_cast less
  have half : (1 / 2 ≤ ((a % b : ℕ) : ℚ) / b) ↔ b ≤ 2 * (a % b) := by
    rw [le_div_iff₀ pos', ← mul_le_mul_iff_right₀ (two_pos (α := ℚ))]
    rw [show 2 * (1 / 2 * (b : ℚ)) = b by ring]
    exact_mod_cast Iff.rfl
  have exact_half : (((a % b : ℕ) : ℚ) / b = 1 / 2) ↔ 2 * (a % b) = b := by
    rw [div_eq_div_iff pos'.ne' two_ne_zero, one_mul, mul_comm]
    exact_mod_cast Iff.rfl
  have nothing : (((a % b : ℕ) : ℚ) / b = 0) ↔ a % b = 0 := by
    rw [div_eq_zero_iff, or_iff_left pos'.ne']
    exact_mod_cast Iff.rfl
  refine ⟨(a % b : ℕ) / b, ?_, by positivity, below, ?_, ?_⟩
  · rw [quotient]
    unfold accuracyOfFraction
    split
    · rfl
    · cases compare (2 * (a % b)) b <;> rfl
  · rw [half]
    unfold accuracyOfFraction
    split
    · rename_i zero
      simp [ExtendedMantissa.ofMantissaAndAccuracy, zero, pos.ne']
    · rcases Nat.lt_trichotomy (2 * (a % b)) b with h | h | h
      · rw [Nat.compare_eq_lt.2 h]
        simpa [ExtendedMantissa.ofMantissaAndAccuracy] using h
      · rw [Nat.compare_eq_eq.2 h]
        simpa [ExtendedMantissa.ofMantissaAndAccuracy] using h.ge
      · rw [Nat.compare_eq_gt.2 h]
        simpa [ExtendedMantissa.ofMantissaAndAccuracy] using h.le
  · rw [Ne, Ne, nothing, exact_half]
    unfold accuracyOfFraction
    split
    · rename_i zero
      simp [ExtendedMantissa.ofMantissaAndAccuracy, zero]
    · rename_i some
      rcases Nat.lt_trichotomy (2 * (a % b)) b with h | h | h
      · rw [Nat.compare_eq_lt.2 h]
        simpa [ExtendedMantissa.ofMantissaAndAccuracy] using ⟨some, h.ne⟩
      · rw [Nat.compare_eq_eq.2 h]
        simpa [ExtendedMantissa.ofMantissaAndAccuracy] using fun _ => h
      · rw [Nat.compare_eq_gt.2 h]
        simpa [ExtendedMantissa.ofMantissaAndAccuracy] using ⟨some, h.ne'⟩

theorem extends_shiftRightOne {em : ExtendedMantissa} {q : ℚ} (h : Extends em q) :
    Extends em.shiftRightOne (q / 2) := by
  obtain ⟨r, rfl, nonneg, less, half, rest⟩ := h
  have split : (em.mantissa : ℚ) = (em.mantissa / 2 : ℕ) * 2 + (em.mantissa % 2 : ℕ) := by
    exact_mod_cast (Nat.div_add_mod' em.mantissa 2).symm
  have bits : (em.roundBit || em.stickyBit) = true ↔ r ≠ 0 := by
    rw [Bool.or_eq_true, half, rest]
    constructor
    · rintro (large | ⟨some, -⟩) rfl
      · norm_num at large
      · exact some rfl
    · intro some
      by_cases same : r = 1 / 2
      · exact .inl same.ge
      · exact .inr ⟨some, same⟩
  refine ⟨((em.mantissa % 2 : ℕ) + r) / 2, ?_, by positivity, ?_, ?_, ?_⟩
  · show ((em.mantissa : ℚ) + r) / 2 = (em.mantissa / 2 : ℕ) + _
    rw [split]
    ring
  all_goals rcases Nat.mod_two_eq_zero_or_one em.mantissa with even | odd
  · rw [even]; push_cast; linarith
  · rw [odd]; push_cast; linarith
  · show (em.mantissa % 2 != 0) = true ↔ _
    rw [even]
    push_cast
    simpa using by linarith
  · show (em.mantissa % 2 != 0) = true ↔ _
    rw [odd]
    push_cast
    simpa using by linarith
  · show (em.roundBit || em.stickyBit) = true ↔ _
    rw [bits, even]
    push_cast
    refine ⟨fun some => ⟨fun none => some (by linarith), by linarith [less]⟩, ?_⟩
    rintro ⟨some, -⟩ rfl
    norm_num at some
  · show (em.roundBit || em.stickyBit) = true ↔ _
    rw [bits, odd]
    push_cast
    refine ⟨fun some => ⟨by linarith, fun half => some (by linarith)⟩, ?_⟩
    rintro ⟨-, some⟩ rfl
    norm_num at some

theorem extends_shiftRight {em : ExtendedMantissa} {q : ℚ} (h : Extends em q) (n : ℕ) :
    Extends (em >>> n) (q / 2 ^ n) := by
  induction n with
  | zero =>
    rw [pow_zero, div_one]
    exact h
  | succ n ih =>
    rw [pow_succ, ← div_div]
    exact extends_shiftRightOne ih

/-- **Rounding by the two bits** is rounding. -/
theorem Extends.roundedMantissa {em : ExtendedMantissa} {q : ℚ} (h : Extends em q) :
    (em.roundedMantissa : ℤ) = halfEven q := by
  obtain ⟨r, rfl, nonneg, less, half, rest⟩ := h
  have floor : ⌊(em.mantissa : ℚ) + r⌋ = em.mantissa := by
    rw [Int.floor_eq_iff]
    constructor <;> push_cast <;> linarith
  have fract : Int.fract ((em.mantissa : ℚ) + r) = r := by
    rw [Int.fract, floor]
    push_cast
    ring
  rw [halfEven, floor, fract]
  obtain ⟨m, roundBit, stickyBit⟩ := em
  simp only at half rest
  cases roundBit <;> cases stickyBit <;>
    simp only [Bool.false_eq_true, false_iff, true_iff, not_and_or, not_not, not_le] at half rest
  · exact (if_pos half).symm
  · exact (if_pos half).symm
  · have tie : r = 1 / 2 := rest.resolve_left (by linarith)
    rw [if_neg (by linarith), if_neg (by linarith)]
    exact_mod_cast rfl
  · rw [if_neg (by linarith), if_pos (lt_of_le_of_ne half rest.2.symm)]
    exact_mod_cast rfl

/-! ## Rounding a result -/

/-- The exponent that the first `log2 m + 1` bits of a fraction ask for. -/
theorem targetExponent_eq (m : ℕ) (e : ℤ) :
    Format.binary64.targetExponent (totalExponent m e) = max (m.log2 + e - 52) (-1074) := by
  have least : Format.binary64.minExponent = -1074 := by decide
  have bits : (Format.binary64.mantissaBits : ℤ) = 53 := by decide
  rw [Format.targetExponent, least, bits, totalExponent]
  congr 1
  omega

theorem log2_eq_log {m : ℕ} (pos : 0 < m) {q : ℚ} (low : m ≤ q) (high : q < m + 1) :
    Int.log 2 q = m.log2 := by
  have nonzero : m ≠ 0 := pos.ne'
  have qpos : 0 < q := lt_of_lt_of_le (by exact_mod_cast pos) low
  have below : (2 : ℚ) ^ m.log2 ≤ m := by exact_mod_cast Nat.log2_self_le nonzero
  have above : (m : ℚ) + 1 ≤ 2 ^ (m.log2 + 1) := by exact_mod_cast Nat.lt_log2_self
  refine le_antisymm ?_ ?_
  · rw [← Int.lt_add_one_iff, ← Int.lt_zpow_iff_log_lt one_lt_two qpos]
    exact_mod_cast high.trans_le above
  · rw [← Int.zpow_le_iff_le_log one_lt_two qpos]
    exact_mod_cast below.trans low

/-- **The exponent that bits are dropped for** is that of the grid, where there are enough
bits to begin with. -/
theorem targetExponent_eq_grid {em : ExtendedMantissa} {e : ℤ} {x : ℚ} (pos : 0 < x)
    (h : Extends em (x / 2 ^ e)) (enough : 2 ^ 52 ≤ em.mantissa ∨ e ≤ -1074) :
    Format.binary64.targetExponent (totalExponent em.mantissa e) = grid x ∧ e ≤ grid x := by
  obtain ⟨r, eq, nonneg, less, -⟩ := h
  have x_eq : x = 2 ^ e * (em.mantissa + r) := by
    rw [← eq, mul_div_cancel₀ _ (two_zpow_pos e).ne']
  have abs : |x| = 2 ^ e * (em.mantissa + r) := by
    rw [abs_of_pos pos]
    exact x_eq
  rw [targetExponent_eq, grid]
  rcases Nat.eq_zero_or_pos em.mantissa with zero | some
  · -- Less than one unit, so all of it is below the finest grid.
    have fine : e ≤ -1074 := enough.resolve_left (by rw [zero]; norm_num)
    have small : Int.log 2 |x| < e := by
      rw [← Int.lt_zpow_iff_log_lt one_lt_two (abs_pos.2 pos.ne'), abs, zero]
      push_cast
      nlinarith [two_zpow_pos e]
    rw [zero, Nat.log2_zero]
    push_cast
    omega
  · have log : Int.log 2 |x| = em.mantissa.log2 + e := by
      have shift := log2_eq_log some (q := em.mantissa + r) (by linarith) (by linarith)
      rw [abs, log_two_zpow_mul e (by positivity), shift, add_comm]
    refine ⟨by rw [log], ?_⟩
    rw [log]
    rcases enough with large | fine
    · have := (Nat.le_log2 some.ne').2 large
      omega
    · omega

/-- **Bits are dropped down to the grid.** -/
theorem shiftToTargetExponent_eq {m : ℕ} {e : ℤ} {acc : Accuracy} {x : ℚ} (pos : 0 < x)
    (h : Extends (.ofMantissaAndAccuracy m acc) (x / 2 ^ e)) (enough : 2 ^ 52 ≤ m ∨ e ≤ -1074) :
    ∃ em, shiftToTargetExponent .binary64 m e acc = (em, grid x) ∧ Extends em (x / 2 ^ grid x) := by
  have same : (ExtendedMantissa.ofMantissaAndAccuracy m acc).mantissa = m := by
    cases acc with
    | exact => rfl
    | inexact ordering => cases ordering <;> rfl
  obtain ⟨target, le⟩ := targetExponent_eq_grid pos h (by rwa [same])
  rw [same] at target
  obtain ⟨n, hn⟩ := Int.eq_ofNat_of_zero_le (sub_nonneg.2 le)
  refine ⟨ExtendedMantissa.ofMantissaAndAccuracy m acc >>> n, ?_, ?_⟩
  · rw [shiftToTargetExponent, target, shiftToExponent, hn]
    simp only [Int.toNat_natCast]
    rw [← hn, add_sub_cancel]
  · have shifted := extends_shiftRight h n
    rw [div_div, ← zpow_natCast, ← zpow_add₀ two_ne_zero, ← hn, add_sub_cancel] at shifted
    exact shifted

/-- **A result**: finite, canonical, and worth a fraction. -/
structure Yields (u : UnpackedFloat) (x : ℚ) : Prop where
  /-- It is a number. -/
  isFinite : u.isFinite = true
  /-- It has as many bits as a double. -/
  canonical : Canonical u
  /-- What it is worth. -/
  value : value u = x

/-- After rounding there may be one bit too many, which is zero. -/
theorem shiftToTargetExponent_rounded {k : ℕ} {g : ℤ} (bits : k ≤ 2 ^ 53) (bound : -1074 ≤ g) :
    ∃ em e, shiftToTargetExponent .binary64 k g .exact = (em, e) ∧
      ((em.mantissa = k ∧ e = g ∧ k < 2 ^ 53) ∨
        (em.mantissa = 2 ^ 52 ∧ e = g + 1 ∧ k = 2 ^ 53)) := by
  rcases bits.lt_or_eq with less | rfl
  · refine ⟨⟨k, false, false⟩, g, ?_, .inl ⟨rfl, rfl, less⟩⟩
    have log : k.log2 ≤ 52 := by
      rcases Nat.eq_zero_or_pos k with rfl | pos
      · norm_num
      · exact Nat.le_of_lt_succ ((Nat.log2_lt pos.ne').2 less)
    have none : (Format.binary64.targetExponent (totalExponent k g) - g).toNat = 0 := by
      rw [targetExponent_eq]
      omega
    rw [shiftToTargetExponent, shiftToExponent, none]
    simp only [Int.natCast_zero, add_zero]
    rfl
  · refine ⟨⟨2 ^ 52, false, false⟩, g + 1, ?_, .inr ⟨rfl, rfl, rfl⟩⟩
    have one : (Format.binary64.targetExponent (totalExponent (2 ^ 53) g) - g).toNat = 1 := by
      rw [targetExponent_eq, Nat.log2_two_pow]
      omega
    rw [shiftToTargetExponent, shiftToExponent, one]
    rfl

/-- **The last step of every operation** rounds the exact result. -/
theorem yields_roundWithAccuracy {s : Sign} {m : ℕ} {e : ℤ} {acc : Accuracy} {x : ℚ} (pos : 0 < x)
    (h : Extends (.ofMantissaAndAccuracy m acc) (x / 2 ^ e)) (enough : 2 ^ 52 ≤ m ∨ e ≤ -1074) :
    Yields (roundWithAccuracy .binary64 s m e acc) (unit s * rounded x) := by
  obtain ⟨em, first, extends_⟩ := shiftToTargetExponent_eq pos h enough
  have multiple := extends_.roundedMantissa
  have bits : em.roundedMantissa ≤ 2 ^ 53 := by
    have := (abs_le.1 (abs_halfEven_le x)).2
    rw [← multiple] at this
    exact_mod_cast this
  obtain ⟨em', e', second, cases⟩ := shiftToTargetExponent_rounded bits (neg_1074_le_grid x)
  have worth : (em'.mantissa : ℚ) * 2 ^ e' = rounded x := by
    have cast : ((em.roundedMantissa : ℤ) : ℚ) = em.roundedMantissa := rfl
    rw [rounded, ← multiple, cast]
    rcases cases with ⟨same, rfl, -⟩ | ⟨half, rfl, full⟩
    · rw [same]
    · rw [half, full, zpow_add₀ two_ne_zero]
      push_cast
      ring
  have small : em'.mantissa < 2 ^ 53 := by
    rcases cases with ⟨same, -, less⟩ | ⟨half, -, -⟩
    · rwa [same]
    · rw [half]
      norm_num
  have least : -1074 ≤ e' := by
    have := neg_1074_le_grid x
    rcases cases with ⟨-, rfl, -⟩ | ⟨-, rfl, -⟩ <;> omega
  -- Above the finest grid there are 53 bits before rounding, so there are after it.
  have large : 2 ^ 52 ≤ em'.mantissa ∨ e' = -1074 := by
    rcases cases with ⟨same, rfl, -⟩ | ⟨half, -, -⟩
    · rcases (neg_1074_le_grid x).eq_or_lt with finest | coarse
      · exact .inr finest.symm
      · have reached := two_zpow_grid_le_abs pos.ne' coarse
        rw [abs_of_pos pos, add_comm, zpow_add₀ two_ne_zero, ← le_div_iff₀ (two_zpow_pos _)]
          at reached
        have order : halfEven (2 ^ 52 : ℤ) ≤ halfEven (x / 2 ^ grid x) :=
          halfEven_mono (by exact_mod_cast reached)
        rw [halfEven_intCast, ← multiple] at order
        rw [same]
        exact .inl (by exact_mod_cast order)
    · exact .inl half.ge
  have result : roundWithAccuracy .binary64 s m e acc
      = if h : em'.mantissa = 0 then .zero s
        else .finite s em'.mantissa e' (Nat.pos_of_ne_zero h) := by
    rw [roundWithAccuracy, first]
    dsimp only
    rw [second]
  rw [result]
  by_cases zero : em'.mantissa = 0
  · rw [dif_pos zero]
    rw [zero, Nat.cast_zero, zero_mul] at worth
    exact ⟨rfl, trivial, by rw [← worth, mul_zero]; rfl⟩
  · rw [dif_neg zero]
    refine ⟨rfl, ⟨small, least, large⟩, ?_⟩
    show ((s.apply em'.mantissa : ℤ) : ℚ) * 2 ^ e' = _
    rw [cast_apply, mul_assoc, ← worth]
    rfl

/-! ## The operations -/

theorem yields_round {m : ℕ} (pos : 0 < m) (s : Sign) (e : ℤ) :
    Yields (UnpackedFloat.round .binary64 s m e) (unit s * rounded (m * 2 ^ e)) := by
  obtain ⟨n, hn⟩ : ∃ n, (e - Format.binary64.targetExponent (totalExponent m e)).toNat = n :=
    ⟨_, rfl⟩
  have worth : (m : ℚ) * 2 ^ e = (m <<< n : ℕ) * 2 ^ (e - n) := by
    rw [Nat.shiftLeft_eq, zpow_sub₀ two_ne_zero, zpow_natCast]
    push_cast
    field_simp
  have enough : 2 ^ 52 ≤ m <<< n ∨ e - n ≤ -1074 := by
    rw [targetExponent_eq] at hn
    rcases le_or_gt (e - n) (-1074) with fine | coarse
    · exact .inr fine
    · left
      have bits : 52 ≤ m.log2 + n := by omega
      calc 2 ^ 52 ≤ 2 ^ (m.log2 + n) := Nat.pow_le_pow_right two_pos bits
        _ = 2 ^ m.log2 * 2 ^ n := pow_add ..
        _ ≤ m * 2 ^ n := Nat.mul_le_mul_right _ (Nat.log2_self_le pos.ne')
        _ = m <<< n := (Nat.shiftLeft_eq ..).symm
  have extends_ : Extends (.ofMantissaAndAccuracy (m <<< n) .exact)
      (m * 2 ^ e / 2 ^ (e - n)) := by
    rw [worth, mul_div_cancel_right₀ _ (two_zpow_pos _).ne']
    exact extends_exact _
  have positive : (0 : ℚ) < m * 2 ^ e := mul_pos (by exact_mod_cast pos) (two_zpow_pos e)
  have result := yields_roundWithAccuracy (s := s) positive extends_ enough
  rw [UnpackedFloat.round, decreaseExponent, hn]
  exact result

theorem yields_normalize (n : ℤ) (e : ℤ) (s : Sign) :
    Yields (UnpackedFloat.normalize .binary64 n e s) (rounded (n * 2 ^ e)) := by
  unfold UnpackedFloat.normalize
  rcases lt_trichotomy n 0 with neg | rfl | pos
  · rw [show compare n 0 = .lt from compare_lt_iff_lt.2 neg]
    have some : 0 < (-n).toNat := by omega
    have result := yields_round some .negative e
    have cast : (((-n).toNat : ℕ) : ℚ) = -n := by
      have : ((-n).toNat : ℤ) = -n := Int.toNat_of_nonneg (by omega)
      exact_mod_cast this
    rw [cast, ← rounded_unit_mul, unit] at result
    rwa [show -1 * (-(n : ℚ) * 2 ^ e) = n * 2 ^ e by ring] at result
  · rw [show compare (0 : ℤ) 0 = .eq from compare_eq_iff_eq.2 rfl]
    refine ⟨rfl, trivial, ?_⟩
    rw [Int.cast_zero, zero_mul, rounded_zero]
    rfl
  · rw [show compare n 0 = .gt from compare_gt_iff_gt.2 pos]
    have some : 0 < n.toNat := by omega
    have result := yields_round some .positive e
    have cast : ((n.toNat : ℕ) : ℚ) = n := by
      have : (n.toNat : ℤ) = n := Int.toNat_of_nonneg pos.le
      exact_mod_cast this
    rw [cast, ← rounded_unit_mul, unit, one_mul] at result
    exact result

/-- **A whole number**, rounded. -/
theorem yields_ofNat (n : ℕ) : Yields (UnpackedFloat.ofNat .binary64 n) (rounded n) := by
  have result := yields_normalize n 0 .positive
  rw [zpow_zero, mul_one] at result
  exact_mod_cast result

variable {u v : UnpackedFloat}

/-- What has as many bits as a double is left as it is. -/
theorem Canonical.representable (h : Canonical u) : Representable (value u) := by
  cases u with
  | finite s m e _ =>
    obtain ⟨bits, bound, -⟩ := h
    refine ⟨s.apply m, e, ?_, bound, rfl⟩
    have bits : (m : ℤ) < 2 ^ 53 := by exact_mod_cast bits
    cases s <;> simpa [Sign.apply] using bits
  | infinity | notANumber | zero => exact representable_zero

theorem yields_mul_finite {s₁ s₂ : Sign} {m₁ m₂ : ℕ} {e₁ e₂ : ℤ} (pos₁ : 0 < m₁) (pos₂ : 0 < m₂)
    (enough : 2 ^ 52 ≤ m₁ * m₂ ∨ e₁ + e₂ ≤ -1074) :
    Yields (UnpackedFloat.mul .binary64 (.finite s₁ m₁ e₁ pos₁) (.finite s₂ m₂ e₂ pos₂))
      (rounded (value (.finite s₁ m₁ e₁ pos₁) * value (.finite s₂ m₂ e₂ pos₂))) := by
  have positive : (0 : ℚ) < (m₁ * m₂ : ℕ) * 2 ^ (e₁ + e₂) :=
    mul_pos (by exact_mod_cast Nat.mul_pos pos₁ pos₂) (two_zpow_pos _)
  have extends_ : Extends (.ofMantissaAndAccuracy (m₁ * m₂) .exact)
      ((m₁ * m₂ : ℕ) * 2 ^ (e₁ + e₂) / 2 ^ (e₁ + e₂)) := by
    rw [mul_div_cancel_right₀ _ (two_zpow_pos _).ne']
    exact extends_exact _
  have result := yields_roundWithAccuracy (s := s₁ * s₂) positive extends_ enough
  rw [← rounded_unit_mul, unit_mul] at result
  have worth : value (.finite s₁ m₁ e₁ pos₁) * value (.finite s₂ m₂ e₂ pos₂)
      = unit s₁ * unit s₂ * ((m₁ * m₂ : ℕ) * 2 ^ (e₁ + e₂)) := by
    rw [value_finite, value_finite, zpow_add₀ two_ne_zero]
    push_cast
    ring
  rw [worth]
  exact result

/-- **A product**, rounded. -/
theorem yields_mul (hu : Canonical u) (hv : Canonical v) (fu : u.isFinite = true)
    (fv : v.isFinite = true) :
    Yields (UnpackedFloat.mul .binary64 u v) (rounded (value u * value v)) := by
  have nothing : ∀ s, value u * value v = 0 → Yields (.zero s) (rounded (value u * value v)) := by
    intro s zero
    rw [zero, rounded_zero]
    exact ⟨rfl, trivial, rfl⟩
  cases u with
  | infinity | notANumber => cases fu
  | zero s =>
    cases v with
    | infinity | notANumber => cases fv
    | zero | finite => exact nothing _ (zero_mul _)
  | finite s₁ m₁ e₁ pos₁ =>
    cases v with
    | infinity | notANumber => cases fv
    | zero => exact nothing _ (mul_zero _)
    | finite s₂ m₂ e₂ pos₂ =>
      refine yields_mul_finite pos₁ pos₂ ?_
      rcases hu.2.2 with large | least
      · exact .inl (large.trans (Nat.le_mul_of_pos_right _ pos₂))
      · rcases hv.2.2 with large | least'
        · exact .inl (large.trans (Nat.le_mul_of_pos_left _ pos₁))
        · right
          omega

/-- **A sum**, rounded. -/
theorem yields_add (hu : Canonical u) (hv : Canonical v) (fu : u.isFinite = true)
    (fv : v.isFinite = true) :
    Yields (UnpackedFloat.add .binary64 u v) (rounded (value u + value v)) := by
  cases u with
  | infinity | notANumber => cases fu
  | zero s₁ =>
    cases v with
    | infinity | notANumber => cases fv
    | zero s₂ =>
      rw [show value (.zero s₁) + value (.zero s₂) = 0 from add_zero 0, rounded_zero]
      unfold UnpackedFloat.add
      dsimp only
      split <;> exact ⟨rfl, trivial, rfl⟩
    | finite s₂ m₂ e₂ pos₂ =>
      rw [show value (.zero s₁) = 0 from rfl, zero_add, rounded_of_representable hv.representable]
      exact ⟨rfl, hv, rfl⟩
  | finite s₁ m₁ e₁ pos₁ =>
    cases v with
    | infinity | notANumber => cases fv
    | zero s₂ =>
      rw [show value (.zero s₂) = 0 from rfl, add_zero, rounded_of_representable hu.representable]
      exact ⟨rfl, hu, rfl⟩
    | finite s₂ m₂ e₂ pos₂ =>
      -- Both are written with the smaller exponent.
      have aligned : ∀ {s : Sign} {m : ℕ} {e : ℤ}, min e₁ e₂ ≤ e →
          (unit s * m * 2 ^ e : ℚ)
            = unit s * (m <<< (e - min e₁ e₂).toNat : ℕ) * 2 ^ min e₁ e₂ := by
        intro s m e le
        obtain ⟨n, hn⟩ := Int.eq_ofNat_of_zero_le (sub_nonneg.2 le)
        have split : e = n + min e₁ e₂ := by omega
        rw [hn, Int.toNat_natCast, Nat.shiftLeft_eq]
        conv_lhs => rw [split, zpow_add₀ two_ne_zero, zpow_natCast]
        push_cast
        ring
      have result := yields_normalize
        (s₁.apply (m₁ <<< (e₁ - min e₁ e₂).toNat : ℕ)
          + s₂.apply (m₂ <<< (e₂ - min e₁ e₂).toNat : ℕ))
        (min e₁ e₂) .positive
      rw [Int.cast_add, cast_apply, cast_apply, add_mul, Int.cast_natCast, Int.cast_natCast,
        ← aligned (min_le_left ..), ← aligned (min_le_right ..)] at result
      rw [value_finite, value_finite, ← mul_assoc, ← mul_assoc]
      exact result

/-- **A quotient of whole numbers** is computed to enough bits. -/
theorem yields_div_finite (s₁ s₂ : Sign) {m₁ m₂ : ℕ} (e₁ e₂ : ℤ) (pos₁ : 0 < m₁) (pos₂ : 0 < m₂) :
    Yields (UnpackedFloat.div .binary64 (.finite s₁ m₁ e₁ pos₁) (.finite s₂ m₂ e₂ pos₂))
      (unit (s₁ / s₂) * rounded (m₁ * 2 ^ e₁ / (m₂ * 2 ^ e₂))) := by
  obtain ⟨te, hte⟩ : ∃ te, min (e₁ - e₂) (Format.binary64.targetExponent
    (totalExponent m₁ e₁ - totalExponent m₂ e₂)) = te := ⟨_, rfl⟩
  obtain ⟨n, hn⟩ := Int.eq_ofNat_of_zero_le (sub_nonneg.2 (hte ▸ min_le_left (e₁ - e₂) _))
  have worth : (m₁ * 2 ^ e₁ / (m₂ * 2 ^ e₂) : ℚ) = (m₁ <<< n : ℕ) / m₂ * 2 ^ te := by
    have split : e₁ = n + te + e₂ := by omega
    have pos₂' : (0 : ℚ) < m₂ := by exact_mod_cast pos₂
    rw [Nat.shiftLeft_eq, split, zpow_add₀ two_ne_zero, zpow_add₀ two_ne_zero, zpow_natCast]
    push_cast
    have := (two_zpow_pos e₂).ne'
    field_simp
  have positive : (0 : ℚ) < m₁ * 2 ^ e₁ / (m₂ * 2 ^ e₂) :=
    div_pos (mul_pos (by exact_mod_cast pos₁) (two_zpow_pos _))
      (mul_pos (by exact_mod_cast pos₂) (two_zpow_pos _))
  have extends_ : Extends (.ofMantissaAndAccuracy ((m₁ <<< n) / m₂)
      (accuracyOfFraction ((m₁ <<< n) % m₂) m₂)) (m₁ * 2 ^ e₁ / (m₂ * 2 ^ e₂) / 2 ^ te) := by
    rw [worth, mul_div_cancel_right₀ _ (two_zpow_pos _).ne']
    exact extends_accuracyOfFraction _ pos₂
  have enough : 2 ^ 52 ≤ (m₁ <<< n) / m₂ ∨ te ≤ -1074 := by
    rcases le_or_gt te (-1074) with fine | coarse
    · exact .inr fine
    · left
      have bits : m₂.log2 + 53 ≤ m₁.log2 + n := by
        have least : Format.binary64.minExponent = -1074 := by decide
        have width : (Format.binary64.mantissaBits : ℤ) = 53 := by decide
        rw [Format.targetExponent, least, width, totalExponent, totalExponent] at hte
        omega
      rw [Nat.le_div_iff_mul_le pos₂, Nat.shiftLeft_eq]
      calc 2 ^ 52 * m₂ ≤ 2 ^ 52 * 2 ^ (m₂.log2 + 1) :=
            Nat.mul_le_mul_left _ Nat.lt_log2_self.le
        _ = 2 ^ (m₂.log2 + 53) := by rw [← pow_add]; congr 1; omega
        _ ≤ 2 ^ (m₁.log2 + n) := Nat.pow_le_pow_right two_pos bits
        _ = 2 ^ m₁.log2 * 2 ^ n := pow_add ..
        _ ≤ m₁ * 2 ^ n := Nat.mul_le_mul_right _ (Nat.log2_self_le pos₁.ne')
  have core : divCore .binary64 m₁ e₁ m₂ e₂
      = ((m₁ <<< n) / m₂, te, accuracyOfFraction ((m₁ <<< n) % m₂) m₂) := by
    rw [divCore, hte, hn, Int.toNat_natCast]
  show Yields (roundWithAccuracy .binary64 (s₁ / s₂) (divCore .binary64 m₁ e₁ m₂ e₂).1
    (divCore .binary64 m₁ e₁ m₂ e₂).2.1 (divCore .binary64 m₁ e₁ m₂ e₂).2.2) _
  rw [core]
  exact yields_roundWithAccuracy positive extends_ enough

/-- **A quotient**, rounded. -/
theorem yields_div (fu : u.isFinite = true) (fv : v.isFinite = true) (nonzero : value v ≠ 0) :
    Yields (UnpackedFloat.div .binary64 u v) (rounded (value u / value v)) := by
  cases v with
  | infinity | notANumber => cases fv
  | zero s => exact absurd rfl nonzero
  | finite s₂ m₂ e₂ pos₂ =>
    cases u with
    | infinity | notANumber => cases fu
    | zero s₁ =>
      rw [show value (.zero s₁) = 0 from rfl, zero_div, rounded_zero]
      exact ⟨rfl, trivial, rfl⟩
    | finite s₁ m₁ e₁ pos₁ =>
      have worth : value (.finite s₁ m₁ e₁ pos₁) / value (.finite s₂ m₂ e₂ pos₂)
          = unit (s₁ / s₂) * (m₁ * 2 ^ e₁ / (m₂ * 2 ^ e₂)) := by
        rw [value_finite] at nonzero
        rw [value_finite, value_finite, unit_div, div_eq_iff nonzero]
        have pos := (mul_ne_zero_iff.1 nonzero).2
        rw [mul_mul_mul_comm, div_mul_cancel₀ _ pos, mul_assoc (unit s₁), unit_mul_self, mul_one]
      rw [worth, rounded_unit_mul]
      exact yields_div_finite s₁ s₂ e₁ e₂ pos₁ pos₂

/-! ## Operations on what is no number -/

theorem isFinite_of_mul (h : (UnpackedFloat.mul .binary64 u v).isFinite = true) :
    u.isFinite = true ∧ v.isFinite = true := by
  cases u <;> cases v <;> first | exact ⟨rfl, rfl⟩ | cases h

theorem isFinite_of_add (h : (UnpackedFloat.add .binary64 u v).isFinite = true) :
    u.isFinite = true ∧ v.isFinite = true := by
  cases u <;> cases v <;> first | exact ⟨rfl, rfl⟩ | cases h | skip
  unfold UnpackedFloat.add at h
  dsimp only at h
  split at h <;> cases h

theorem isFinite_of_div (h : (UnpackedFloat.div .binary64 u v).isFinite = true) :
    u.isFinite = true := by
  cases u <;> cases v <;> first | rfl | cases h

end Liveboard.Unpacked
