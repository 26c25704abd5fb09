import Mathlib
import Liveboard.Decimal.Binary
import Liveboard.Proofs.Decimal.Unpacked

/-!
# Doubles and fractions

A finite double is a fraction, `Double.exact`. The bits of a double are taken apart in two
ways here: by the arithmetic, and by the reading that everything is printed and counted
from. Both see the same sign, significand and exponent (`Double.ofFloat_eq`), so there is
one fraction. The lemmas on the packing of a double into bits come only with the whole of
the library that is imported here.

A result of the arithmetic is put back into 64 bits. This changes nothing unless it is
too large; then it becomes infinite (`Double.unpack_pack`). So a product, a sum or a
quotient of finite doubles is the exact one, rounded, if that is below `2 ^ 1024`, and
infinite if not, which is what `Double.Rounds` says of a double and a fraction. From what
is infinite or no number nothing finite comes any more, unless one divides by it.

The lemmas `rounds_mul`, `rounds_add` and `rounds_div` are all that later proofs need of
the arithmetic: whoever bounds a computation in doubles takes it one operation at a time,
and never looks at a bit again.
-/

namespace Liveboard

open Float.Model Float.Model.UnpackedFloat Rounding Unpacked

namespace Double

/-! ## Bits -/

theorem toNat_unpackMantissa (b : BitVec 64) :
    (@unpackMantissa .binary64 b).toNat = b.toNat % 2 ^ 52 := by
  simp [unpackMantissa]

theorem toNat_unpackExponent (b : BitVec 64) :
    (@unpackExponent .binary64 b).toNat = b.toNat / 2 ^ 52 % 2 ^ 11 := by
  simp [unpackExponent, Nat.shiftRight_eq_div_pow]

theorem toNat_unpackSign (b : BitVec 64) :
    (@unpackSign .binary64 b).toNat = b.toNat / 2 ^ 63 := by
  have bound := b.isLt
  simp [unpackSign, Nat.shiftRight_eq_div_pow]
  omega

theorem toNat_one_append (f : BitVec 52) : (1#1 ++ f).toNat = 2 ^ 52 + f.toNat := by
  rw [BitVec.toNat_append, ← Nat.shiftLeft_add_eq_or_of_lt f.isLt]
  rfl

theorem exponentBias_eq : Format.binary64.exponentBias = 1023 := by decide

/-- **What becomes of a result in 64 bits**: an exponent that is too large makes it
infinite. -/
def cutOff : UnpackedFloat → UnpackedFloat
  | .finite s m e pos => if 971 < e then .infinity s else .finite s m e pos
  | u => u

theorem unpack_normal (s : Sign) {e : ℤ} {m : ℕ} (low : -1074 ≤ e) (high : e ≤ 971)
    (large : 2 ^ 52 ≤ m) (bits : m < 2 ^ 53) :
    UnpackedFloat.unpack .binary64
        (packComponents .binary64 s (BitVec.ofNat 11 (e + 1075).toNat) (BitVec.ofNat 52 m))
      = .finite s m e (by omega) := by
  have field : (BitVec.ofNat 11 (e + 1075).toNat).toNat = (e + 1075).toNat := by
    rw [BitVec.toNat_ofNat, Nat.mod_eq_of_lt (by omega)]
  have some : BitVec.ofNat 11 (e + 1075).toNat ≠ 0#11 := by
    rw [← BitVec.toNat_inj.ne, field]
    show _ ≠ 0
    omega
  have finite_ : BitVec.ofNat 11 (e + 1075).toNat ≠ -1#11 := by
    rw [← BitVec.toNat_inj.ne, field]
    show _ ≠ 2047
    omega
  have significand : (1#1 ++ BitVec.ofNat 52 m).toNat = m := by
    rw [toNat_one_append, BitVec.toNat_ofNat]
    omega
  unfold UnpackedFloat.unpack
  simp only [unpackExponent_packComponents, unpackMantissa_packComponents,
    unpackSign_packComponents, Sign.ofBitVec_toBitVec]
  rw [if_neg finite_, if_neg some]
  simp only [UnpackedFloat.finite.injEq, true_and]
  refine ⟨significand, ?_⟩
  rw [field, exponentBias_eq]
  push_cast
  omega

theorem unpack_subnormal (s : Sign) {m : ℕ} (pos : 0 < m) (small : m < 2 ^ 52) :
    UnpackedFloat.unpack .binary64 (packComponents .binary64 s 0#11 (BitVec.ofNat 52 m))
      = .finite s m (-1074) pos := by
  have fraction : (BitVec.ofNat 52 m).toNat = m := by
    rw [BitVec.toNat_ofNat, Nat.mod_eq_of_lt small]
  have some : BitVec.ofNat 52 m ≠ 0#52 := by
    rw [← BitVec.toNat_inj.ne, fraction]
    exact pos.ne'
  have finite_ : (0#11 : BitVec 11) ≠ -1#11 := by decide
  unfold UnpackedFloat.unpack
  simp only [unpackExponent_packComponents, unpackMantissa_packComponents,
    unpackSign_packComponents, Sign.ofBitVec_toBitVec]
  rw [if_neg finite_, if_pos trivial, dif_neg some]
  simp only [UnpackedFloat.finite.injEq, true_and]
  exact ⟨fraction, by rw [exponentBias_eq]; rfl⟩

/-- **What is packed is unpacked again**, cut off. -/
theorem unpack_pack {u : UnpackedFloat} (h : Canonical u) :
    UnpackedFloat.unpack .binary64 (UnpackedFloat.pack .binary64 u) = cutOff u := by
  cases u with
  | infinity s => cases s <;> rfl
  | notANumber => rfl
  | zero s => cases s <;> rfl
  | finite s m e pos =>
    obtain ⟨bits, bound, large⟩ := h
    have biased : (e + Format.binary64.exponentBias + (52 : ℕ)).toNat = (e + 1075).toNat := by
      rw [exponentBias_eq]
      congr 1
      omega
    have width : Format.binary64.mantissaBits = 53 := by decide
    unfold UnpackedFloat.pack cutOff
    simp only
    rw [biased, width]
    by_cases far : 971 < e
    · rw [if_pos (by omega), if_pos far]
      cases s <;> rfl
    rw [if_neg (by omega), if_neg far]
    by_cases normal : 2 ^ 52 ≤ m
    · have log : m.log2 = 52 := (Nat.log2_eq_iff pos.ne').2 ⟨normal, bits⟩
      rw [if_pos (by omega)]
      exact unpack_normal s bound (not_lt.1 far) normal bits
    · have log : m.log2 < 52 := (Nat.log2_lt pos.ne').2 (not_le.1 normal)
      obtain rfl := large.resolve_left normal
      rw [if_neg (by omega)]
      exact unpack_subnormal s pos (not_le.1 normal)

/-- **What bits stand for**, by their fields. -/
theorem unpack_eq (b : BitVec 64) :
    UnpackedFloat.unpack .binary64 b
      = if b.toNat / 2 ^ 52 % 2 ^ 11 = 2047 then
          if b.toNat % 2 ^ 52 = 0 then .infinity (.ofBitVec (@unpackSign .binary64 b))
          else .notANumber
        else if b.toNat / 2 ^ 52 % 2 ^ 11 = 0 then
          if h : b.toNat % 2 ^ 52 = 0 then .zero (.ofBitVec (@unpackSign .binary64 b))
          else .finite (.ofBitVec (@unpackSign .binary64 b)) (b.toNat % 2 ^ 52) (-1074)
            (Nat.pos_of_ne_zero h)
        else .finite (.ofBitVec (@unpackSign .binary64 b)) (2 ^ 52 + b.toNat % 2 ^ 52)
          ((b.toNat / 2 ^ 52 % 2 ^ 11 : ℕ) - 1075) (by omega) := by
  have full : @unpackExponent .binary64 b = -1#11 ↔ b.toNat / 2 ^ 52 % 2 ^ 11 = 2047 := by
    rw [← toNat_unpackExponent, ← BitVec.toNat_inj]
    rfl
  have none : @unpackExponent .binary64 b = 0#11 ↔ b.toNat / 2 ^ 52 % 2 ^ 11 = 0 := by
    rw [← toNat_unpackExponent, ← BitVec.toNat_inj]
    rfl
  have zero : @unpackMantissa .binary64 b = 0#52 ↔ b.toNat % 2 ^ 52 = 0 := by
    rw [← toNat_unpackMantissa, ← BitVec.toNat_inj]
    rfl
  unfold UnpackedFloat.unpack
  simp only [full, none, zero, toNat_one_append, toNat_unpackMantissa, toNat_unpackExponent,
    exponentBias_eq]
  split_ifs with h₁ h₂ h₃ h₄
  · rfl
  · rfl
  · rfl
  · rw [h₃]
    rfl
  · simp only [UnpackedFloat.finite.injEq, true_and]
    push_cast
    omega

/-- What bits stand for has no more bits than a double, and is not too large. -/
theorem canonical_unpack (b : BitVec 64) :
    Canonical (UnpackedFloat.unpack .binary64 b) ∧
      cutOff (UnpackedFloat.unpack .binary64 b) = UnpackedFloat.unpack .binary64 b := by
  rw [unpack_eq]
  split_ifs with h₁ h₂ h₃ h₄
  · exact ⟨trivial, rfl⟩
  · exact ⟨trivial, rfl⟩
  · exact ⟨trivial, rfl⟩
  · exact ⟨⟨by omega, le_rfl, .inr rfl⟩, rfl⟩
  · exact ⟨⟨by omega, by omega, .inl (Nat.le_add_right ..)⟩, if_neg (by omega)⟩

/-- **The upper end of the doubles.** -/
def limit : ℚ :=
  2 ^ 1024

theorem limit_eq : limit = 2 ^ (1024 : ℤ) :=
  (zpow_natCast 2 1024).symm

theorem limit_pos : 0 < limit :=
  limit_eq ▸ two_zpow_pos 1024

/-- **Only what is too large is cut off.** -/
theorem isFinite_cutOff {u : UnpackedFloat} (h : Canonical u) (finite : u.isFinite = true) :
    (cutOff u).isFinite = true ↔ |value u| < limit := by
  cases u with
  | infinity | notANumber => cases finite
  | zero => simpa [cutOff, value, UnpackedFloat.isFinite] using limit_pos
  | finite s m e pos =>
    obtain ⟨bits, bound, large⟩ := h
    have abs : |value (.finite s m e pos)| = m * 2 ^ e := by
      have unit_abs : |unit s| = 1 := by cases s <;> simp [unit]
      rw [value_finite, abs_mul, unit_abs, one_mul,
        abs_of_pos (mul_pos (by exact_mod_cast pos) (two_zpow_pos e))]
    rw [abs, limit_eq, cutOff]
    by_cases far : 971 < e
    · rw [if_pos far]
      refine iff_of_false Bool.false_ne_true (not_lt.2 ?_)
      have normal : 2 ^ 52 ≤ m := large.resolve_right (by omega)
      calc (2 : ℚ) ^ (1024 : ℤ) ≤ 2 ^ (52 + e) := two_zpow_le.2 (by omega)
        _ = 2 ^ (52 : ℤ) * 2 ^ e := zpow_add₀ two_ne_zero ..
        _ ≤ m * 2 ^ e := mul_le_mul_of_nonneg_right (by exact_mod_cast normal) (two_zpow_pos e).le
    · rw [if_neg far]
      refine iff_of_true rfl ?_
      calc (m : ℚ) * 2 ^ e < 2 ^ (53 : ℤ) * 2 ^ e :=
            mul_lt_mul_of_pos_right (by exact_mod_cast bits) (two_zpow_pos e)
        _ = 2 ^ (53 + e) := (zpow_add₀ two_ne_zero ..).symm
        _ ≤ 2 ^ (1024 : ℤ) := two_zpow_le.2 (by omega)

theorem isNaN_cutOff {u : UnpackedFloat} (finite : u.isFinite = true) :
    (cutOff u).isNaN = false := by
  cases u with
  | infinity | notANumber => cases finite
  | zero => rfl
  | finite =>
    rw [cutOff]
    split <;> rfl

theorem cutOff_of_isFinite {u : UnpackedFloat} (h : (cutOff u).isFinite = true) : cutOff u = u := by
  cases u with
  | infinity | notANumber | zero => rfl
  | finite s m e pos =>
    rw [cutOff] at h ⊢
    split at h
    · cases h
    · rename_i near
      exact if_neg near

end Double

/-! ## The fraction of a double -/

/-- The fraction that is meant; nothing for what is no number or infinite. -/
def Binary.value : Binary → ℚ
  | .finite negative m e => (if negative then -1 else 1) * (m * 2 ^ e)
  | .nan | .infinite _ => 0

namespace Double

/-- **The exact value of a double.** -/
def exact (x : Float) : ℚ :=
  (Binary.ofFloat x).value

/-- The reading of a sign, a significand and an exponent. -/
def reading : UnpackedFloat → Binary
  | .notANumber => .nan
  | .infinity s => .infinite (s == .negative)
  | .zero s => .finite (s == .negative) 0 (-1074)
  | .finite s m e _ => .finite (s == .negative) m e

theorem negative_eq (b : BitVec 64) :
    (Sign.ofBitVec (@unpackSign .binary64 b) == .negative) = (b.toNat / 2 ^ 63 == 1) := by
  have bit := toNat_unpackSign b
  have bound := b.isLt
  rw [Sign.ofBitVec]
  by_cases zero : @unpackSign .binary64 b = 0#1
  · rw [zero] at bit
    rw [if_pos zero, ← bit]
    rfl
  · have some : (@unpackSign .binary64 b).toNat ≠ 0 :=
      fun eq => zero (BitVec.eq_of_toNat_eq eq)
    rw [if_neg zero, show b.toNat / 2 ^ 63 = 1 by omega]
    rfl

theorem reading_unpack (b : BitVec 64) :
    reading (UnpackedFloat.unpack .binary64 b)
      = if b.toNat / 2 ^ 52 % 2 ^ 11 = 2047 then
          if b.toNat % 2 ^ 52 = 0 then .infinite (b.toNat / 2 ^ 63 == 1) else .nan
        else if b.toNat / 2 ^ 52 % 2 ^ 11 = 0 then
          .finite (b.toNat / 2 ^ 63 == 1) (b.toNat % 2 ^ 52) (-1074)
        else .finite (b.toNat / 2 ^ 63 == 1) (b.toNat % 2 ^ 52 + 2 ^ 52)
          ((b.toNat / 2 ^ 52 % 2 ^ 11 : ℕ) - 1075) := by
  rw [unpack_eq, ← negative_eq]
  split_ifs with full zero none zero
  · rfl
  · rfl
  · rw [zero]
    rfl
  · rfl
  · rw [reading, add_comm]

/-- The reading of the bits and that of the arithmetic are the same. -/
theorem ofFloat_eq (x : Float) : Binary.ofFloat x = reading x.toModel.unpack := by
  rw [Float.Model.unpack, reading_unpack]
  unfold Binary.ofFloat
  simp only [beq_iff_eq]
  rfl

theorem exact_eq (x : Float) : exact x = value x.toModel.unpack := by
  rw [exact, ofFloat_eq]
  cases x.toModel.unpack with
  | notANumber | infinity => rfl
  | zero s =>
    rw [reading, Binary.value, Nat.cast_zero, zero_mul, mul_zero]
    rfl
  | finite s m e pos =>
    rw [value_finite]
    cases s <;> rfl

theorem canonical (x : Float) : Canonical x.toModel.unpack :=
  (canonical_unpack _).1

/-- **The exact value of a finite double** is one of 53 bits below the upper end. -/
theorem representable_exact (x : Float) : Representable (exact x) :=
  exact_eq x ▸ (canonical x).representable

theorem abs_exact_lt (x : Float) : |exact x| < limit := by
  by_cases finite : x.toModel.unpack.isFinite = true
  · rw [exact_eq, ← isFinite_cutOff (canonical x) finite]
    exact (canonical_unpack _).2 ▸ finite
  · have none : exact x = 0 := by
      rw [exact_eq]
      cases unpacked : x.toModel.unpack with
      | notANumber | infinity => rfl
      | zero | finite =>
        rw [unpacked] at finite
        exact absurd rfl finite
    rw [none, abs_zero]
    exact limit_pos

/-! ## Rounded results -/

/-- **A double is a result**: what a fraction is rounded to, unless that is too large. -/
structure Rounds (x : Float) (q : ℚ) : Prop where
  /-- It is a number. -/
  isNaN : x.isNaN = false
  /-- It is finite unless the rounded result is too large. -/
  isFinite_iff : x.isFinite = true ↔ |rounded q| < limit
  /-- If it is, it is the rounded result. -/
  exact_eq : x.isFinite = true → exact x = rounded q

/-- **A result in 64 bits.** -/
theorem rounds_of_yields {x : Float} {u : UnpackedFloat} {q : ℚ}
    (packed : x.toModel = .pack u) (h : Yields u (rounded q)) : Rounds x q := by
  have unpacked : x.toModel.unpack = cutOff u := by
    rw [packed]
    exact unpack_pack h.canonical
  have isFinite : x.isFinite = (cutOff u).isFinite := by
    rw [← unpacked]
    rfl
  constructor
  · rw [show x.isNaN = (cutOff u).isNaN by rw [← unpacked]; rfl]
    exact isNaN_cutOff h.isFinite
  · rw [isFinite, isFinite_cutOff h.canonical h.isFinite, h.value]
  · intro finite
    rw [isFinite] at finite
    rw [Double.exact_eq, unpacked, cutOff_of_isFinite finite, h.value]

variable {x y : Float}

theorem rounds_mul (hx : x.isFinite = true) (hy : y.isFinite = true) :
    Rounds (x * y) (exact x * exact y) := by
  rw [exact_eq, exact_eq]
  exact rounds_of_yields rfl (yields_mul (canonical x) (canonical y) hx hy)

theorem rounds_add (hx : x.isFinite = true) (hy : y.isFinite = true) :
    Rounds (x + y) (exact x + exact y) := by
  rw [exact_eq, exact_eq]
  exact rounds_of_yields rfl (yields_add (canonical x) (canonical y) hx hy)

theorem rounds_div (hx : x.isFinite = true) (hy : y.isFinite = true) (nonzero : exact y ≠ 0) :
    Rounds (x / y) (exact x / exact y) := by
  rw [exact_eq] at nonzero
  rw [exact_eq, exact_eq]
  exact rounds_of_yields rfl (yields_div hx hy nonzero)

theorem rounds_toFloat (n : UInt64) : Rounds n.toFloat n.toNat :=
  rounds_of_yields rfl (yields_ofNat n.toNat)

/-- A count as a double. -/
theorem isFinite_toFloat (n : UInt64) : n.toFloat.isFinite = true := by
  rw [(rounds_toFloat n).isFinite_iff, limit_eq]
  have bound : |(n.toNat : ℚ)| ≤ 2 ^ (64 : ℤ) := by
    rw [abs_of_nonneg (Nat.cast_nonneg _)]
    exact_mod_cast n.toNat_lt.le
  exact (abs_rounded_le (representable_two_zpow (by norm_num)) bound).trans_lt
    (zpow_lt_zpow_right₀ one_lt_two (by norm_num))

theorem exact_toFloat (n : UInt64) : exact n.toFloat = rounded n.toNat :=
  (rounds_toFloat n).exact_eq (isFinite_toFloat n)

/-- The power of ten that a whole number is multiplied by. -/
theorem exact_one : exact (Float.ofBits 0x3FF0000000000000) = 1 := by
  rw [exact, show Binary.ofFloat (Float.ofBits 0x3FF0000000000000)
    = .finite false (2 ^ 52) (-52) from rfl, Binary.value]
  norm_num

/-- **A whole number** of any size. -/
theorem rounds_ofScientific (n : ℕ) : Rounds (OfScientific.ofScientific n false 0) n := by
  show Rounds (Float.ofScientific n false 0) n
  rw [Float.ofScientific]
  split
  · rename_i small
    have word : n.toUInt64.toNat = n := by
      show n % 2 ^ 64 = n
      omega
    have product := rounds_mul (isFinite_toFloat n.toUInt64)
      (show (Float.ofBits 0x3FF0000000000000).isFinite = true from rfl)
    rw [exact_toFloat, exact_one, mul_one, word,
      rounded_of_representable (representable_natCast small.1)] at product
    exact product
  · rename_i large
    have nonzero : n ≠ 0 := by
      rintro rfl
      exact large (by norm_num)
    have bits : Format.binary64.mantissaBits = 53 := by decide
    have pos : 0 < n <<< 53 := by
      rw [Nat.shiftLeft_eq]
      positivity
    have enough : 2 ^ 52 ≤ n <<< 53 * 10 ^ 0 := by
      rw [Nat.shiftLeft_eq, pow_zero, mul_one]
      omega
    have pos' : 0 < 10 ^ 0 := by norm_num
    have result : Yields (UnpackedFloat.mul .binary64 (.finite .positive (n <<< 53) (-53) pos)
          (.finite .positive (10 ^ 0) 0 pos'))
        (rounded (value (.finite .positive (n <<< 53) (-53) pos)
          * value (.finite .positive (10 ^ 0) 0 pos'))) :=
      yields_mul_finite pos pos' (.inl enough)
    have worth : value (.finite .positive (n <<< 53) (-53) pos)
        * value (.finite .positive (10 ^ 0) 0 pos') = n := by
      rw [value_finite, value_finite, Nat.shiftLeft_eq]
      simp only [unit]
      push_cast
      rw [zpow_neg, one_mul, one_mul]
      field_simp
      norm_num
    rw [worth] at result
    refine rounds_of_yields (u := UnpackedFloat.ofScientific .binary64 n 0) rfl ?_
    unfold UnpackedFloat.ofScientific
    rw [dif_neg nonzero, if_neg (by norm_num), if_neg (by norm_num), if_pos (le_refl 0)]
    exact result

/-! ## What is no number -/

theorem isFinite_of_pack {u : UnpackedFloat} (h : (Float.Model.pack u).unpack.isFinite = true) :
    u.isFinite = true := by
  cases u with
  | infinity s => cases s <;> cases h
  | notANumber => cases h
  | zero | finite => rfl

/-- What is infinite or no number stays so. -/
theorem isFinite_of_mul (h : (x * y).isFinite = true) : x.isFinite = true ∧ y.isFinite = true :=
  Unpacked.isFinite_of_mul (isFinite_of_pack h)

theorem isFinite_of_add (h : (x + y).isFinite = true) : x.isFinite = true ∧ y.isFinite = true :=
  Unpacked.isFinite_of_add (isFinite_of_pack h)

theorem isFinite_of_div (h : (x / y).isFinite = true) : x.isFinite = true :=
  Unpacked.isFinite_of_div (isFinite_of_pack h)

/-! ## Comparisons -/

theorem beq_zero_iff (hx : x.isFinite = true) : (x == 0) = true ↔ exact x = 0 := by
  show (x.toModel.unpack.compare (.zero .positive) == some .eq) = true ↔ _
  rw [exact_eq]
  have finite : x.toModel.unpack.isFinite = true := hx
  cases unpacked : x.toModel.unpack with
  | notANumber | infinity =>
    rw [unpacked] at finite
    cases finite
  | zero s => exact iff_of_true rfl rfl
  | finite s m e pos =>
    have nonzero : value (.finite s m e pos) ≠ 0 := by
      rw [value_finite]
      refine mul_ne_zero ?_ (mul_pos (by exact_mod_cast pos) (two_zpow_pos e)).ne'
      cases s <;> norm_num [unit]
    refine iff_of_false ?_ nonzero
    cases s <;> exact Bool.false_ne_true

theorem zero_le_iff (hx : x.isFinite = true) : 0.0 ≤ x ↔ 0 ≤ exact x := by
  show decide ((0.0 : Float).toModel ≤ x.toModel) = true ↔ _
  rw [decide_eq_true_iff]
  show ((UnpackedFloat.zero .positive).compare x.toModel.unpack).any (·.isLE) = true ↔ _
  rw [exact_eq]
  have finite : x.toModel.unpack.isFinite = true := hx
  cases unpacked : x.toModel.unpack with
  | notANumber | infinity =>
    rw [unpacked] at finite
    cases finite
  | zero s => exact iff_of_true rfl le_rfl
  | finite s m e pos =>
    have magnitude : (0 : ℚ) < m * 2 ^ e := mul_pos (by exact_mod_cast pos) (two_zpow_pos e)
    rw [value_finite]
    cases s with
    | positive => exact iff_of_true rfl (by rw [unit, one_mul]; exact magnitude.le)
    | negative => exact iff_of_false Bool.false_ne_true (by rw [unit, neg_one_mul]; linarith)

/-! ## The opposite number -/

theorem unpack_neg (x : Float) : (-x).toModel.unpack = x.toModel.unpack.neg := by
  have canonical_neg : Canonical x.toModel.unpack.neg := by
    have h := canonical x
    cases unpacked : x.toModel.unpack with
    | finite s m e pos =>
      rw [unpacked] at h
      exact h
    | notANumber | infinity | zero => trivial
  have near : cutOff x.toModel.unpack = x.toModel.unpack := (canonical_unpack _).2
  have stays : cutOff x.toModel.unpack.neg = x.toModel.unpack.neg := by
    cases unpacked : x.toModel.unpack with
    | finite s m e pos =>
      rw [unpacked, cutOff] at near
      rw [UnpackedFloat.neg, cutOff]
      split at near
      · cases near
      · rename_i small
        exact if_neg small
    | notANumber | infinity | zero => rfl
  exact (unpack_pack canonical_neg).trans stays

theorem isFinite_neg (x : Float) : (-x).isFinite = x.isFinite := by
  show (-x).toModel.unpack.isFinite = x.toModel.unpack.isFinite
  rw [unpack_neg]
  cases x.toModel.unpack <;> rfl

theorem isNaN_neg (x : Float) : (-x).isNaN = x.isNaN := by
  show (-x).toModel.unpack.isNaN = x.toModel.unpack.isNaN
  rw [unpack_neg]
  cases x.toModel.unpack <;> rfl

theorem exact_neg (x : Float) : exact (-x) = -exact x := by
  rw [exact_eq, exact_eq, unpack_neg]
  cases x.toModel.unpack with
  | notANumber | infinity | zero => exact neg_zero.symm
  | finite s m e pos =>
    rw [UnpackedFloat.neg, value_finite, value_finite, ← neg_mul]
    cases s
    · exact congrArg (· * _) (neg_neg 1).symm
    · rfl

theorem Rounds.neg {q : ℚ} (h : Rounds x q) : Rounds (-x) (-q) := by
  constructor
  · rw [isNaN_neg, h.isNaN]
  · rw [isFinite_neg, h.isFinite_iff, rounded_neg, abs_neg]
  · rw [isFinite_neg, exact_neg, rounded_neg]
    exact fun finite => congrArg _ (h.exact_eq finite)

/-! ## What is finite -/

/-- A number is finite or infinite. -/
theorem isFinite_eq_not_isInf {x : Float} (number : x.isNaN = false) :
    x.isFinite = !x.isInf := by
  have number : x.toModel.unpack.isNaN = false := number
  show x.toModel.unpack.isFinite = !x.toModel.unpack.isInf
  cases unpacked : x.toModel.unpack with
  | notANumber =>
    rw [unpacked] at number
    cases number
  | infinity | zero | finite => rfl

/-- **A result is infinite** if the rounded result is too large. -/
theorem Rounds.isInf_iff {x : Float} {q : ℚ} (h : Rounds x q) :
    x.isInf = true ↔ limit ≤ |rounded q| := by
  have finite := h.isFinite_iff
  rw [isFinite_eq_not_isInf h.isNaN, Bool.not_eq_true'] at finite
  rw [← not_lt, ← finite, Bool.not_eq_false]

/-- A double is finite if its bits say so. -/
theorem isFinite_iff (x : Float) :
    x.isFinite = true ↔ ∃ negative m e, Binary.ofFloat x = .finite negative m e := by
  rw [ofFloat_eq, show x.isFinite = x.toModel.unpack.isFinite from rfl]
  cases x.toModel.unpack <;> simp [reading, UnpackedFloat.isFinite]

end Double

end Liveboard
