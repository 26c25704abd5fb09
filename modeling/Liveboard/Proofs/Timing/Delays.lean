import Liveboard.Proofs.Timing.Seconds
import Liveboard.Timing.Backoff

/-!
# The delays of a policy

A delay is computed in seven steps that each round: a power, a product with the base, then the
cap, the half-width of the band, its two ends, its width, the part of the width that the draw
takes, and the sum. The power may well become infinite, since the attempts are not bounded; but
it does not become anything worse, and the cap cuts off what is infinite as it cuts off what is
too long (`BackoffPolicy.Sound.nominal`). From there on everything is finite, and each step adds
no more than one part in `2 ^ 53`.

So there is a delay in seconds for every attempt and every draw, it is not negative, and the
band around it is not empty. What it need not do is stay below the cap, for the band is laid
around the capped delay (`BackoffPolicy.Sound.seconds_le`), nor make a span: a double of `2 ^ 64`
seconds makes none (`BackoffPolicy.Sound.delay?_eq`).

All of this is about one attempt. A policy in use counts its attempts, and `Backoff.next_run`
says for which attempt the next delay is after any calls, with a delay or without.
-/

namespace Liveboard

open Float.Model Float.Model.UnpackedFloat Rounding Unpacked Double

/-! ## Doubles that may be infinite -/

namespace Unpacked

/-- **No less than a fraction**, or infinite. -/
def AtLeast (q : ℚ) (u : UnpackedFloat) : Prop :=
  u = .infinity .positive ∨ u.isFinite = true ∧ q ≤ value u

variable {q : ℚ} {u v : UnpackedFloat}

/-- What is no less than something positive is positive. -/
theorem AtLeast.cases (pos : 0 < q) (h : AtLeast q u) :
    u = .infinity .positive ∨ ∃ m e p, u = .finite .positive m e p := by
  rcases h with infinite | ⟨finite, le⟩
  · exact .inl infinite
  · cases u with
    | infinity | notANumber => cases finite
    | zero s => exact absurd (pos.trans_le le) (lt_irrefl 0)
    | finite s m e p =>
      cases s with
      | positive => exact .inr ⟨m, e, p, rfl⟩
      | negative =>
        have magnitude : (0 : ℚ) < m * 2 ^ e := mul_pos (by exact_mod_cast p) (two_zpow_pos e)
        rw [value_finite, unit] at le
        linarith

/-- Cutting off makes it infinite at worst. -/
theorem AtLeast.cutOff (pos : 0 < q) (h : AtLeast q u) : AtLeast q (Double.cutOff u) := by
  rcases h.cases pos with rfl | ⟨m, e, p, rfl⟩
  · exact h
  · rw [Double.cutOff]
    split
    · exact .inl rfl
    · exact h

end Unpacked

namespace Double

variable {q : ℚ} {x y c : Float}

/-- **A double of no less than a fraction**, or infinite. -/
def AtLeast (q : ℚ) (x : Float) : Prop :=
  Unpacked.AtLeast q x.toModel.unpack

theorem atLeast_of_le (hx : x.isFinite = true) (le : q ≤ exact x) : AtLeast q x :=
  .inr ⟨hx, exact_eq x ▸ le⟩

/-- **A factor of one or more** keeps a double from getting less. -/
theorem AtLeast.mul (pos : 0 < q) (representable : Representable q) (hx : AtLeast q x)
    (hy : AtLeast 1 y) : AtLeast q (x * y) := by
  have canonical_mul : Canonical (UnpackedFloat.mul .binary64 x.toModel.unpack y.toModel.unpack)
      ∧ Unpacked.AtLeast q
        (UnpackedFloat.mul .binary64 x.toModel.unpack y.toModel.unpack) := by
    rcases hx.cases pos with infinite | ⟨m, e, p, finite⟩
    · rcases hy.cases one_pos with other | ⟨n, f, r, other⟩ <;> rw [infinite, other] <;>
        exact ⟨trivial, .inl rfl⟩
    · rcases hy.cases one_pos with other | ⟨n, f, r, other⟩
      · rw [finite, other]
        exact ⟨trivial, .inl rfl⟩
      · have left := hx.resolve_left (by rw [finite]; simp)
        have right := hy.resolve_left (by rw [other]; simp)
        have product := yields_mul (canonical x) (canonical y) left.1 right.1
        refine ⟨product.canonical, .inr ⟨product.isFinite, ?_⟩⟩
        rw [product.value, ← rounded_of_representable representable]
        refine rounded_mono ((mul_one q).symm.trans_le ?_)
        exact mul_le_mul left.2 right.2 zero_le_one (pos.le.trans left.2)
  have unpacked : (x * y).toModel.unpack
      = cutOff (UnpackedFloat.mul .binary64 x.toModel.unpack y.toModel.unpack) :=
    unpack_pack canonical_mul.1
  rw [AtLeast, unpacked]
  exact canonical_mul.2.cutOff pos

/-- **A result that is not too large** is finite, and the rounded one. -/
theorem Rounds.isFinite {k : ℤ} (h : Rounds x q) (bound : |q| ≤ 2 ^ k) (low : -1074 ≤ k)
    (high : k < 1024) : x.isFinite = true :=
  h.isFinite_iff.2 (lt_limit (abs_rounded_le (representable_two_zpow low) bound) high)

end Double

namespace BackoffPolicy

/-! ## The power and the cap -/

/-- **A power of one or more** is one or more. -/
theorem atLeast_powerFrom (acc x : Float) (n : ℕ) (hacc : AtLeast 1 acc) (hx : AtLeast 1 x) :
    AtLeast 1 (powerFrom acc x n) := by
  have multiplied : ∀ {acc x : Float} (n : ℕ), AtLeast 1 acc → AtLeast 1 x →
      AtLeast 1 (if (n + 1) % 2 = 1 then acc * x else acc) := by
    intro acc x n hacc hx
    split
    · exact hacc.mul one_pos representable_one hx
    · exact hacc
  induction acc, x, n using powerFrom.induct with
  | case1 acc x =>
    rw [powerFrom]
    exact hacc
  | case2 acc x n done =>
    rw [powerFrom]
    simp only [if_pos done]
    exact multiplied n hacc hx
  | case3 acc x n acc' more ih =>
    rw [powerFrom]
    simp only [if_neg more]
    exact ih (multiplied n hacc hx) (hx.mul one_pos representable_one hx)

/-- **The lesser of two doubles**, of which one may be infinite, is finite. -/
theorem lesser_spec {q : ℚ} {x c : Float} (hx : AtLeast q x) (hc : c.isFinite = true)
    (le : q ≤ exact c) :
    (lesser x c).isFinite = true ∧ q ≤ exact (lesser x c) ∧ exact (lesser x c) ≤ exact c := by
  have number := isNaN_of_isFinite hc
  rcases hx with infinite | ⟨finite, low⟩
  · have isNaN : x.isNaN = false := by
      show x.toModel.unpack.isNaN = false
      rw [infinite]
      rfl
    have less : c < x := by
      have hc : c.toModel.unpack.isFinite = true := hc
      show decide (c.toModel < x.toModel) = true
      rw [decide_eq_true_iff]
      show (c.toModel.unpack.compare x.toModel.unpack == some .lt) = true
      rw [infinite]
      cases unpacked : c.toModel.unpack <;> rw [unpacked] at hc <;> first | rfl | cases hc
    rw [lesser, isNaN, number, if_neg Bool.false_ne_true, if_neg Bool.false_ne_true, if_pos less]
    exact ⟨hc, le, le_rfl⟩
  · have finite : x.isFinite = true := finite
    rw [lesser, isNaN_of_isFinite finite, number, if_neg Bool.false_ne_true,
      if_neg Bool.false_ne_true]
    split_ifs with less
    · exact ⟨hc, le, le_rfl⟩
    · rw [lt_iff hc finite, not_lt] at less
      exact ⟨finite, exact_eq x ▸ low, less⟩

/-! ## Sound policies -/

/-- **What the delays rely on.** -/
structure Sound (p : BackoffPolicy) : Prop where
  /-- The delay to begin with is not nothing. -/
  positive : 0 < p.baseDelay.nanos
  /-- The cap is not less than the delay to begin with. -/
  ordered : p.baseDelay.nanos ≤ p.maxDelay.nanos
  /-- The cap has less than `2 ^ 64` seconds. -/
  short : p.maxDelay.secs < 2 ^ 64
  /-- The factor is finite. -/
  isFinite_multiplier : p.multiplier.isFinite = true
  /-- The factor does not shrink the delay. -/
  one_le_multiplier : 1 ≤ exact p.multiplier
  /-- The share of the delay is finite. -/
  isFinite_jitter : p.jitter.isFinite = true
  /-- The share is not negative. -/
  jitter_nonneg : 0 ≤ exact p.jitter
  /-- The share is less than the whole. -/
  jitter_le : exact p.jitter ≤ 127 / 128

/-- **What chooses a place in the band**: a number between zero and one. -/
structure IsDraw (draw : Float) : Prop where
  /-- It is a finite number. -/
  isFinite : draw.isFinite = true
  /-- It is not less than zero. -/
  nonneg : 0 ≤ exact draw
  /-- It is not more than one. -/
  le_one : exact draw ≤ 1

/-- The comparison of doubles is enough. -/
theorem isDraw_of_between {draw : Float} (low : 0.0 ≤ draw) (high : draw < 1.0) : IsDraw draw := by
  have finite := isFinite_of_between isFinite_zero isFinite_one low high
  rw [lt_iff finite isFinite_one, exact_one_point_zero] at high
  exact ⟨finite, (zero_le_iff finite).1 low, high.le⟩

/-- **The delay of an attempt in seconds**, before it is made a span. -/
def seconds (p : BackoffPolicy) (attempt : ℕ) (draw : Float) : Float :=
  if p.jitter ≤ 0.0 || p.nominal attempt ≤ 0.0 then nonNegative (p.nominal attempt)
  else nonNegative
    ((p.band attempt).1 + draw * ((p.band attempt).2 - (p.band attempt).1))

theorem le_zero_iff {x : Float} (hx : x.isFinite = true) : x ≤ 0.0 ↔ exact x ≤ 0 := by
  rw [le_iff hx isFinite_zero, exact_zero_point_zero]

/-- What is not negative is left as it is. -/
theorem nonNegative_spec {x : Float} (hx : x.isFinite = true) (nonneg : 0 ≤ exact x) :
    (nonNegative x).isFinite = true ∧ exact (nonNegative x) = exact x := by
  rw [nonNegative]
  split_ifs with more
  · exact ⟨hx, rfl⟩
  · rw [gt_iff_lt, lt_iff isFinite_zero hx, exact_zero_point_zero, not_lt] at more
    exact ⟨isFinite_zero, exact_zero_point_zero.trans (le_antisymm nonneg more)⟩

namespace Sound

variable {p : BackoffPolicy} (h : p.Sound) (n : ℕ)

include h

theorem short_base : p.baseDelay.secs < 2 ^ 64 :=
  (Nat.div_le_div_right h.ordered).trans_lt h.short

/-- The cap in seconds. -/
theorem cap_spec : p.maxDelay.toSeconds.isFinite = true ∧
    2 ^ (-30 : ℤ) ≤ exact p.maxDelay.toSeconds ∧ exact p.maxDelay.toSeconds ≤ 2 ^ 65 := by
  have secs : (p.maxDelay.secs : ℚ) ≤ 2 ^ 64 - 1 := by
    rw [le_sub_iff_add_le]
    exact_mod_cast h.short
  have beyond : (p.maxDelay.subsec : ℚ) / 10 ^ 9 ≤ 1 := by
    rw [div_le_one (by norm_num)]
    exact_mod_cast p.maxDelay.subsec_lt.le
  have length : p.maxDelay.inSeconds ≤ 2 ^ 64 := by
    rw [Span.inSeconds_eq]
    linarith
  refine ⟨Span.isFinite_toSeconds h.short,
    Span.le_exact_toSeconds h.short (h.positive.trans_le h.ordered), ?_⟩
  calc exact p.maxDelay.toSeconds ≤ p.maxDelay.inSeconds * (1 + 1 / 2 ^ 51) :=
        Span.exact_toSeconds_le h.short
    _ ≤ 2 ^ 64 * (1 + 1 / 2 ^ 51) := mul_le_mul_of_nonneg_right length (by norm_num)
    _ ≤ 2 ^ 65 := by norm_num

/-- **The capped delay** is finite, more than nothing, and no more than the cap: also where the
power is infinite. -/
theorem nominal : (p.nominal n).isFinite = true ∧ 2 ^ (-30 : ℤ) ≤ exact (p.nominal n) ∧
    exact (p.nominal n) ≤ exact p.maxDelay.toSeconds := by
  obtain ⟨finite, low, -⟩ := h.cap_spec
  have base : AtLeast (2 ^ (-30 : ℤ)) p.baseDelay.toSeconds :=
    atLeast_of_le (Span.isFinite_toSeconds h.short_base)
      (Span.le_exact_toSeconds h.short_base h.positive)
  have one : AtLeast 1 1.0 := atLeast_of_le isFinite_one exact_one_point_zero.ge
  have power : AtLeast 1 (power p.multiplier (min n maxExponent)) :=
    atLeast_powerFrom _ _ _ one (atLeast_of_le h.isFinite_multiplier h.one_le_multiplier)
  exact lesser_spec
    (base.mul (two_zpow_pos _) (representable_two_zpow (by norm_num)) power) finite low

theorem nominal_le : exact (p.nominal n) ≤ 2 ^ 65 :=
  (h.nominal n).2.2.trans h.cap_spec.2.2

theorem nominal_nonneg : 0 ≤ exact (p.nominal n) :=
  (two_zpow_pos (-30)).le.trans (h.nominal n).2.1

/-- The error of anything that is no larger than `q`, which is no less than a capped delay. -/
theorem error {q x : ℚ} (le : exact (p.nominal n) ≤ q) (abs : |x| ≤ q) :
    |x - rounded x| ≤ q / 2 ^ 53 := by
  refine abs_sub_rounded_le_div ?_ abs
  calc (2 : ℚ) ^ (-1022 : ℤ) ≤ 2 ^ (-30 : ℤ) := two_zpow_le.2 (by norm_num)
    _ ≤ q := (h.nominal n).2.1.trans le

/-! ## The band -/

/-- The half-width of the band. -/
theorem spread : (p.nominal n * p.jitter).isFinite = true ∧
    0 ≤ exact (p.nominal n * p.jitter) ∧
    exact (p.nominal n * p.jitter) ≤ exact (p.nominal n) ∧
    exact (p.nominal n * p.jitter) ≤ exact (p.nominal n) * (exact p.jitter + 1 / 2 ^ 53) := by
  have nonneg := h.nominal_nonneg n
  have product := rounds_mul (h.nominal n).1 h.isFinite_jitter
  have low : 0 ≤ exact (p.nominal n) * exact p.jitter := mul_nonneg nonneg h.jitter_nonneg
  have high : exact (p.nominal n) * exact p.jitter ≤ exact (p.nominal n) :=
    mul_le_of_le_one_right nonneg (h.jitter_le.trans (by norm_num))
  have finite := product.isFinite (k := 65)
    (by rw [abs_of_nonneg low]; exact_mod_cast high.trans (h.nominal_le n)) (by norm_num)
    (by norm_num)
  have error := h.error n le_rfl (by rwa [abs_of_nonneg low])
  rw [product.exact_eq finite]
  refine ⟨finite, rounded_nonneg low, rounded_le (representable_exact _) high, ?_⟩
  linarith [(abs_le.1 error).1]

/-- **The band is not empty**, and it is finite. Its lower end is not negative, and its upper
end not far from the share of the delay that is added to it. -/
theorem band : (p.band n).1.isFinite = true ∧ (p.band n).2.isFinite = true ∧
    0 ≤ exact (p.band n).1 ∧ exact (p.band n).1 ≤ exact (p.nominal n) ∧
    exact (p.nominal n) ≤ exact (p.band n).2 ∧
    exact (p.band n).2 ≤ exact (p.nominal n) * (1 + exact p.jitter + 1 / 2 ^ 53)
      * (1 + 1 / 2 ^ 53) := by
  obtain ⟨finite, nonneg, le, share⟩ := h.spread n
  have bound := h.nominal_le n
  have low := rounds_sub (h.nominal n).1 finite
  have high := rounds_add (h.nominal n).1 finite
  have lower := low.isFinite (k := 65)
    (by rw [abs_of_nonneg (by linarith)]; norm_num; linarith) (by norm_num) (by norm_num)
  have upper := high.isFinite (k := 66)
    (by rw [abs_of_nonneg (by linarith)]; norm_num; linarith) (by norm_num) (by norm_num)
  have small : exact (p.nominal n - p.nominal n * p.jitter) ≤ exact (p.nominal n) := by
    rw [low.exact_eq lower]
    exact rounded_le (representable_exact _) (by linarith)
  have large : exact (p.nominal n) ≤ exact (p.nominal n + p.nominal n * p.jitter) := by
    rw [high.exact_eq upper, ← rounded_of_representable (representable_exact (p.nominal n))]
    exact rounded_mono (by rw [rounded_of_representable (representable_exact _)]; linarith)
  refine ⟨lower, upper, ?_, small, large, ?_⟩
  · show 0 ≤ exact (p.nominal n - p.nominal n * p.jitter)
    rw [low.exact_eq lower]
    exact rounded_nonneg (by linarith)
  · show exact (p.nominal n + p.nominal n * p.jitter) ≤ _
    have sum : exact (p.nominal n) + exact (p.nominal n * p.jitter)
        ≤ exact (p.nominal n) * (1 + exact p.jitter + 1 / 2 ^ 53) := by linarith
    have error := h.error n (by linarith) ((abs_of_nonneg (by linarith)).trans_le sum)
    rw [high.exact_eq upper]
    linarith [(abs_le.1 error).1]

/-- The upper end of the band. -/
theorem upper_le : exact (p.band n).2 ≤ 2 ^ 67 := by
  obtain ⟨-, -, -, -, -, high⟩ := h.band n
  have bound := h.nominal_le n
  have nonneg := h.nominal_nonneg n
  have share := h.jitter_le
  calc exact (p.band n).2
      ≤ exact (p.nominal n) * (1 + exact p.jitter + 1 / 2 ^ 53) * (1 + 1 / 2 ^ 53) := high
    _ = exact (p.nominal n) * ((1 + exact p.jitter + 1 / 2 ^ 53) * (1 + 1 / 2 ^ 53)) :=
      mul_assoc ..
    _ ≤ exact (p.nominal n) * 4 := mul_le_mul_of_nonneg_left (by norm_num; linarith) nonneg
    _ ≤ 2 ^ 67 := by linarith

/-- **The width of the band.** The lower end and the width may add up to a little more than the
upper end. -/
theorem width : ((p.band n).2 - (p.band n).1).isFinite = true ∧
    0 ≤ exact ((p.band n).2 - (p.band n).1) ∧
    exact (p.band n).1 + exact ((p.band n).2 - (p.band n).1)
      ≤ exact (p.band n).2 * (1 + 1 / 2 ^ 53) := by
  obtain ⟨lower, upper, nonneg, small, large, high⟩ := h.band n
  have bound := h.upper_le n
  have difference := rounds_sub upper lower
  have abs : |exact (p.band n).2 - exact (p.band n).1| ≤ exact (p.band n).2 := by
    rw [abs_of_nonneg (by linarith)]
    linarith
  have finite := difference.isFinite (k := 67) (by norm_num; linarith) (by norm_num) (by norm_num)
  have error := h.error n large abs
  rw [difference.exact_eq finite]
  exact ⟨finite, rounded_nonneg (by linarith), by linarith [(abs_le.1 error).1]⟩

/-! ## The delay in seconds -/

/-- **A place in the band** is finite and not negative, and exceeds the upper end by no more
than two roundings. -/
theorem place {draw : Float} (d : IsDraw draw) :
    ((p.band n).1 + draw * ((p.band n).2 - (p.band n).1)).isFinite = true ∧
      0 ≤ exact ((p.band n).1 + draw * ((p.band n).2 - (p.band n).1)) ∧
      exact ((p.band n).1 + draw * ((p.band n).2 - (p.band n).1))
        ≤ exact (p.band n).2 * (1 + 1 / 2 ^ 53) * (1 + 1 / 2 ^ 53) := by
  obtain ⟨lower, upper, nonneg, small, large, -⟩ := h.band n
  obtain ⟨finite, wide, sum⟩ := h.width n
  have bound := h.upper_le n
  have positive := h.nominal_nonneg n
  have product := rounds_mul d.isFinite finite
  have low := mul_nonneg d.nonneg wide
  have high := mul_le_of_le_one_left wide d.le_one
  have finite' := product.isFinite (k := 68)
    (by rw [abs_of_nonneg low]; norm_num; linarith) (by norm_num) (by norm_num)
  have part : 0 ≤ exact (draw * ((p.band n).2 - (p.band n).1)) := by
    rw [product.exact_eq finite']
    exact rounded_nonneg low
  have part' : exact (draw * ((p.band n).2 - (p.band n).1))
      ≤ exact ((p.band n).2 - (p.band n).1) := by
    rw [product.exact_eq finite']
    exact rounded_le (representable_exact _) high
  have total := rounds_add lower finite'
  have abs : |exact (p.band n).1 + exact (draw * ((p.band n).2 - (p.band n).1))|
      ≤ exact (p.band n).2 * (1 + 1 / 2 ^ 53) := by
    rw [abs_of_nonneg (by linarith)]
    linarith
  have finite'' := total.isFinite (k := 68) (by norm_num at abs ⊢; linarith) (by norm_num)
    (by norm_num)
  have error := h.error n (by linarith) abs
  rw [total.exact_eq finite'']
  exact ⟨finite'', rounded_nonneg (by linarith), by linarith [(abs_le.1 error).1, (abs_le.1 abs).2]⟩

/-- **There is a delay in seconds**: it is finite and not negative. -/
theorem seconds {draw : Float} (d : IsDraw draw) :
    (p.seconds n draw).isFinite = true ∧ 0 ≤ exact (p.seconds n draw) := by
  rw [BackoffPolicy.seconds]
  split_ifs
  · have spec := nonNegative_spec (h.nominal n).1 (h.nominal_nonneg n)
    exact ⟨spec.1, spec.2 ▸ h.nominal_nonneg n⟩
  · obtain ⟨finite, nonneg, -⟩ := h.place n d
    have spec := nonNegative_spec finite nonneg
    exact ⟨spec.1, spec.2 ▸ nonneg⟩

/-- Without a spread the delay is the capped one. -/
theorem seconds_of_jitter (none : exact p.jitter = 0) (draw : Float) :
    exact (p.seconds n draw) = exact (p.nominal n) := by
  have flat : p.jitter ≤ 0.0 := (le_zero_iff h.isFinite_jitter).2 none.le
  rw [BackoffPolicy.seconds, if_pos (by rw [decide_eq_true flat, Bool.true_or])]
  exact (nonNegative_spec (h.nominal n).1 (h.nominal_nonneg n)).2

/-- **By how much a delay exceeds the capped one**: by the share of it, and by what four
roundings make. -/
theorem seconds_le {draw : Float} (d : IsDraw draw) :
    exact (p.seconds n draw)
      ≤ exact (p.nominal n) * ((1 + exact p.jitter) * (1 + 1 / 2 ^ 50)) := by
  have nonneg := h.nominal_nonneg n
  have share : 1 ≤ 1 + exact p.jitter := le_add_of_nonneg_right h.jitter_nonneg
  rw [BackoffPolicy.seconds]
  split_ifs
  · rw [(nonNegative_spec (h.nominal n).1 nonneg).2]
    exact le_mul_of_one_le_right nonneg (one_le_mul_of_one_le_of_one_le share (by norm_num))
  · obtain ⟨finite, low, high⟩ := h.place n d
    obtain ⟨-, -, -, -, -, upper⟩ := h.band n
    rw [(nonNegative_spec finite low).2]
    calc _ ≤ exact (p.band n).2 * (1 + 1 / 2 ^ 53) * (1 + 1 / 2 ^ 53) := high
      _ ≤ exact (p.nominal n) * (1 + exact p.jitter + 1 / 2 ^ 53) * (1 + 1 / 2 ^ 53)
          * (1 + 1 / 2 ^ 53) * (1 + 1 / 2 ^ 53) := by
        refine mul_le_mul_of_nonneg_right ?_ (by norm_num)
        exact mul_le_mul_of_nonneg_right upper (by norm_num)
      _ = exact (p.nominal n) * ((1 + exact p.jitter + 1 / 2 ^ 53) * (1 + 1 / 2 ^ 53) ^ 3) := by
        ring
      _ ≤ exact (p.nominal n) * ((1 + exact p.jitter) * (1 + 1 / 2 ^ 50)) := by
        refine mul_le_mul_of_nonneg_left ?_ nonneg
        norm_num
        linarith

/-- The bound in terms of the cap as it was set. -/
theorem seconds_le_cap {draw : Float} (d : IsDraw draw) :
    exact (p.seconds n draw)
      ≤ p.maxDelay.inSeconds * ((1 + exact p.jitter) * (1 + 1 / 2 ^ 49)) := by
  have share : 0 ≤ 1 + exact p.jitter := add_nonneg zero_le_one h.jitter_nonneg
  have capped : exact (p.nominal n) ≤ p.maxDelay.inSeconds * (1 + 1 / 2 ^ 51) :=
    (h.nominal n).2.2.trans (Span.exact_toSeconds_le h.short)
  calc exact (p.seconds n draw)
      ≤ exact (p.nominal n) * ((1 + exact p.jitter) * (1 + 1 / 2 ^ 50)) := h.seconds_le n d
    _ ≤ p.maxDelay.inSeconds * (1 + 1 / 2 ^ 51) * ((1 + exact p.jitter) * (1 + 1 / 2 ^ 50)) :=
      mul_le_mul_of_nonneg_right capped (mul_nonneg share (by norm_num))
    _ = p.maxDelay.inSeconds
        * ((1 + exact p.jitter) * ((1 + 1 / 2 ^ 51) * (1 + 1 / 2 ^ 50))) := by ring
    _ ≤ p.maxDelay.inSeconds * ((1 + exact p.jitter) * (1 + 1 / 2 ^ 49)) :=
      mul_le_mul_of_nonneg_left (mul_le_mul_of_nonneg_left (by norm_num) share)
        p.maxDelay.inSeconds_nonneg

/-- **The delay is the span of its seconds**: neither is the band empty, nor is it infinite. -/
theorem delay?_eq {draw : Float} (d : IsDraw draw) :
    p.delay? n draw
      = if exact (p.seconds n draw) < 2 ^ 64
        then some ⟨(halfEven (exact (p.seconds n draw) * 10 ^ 9)).toNat⟩ else none := by
  obtain ⟨lower, upper, -, small, large, -⟩ := h.band n
  have ordered : (p.band n).1 ≤ (p.band n).2 := (le_iff lower upper).2 (small.trans large)
  have finite : isFiniteNumber ((p.band n).2 - (p.band n).1) = true := by
    obtain ⟨negative, m, e, read⟩ := (Double.isFinite_iff _).1 (h.width n).1
    rw [isFiniteNumber, read]
  obtain ⟨finite', nonneg⟩ := h.seconds n d
  rw [← Span.ofSeconds?_eq finite' nonneg, delay?, BackoffPolicy.seconds]
  simp only [decide_eq_true ordered, finite, Bool.and_self, if_true]
  split_ifs <;> rfl

end Sound

end BackoffPolicy

/-! ## Use -/

/-- **What is done with a policy in use.** -/
inductive BackoffCall where
  /-- A delay is asked for. -/
  | next (draw : Float)
  /-- There was a success. -/
  | reset

namespace BackoffCall

/-- The delays asked for since the last success. -/
def sinceReset (calls : List BackoffCall) : ℕ :=
  calls.foldl (fun n call => match call with | .next _ => n + 1 | .reset => 0) 0

/-- **The attempt that the next delay is for**: the delays since the last success are counted,
up to a limit. -/
def attempt (calls : List BackoffCall) : ℕ :=
  min (sinceReset calls) Backoff.maxAttempt

end BackoffCall

namespace Backoff

/-- The state after a call. -/
def after (b : Backoff) : BackoffCall → Backoff
  | .next draw => (b.next draw).2
  | .reset => b.reset

/-- **The state after some calls.** -/
def run (b : Backoff) (calls : List BackoffCall) : Backoff :=
  calls.foldl after b

theorem policy_after (b : Backoff) (call : BackoffCall) : (b.after call).policy = b.policy := by
  cases call <;> rfl

/-- The policy stays. -/
theorem policy_run (b : Backoff) (calls : List BackoffCall) :
    (b.run calls).policy = b.policy := by
  induction calls generalizing b with
  | nil => rfl
  | cons call rest ih => exact (ih (b.after call)).trans (b.policy_after call)

/-- **The attempts are counted** from the last success on. -/
theorem attempt_run (p : BackoffPolicy) (calls : List BackoffCall) :
    ((ofPolicy p).run calls).attempt = BackoffCall.attempt calls := by
  have counted : ∀ (b : Backoff) (n : ℕ), b.attempt = min n maxAttempt →
      (b.run calls).attempt = min
        (calls.foldl (fun n call => match call with | .next _ => n + 1 | .reset => 0) n)
        maxAttempt := by
    induction calls with
    | nil => exact fun b n eq => eq
    | cons call rest ih =>
      intro b n eq
      refine ih (b.after call) _ ?_
      cases call with
      | next draw =>
        show min (b.attempt + 1) maxAttempt = min (n + 1) maxAttempt
        omega
      | reset => rfl
  exact counted (ofPolicy p) 0 rfl

/-- **The next delay after some calls** is that of the attempt. -/
theorem next_run (p : BackoffPolicy) (calls : List BackoffCall) (draw : Float) :
    (((ofPolicy p).run calls).next draw).1 = p.delay? (BackoffCall.attempt calls) draw := by
  rw [next, policy_run, attempt_run]
  rfl

end Backoff

end Liveboard
