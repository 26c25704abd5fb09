import Liveboard.Proofs.Decimal.Order
import Liveboard.Proofs.Wire.Number
import Liveboard.Timing.SpanText

/-!
# Spans and seconds

A span is a whole number of nanoseconds, and delays are computed in doubles of seconds. So a
span is rounded three times on its way there, for its seconds, for the part beyond, and for
the sum of both, and the result is rounded once more on its way back. The first three move
it by no more than one part in `2 ^ 51` (`Span.exact_toSeconds_le`, `Span.le_exact_toSeconds`).
If it is shorter than `2 ^ 23` seconds, that is less than half a nanosecond, and the span comes
back as it was (`Span.halfEven_toSeconds`); a longer one need not.

On the way back there is an end: a double of `2 ^ 64` or more makes no span
(`Span.ofSeconds?_eq`). A span that was read from a text is shorter than that
(`SpanText.secs_lt_of_parse`), but the double that it makes may still reach it.
-/

namespace Liveboard

open Rounding Double

/-! ## Fractions -/

/-- Halves go to the even neighbour. -/
theorem Ratio.roundHalfEven_eq {r : Ratio} (pos : 0 < r.den) :
    (r.roundHalfEven : ℤ) = halfEven r.value := by
  have den : (0 : ℚ) < r.den := by exact_mod_cast pos
  have floor : ⌊r.value⌋ = ((r.num / r.den : ℕ) : ℤ) := by
    rw [value, Rat.floor_natCast_div_natCast]
    rfl
  have fract : Int.fract r.value = (r.num % r.den : ℕ) / r.den := by
    have sum : (r.den * (r.num / r.den : ℕ) + (r.num % r.den : ℕ) : ℚ) = r.num := by
      exact_mod_cast Nat.div_add_mod r.num r.den
    rw [Int.fract, floor, value, ← sum, Int.cast_natCast]
    field_simp
    ring
  have small : Int.fract r.value < 1 / 2 ↔ 2 * (r.num % r.den) < r.den := by
    rw [fract, div_lt_div_iff₀ den two_pos, one_mul, mul_comm]
    exact_mod_cast Iff.rfl
  have large : 1 / 2 < Int.fract r.value ↔ r.den < 2 * (r.num % r.den) := by
    rw [fract, div_lt_div_iff₀ two_pos den, one_mul, mul_comm]
    exact_mod_cast Iff.rfl
  unfold roundHalfEven halfEven
  simp only [small, large, floor]
  split_ifs <;> push_cast <;> rfl

namespace Span

/-! ## From doubles -/

variable {x : Float} {s : Span}

/-- **The span of a double**: the nearest whole number of nanoseconds, if there is a span that
long. -/
theorem ofSeconds?_eq (hx : x.isFinite = true) (nonneg : 0 ≤ exact x) :
    ofSeconds? x
      = if exact x < 2 ^ 64 then some ⟨(halfEven (exact x * 10 ^ 9)).toNat⟩ else none := by
  obtain ⟨negative, m, e, read⟩ := (Double.isFinite_iff x).1 hx
  have worth : (Ratio.ofBinary m e).value = m * 2 ^ e := Ratio.value_ofBinary m e
  have power := two_zpow_pos e
  have den := Ratio.den_ofBinary_pos m e
  have den' : (0 : ℚ) < (Ratio.ofBinary m e).den := by exact_mod_cast den
  have shape : exact x = (if negative then -1 else 1) * (m * 2 ^ e) := by
    rw [exact, read, Binary.value]
  have sign : ¬(negative = true ∧ m ≠ 0) := by
    rintro ⟨rfl, some⟩
    have : (0 : ℚ) < m * 2 ^ e := mul_pos (by exact_mod_cast Nat.pos_of_ne_zero some) power
    rw [shape, if_pos rfl] at nonneg
    linarith
  have same : exact x = (Ratio.ofBinary m e).value := by
    rw [shape, worth]
    cases negative with
    | false => rw [if_neg Bool.false_ne_true, one_mul]
    | true =>
      obtain rfl : m = 0 := not_not.1 fun some => sign ⟨rfl, some⟩
      rw [Nat.cast_zero, zero_mul, mul_zero]
  have long : 2 ^ 64 * (Ratio.ofBinary m e).den ≤ (Ratio.ofBinary m e).num ↔ ¬exact x < 2 ^ 64 := by
    rw [same, Ratio.value, div_lt_iff₀ den', not_lt]
    exact_mod_cast Iff.rfl
  have nearest : (⟨(Ratio.ofBinary m e).num * perSecond, (Ratio.ofBinary m e).den⟩
      : Ratio).roundHalfEven = (halfEven (exact x * 10 ^ 9)).toNat := by
    have whole := Ratio.roundHalfEven_eq
      (r := ⟨(Ratio.ofBinary m e).num * perSecond, (Ratio.ofBinary m e).den⟩) den
    have scaled : exact x * 10 ^ 9
        = Ratio.value ⟨(Ratio.ofBinary m e).num * perSecond, (Ratio.ofBinary m e).den⟩ := by
      rw [same, Ratio.value, Ratio.value, div_mul_eq_mul_div, perSecond]
      push_cast
      rfl
    rw [scaled, ← whole, Int.toNat_natCast]
  rw [ofSeconds?, read]
  simp only [if_neg sign, long, nearest]
  split_ifs <;> rfl

/-! ## To doubles -/

/-- The length of a span in seconds. -/
def inSeconds (s : Span) : ℚ :=
  s.nanos / 10 ^ 9

theorem inSeconds_eq (s : Span) : s.inSeconds = s.secs + s.subsec / 10 ^ 9 := by
  have sum : (s.secs * 10 ^ 9 + s.subsec : ℚ) = s.nanos := by
    have := s.secs_mul_add_subsec
    rw [perSecond] at this
    exact_mod_cast this
  rw [inSeconds, ← sum]
  ring

theorem inSeconds_nonneg (s : Span) : 0 ≤ s.inSeconds :=
  div_nonneg (Nat.cast_nonneg _) (by norm_num)

theorem subsec_lt (s : Span) : s.subsec < 10 ^ 9 :=
  Nat.mod_lt _ (by norm_num [perSecond])

theorem exact_perSecond : exact perSecond.toUInt64.toFloat = 10 ^ 9 := by
  rw [exact_toFloat, show perSecond.toUInt64.toNat = 10 ^ 9 by decide,
    rounded_of_representable (representable_natCast (by norm_num))]
  norm_num

/-- The part of a span beyond the whole seconds, rounded. -/
def rest (s : Span) : ℚ :=
  rounded (s.subsec / 10 ^ 9)

theorem rest_nonneg (s : Span) : 0 ≤ s.rest :=
  rounded_nonneg (div_nonneg (Nat.cast_nonneg _) (by norm_num))

theorem rest_le (s : Span) : s.rest ≤ 1 - 2 ^ (-30 : ℤ) := by
  refine rounded_le ⟨2 ^ 30 - 1, -30, by norm_num, by norm_num, by norm_num⟩ ?_
  have whole : (s.subsec : ℚ) ≤ 10 ^ 9 - 1 := by
    have := s.subsec_lt
    rw [le_sub_iff_add_le]
    exact_mod_cast this
  rw [div_le_iff₀ (by norm_num)]
  norm_num
  linarith

theorem rounds_rest (s : Span) :
    (s.subsec.toUInt64.toFloat / perSecond.toUInt64.toFloat).isFinite = true ∧
      exact (s.subsec.toUInt64.toFloat / perSecond.toUInt64.toFloat) = s.rest := by
  have word : s.subsec.toUInt64.toNat = s.subsec := by
    have := s.subsec_lt
    show s.subsec % 2 ^ 64 = s.subsec
    omega
  have quotient := rounds_div (isFinite_toFloat s.subsec.toUInt64)
    (isFinite_toFloat perSecond.toUInt64) (by rw [exact_perSecond]; norm_num)
  rw [exact_perSecond, exact_toFloat, word, rounded_of_representable
    (representable_natCast (s.subsec_lt.trans (by norm_num)))] at quotient
  have finite : (s.subsec.toUInt64.toFloat / perSecond.toUInt64.toFloat).isFinite = true := by
    rw [quotient.isFinite_iff, ← rest, abs_of_nonneg s.rest_nonneg]
    exact lt_limit (k := 0) (s.rest_le.trans (by norm_num)) (by norm_num)
  exact ⟨finite, quotient.exact_eq finite⟩

/-- The seconds of a span, rounded. -/
theorem rounded_secs_le (short : s.secs < 2 ^ 64) : rounded s.secs ≤ 2 ^ 64 := by
  have power := representable_two_zpow (k := 64) (by norm_num)
  exact_mod_cast rounded_le power (by exact_mod_cast short.le)

theorem rounds_toSeconds (short : s.secs < 2 ^ 64) :
    s.toSeconds.isFinite = true ∧ exact s.toSeconds = rounded (rounded s.secs + s.rest) := by
  have word : s.secs.toUInt64.toNat = s.secs := by
    show s.secs % 2 ^ 64 = s.secs
    omega
  have sum := rounds_add (isFinite_toFloat s.secs.toUInt64) s.rounds_rest.1
  rw [exact_toFloat, word, s.rounds_rest.2] at sum
  have nonneg : 0 ≤ rounded (s.secs : ℚ) + s.rest :=
    add_nonneg (rounded_nonneg (Nat.cast_nonneg _)) s.rest_nonneg
  have finite : s.toSeconds.isFinite = true := by
    rw [toSeconds, sum.isFinite_iff, abs_of_nonneg (rounded_nonneg nonneg)]
    have power := representable_two_zpow (k := 65) (by norm_num)
    have bound : rounded (s.secs : ℚ) + s.rest ≤ 2 ^ (65 : ℤ) := by
      have seconds := rounded_secs_le short
      have rest := s.rest_le
      norm_num at seconds rest ⊢
      linarith
    exact lt_limit (rounded_le power bound) (by norm_num)
  exact ⟨finite, sum.exact_eq finite⟩

theorem isFinite_toSeconds (short : s.secs < 2 ^ 64) : s.toSeconds.isFinite = true :=
  (rounds_toSeconds short).1

theorem exact_toSeconds (short : s.secs < 2 ^ 64) :
    exact s.toSeconds = rounded (rounded s.secs + s.rest) :=
  (rounds_toSeconds short).2

/-- **A span that is not nothing** is no less than a nanosecond as a double either. -/
theorem le_exact_toSeconds (short : s.secs < 2 ^ 64) (some : 0 < s.nanos) :
    2 ^ (-30 : ℤ) ≤ exact s.toSeconds := by
  have power := rounded_of_representable (representable_two_zpow (k := -30) (by norm_num))
  have parts : 2 ^ (-30 : ℤ) ≤ rounded (s.secs : ℚ) + s.rest := by
    rcases Nat.eq_zero_or_pos s.secs with none | whole
    · have beyond : 1 ≤ s.subsec := by
        have := s.secs_mul_add_subsec
        rw [none] at this
        omega
      have nano : (2 : ℚ) ^ (-30 : ℤ) ≤ s.subsec / 10 ^ 9 := by
        have : (1 : ℚ) ≤ s.subsec := by exact_mod_cast beyond
        rw [le_div_iff₀ (by norm_num)]
        refine le_trans ?_ this
        norm_num
      have rest : 2 ^ (-30 : ℤ) ≤ s.rest := power ▸ rounded_mono nano
      linarith [rounded_nonneg (x := (s.secs : ℚ)) (Nat.cast_nonneg _)]
    · have one : 1 ≤ rounded (s.secs : ℚ) := one_le_rounded (by exact_mod_cast whole)
      have small : (2 : ℚ) ^ (-30 : ℤ) ≤ 1 := by norm_num
      linarith [s.rest_nonneg]
  rw [exact_toSeconds short, ← power]
  exact rounded_mono parts

/-- **The error of three roundings.** -/
theorem exact_toSeconds_le (short : s.secs < 2 ^ 64) :
    exact s.toSeconds ≤ s.inSeconds * (1 + 1 / 2 ^ 51) := by
  rcases Nat.eq_zero_or_pos s.nanos with none | some
  · have secs : s.secs = 0 := by rw [secs, none, Nat.zero_div]
    have rest : s.rest = 0 := by rw [rest, subsec, none, Nat.zero_mod]; simp
    rw [exact_toSeconds short, secs, rest, inSeconds, none]
    simp
  have beyond : 0 ≤ (s.subsec : ℚ) / 10 ^ 9 := div_nonneg (Nat.cast_nonneg _) (by norm_num)
  have whole : (0 : ℚ) ≤ s.secs := Nat.cast_nonneg _
  have sum := s.inSeconds_eq
  have normal : (2 : ℚ) ^ (-1022 : ℤ) ≤ s.inSeconds := by
    have : (1 : ℚ) ≤ s.nanos := by exact_mod_cast some
    calc (2 : ℚ) ^ (-1022 : ℤ) ≤ 2 ^ (-30 : ℤ) := two_zpow_le.2 (by norm_num)
      _ ≤ 1 / 10 ^ 9 := by norm_num
      _ ≤ s.inSeconds := div_le_div_of_nonneg_right this (by norm_num)
  have first := abs_sub_rounded_le_div normal (x := s.secs) (by rw [abs_of_nonneg whole]; linarith)
  have second := abs_sub_rounded_le_div normal (x := s.subsec / 10 ^ 9)
    (by rw [abs_of_nonneg beyond]; linarith)
  rw [← rest] at second
  have parts : rounded (s.secs : ℚ) + s.rest ≤ s.inSeconds * (1 + 2 / 2 ^ 53) := by
    linarith [(abs_le.1 first).1, (abs_le.1 second).1]
  have nonneg : 0 ≤ rounded (s.secs : ℚ) + s.rest :=
    add_nonneg (rounded_nonneg whole) s.rest_nonneg
  have third := abs_sub_rounded_le_div (y := s.inSeconds * (1 + 2 / 2 ^ 53))
    (normal.trans (le_mul_of_one_le_right s.inSeconds_nonneg (by norm_num)))
    (by rwa [abs_of_nonneg nonneg])
  rw [exact_toSeconds short]
  calc rounded (rounded (s.secs : ℚ) + s.rest)
      ≤ s.inSeconds * (1 + 2 / 2 ^ 53) * (1 + 1 / 2 ^ 53) := by
        linarith [(abs_le.1 third).1]
    _ = s.inSeconds * ((1 + 2 / 2 ^ 53) * (1 + 1 / 2 ^ 53)) := mul_assoc ..
    _ ≤ s.inSeconds * (1 + 1 / 2 ^ 51) :=
      mul_le_mul_of_nonneg_left (by norm_num) s.inSeconds_nonneg

/-- **A short span comes back**: it is moved by less than half a nanosecond. -/
theorem halfEven_toSeconds (short : s.secs < 2 ^ 23) :
    halfEven (exact s.toSeconds * 10 ^ 9) = s.nanos := by
  have whole : (0 : ℚ) ≤ s.secs := Nat.cast_nonneg _
  have secs : rounded (s.secs : ℚ) = s.secs :=
    rounded_of_representable (representable_natCast (short.trans (by norm_num)))
  have beyond : |(s.subsec : ℚ) / 10 ^ 9| ≤ 1 := by
    have : (s.subsec : ℚ) ≤ 10 ^ 9 := by exact_mod_cast s.subsec_lt.le
    rw [abs_of_nonneg (div_nonneg (Nat.cast_nonneg _) (by norm_num)), div_le_one (by norm_num)]
    exact this
  have normal : (2 : ℚ) ^ (-1022 : ℤ) ≤ 1 := by
    simpa using two_zpow_le.2 (show (-1022 : ℤ) ≤ 0 by norm_num)
  have first := abs_sub_rounded_le_div normal beyond
  rw [← rest] at first
  have second : |(s.secs : ℚ) + s.rest - rounded (s.secs + s.rest)| ≤ 2 ^ (-30 : ℤ) / 2 := by
    refine (abs_sub_rounded_le_grid _).trans ?_
    have fine : grid (s.secs + s.rest) ≤ -30 := by
      by_cases zero : (s.secs : ℚ) + s.rest = 0
      · rw [zero, grid, abs_zero, Int.log_zero_right]
        norm_num
      refine grid_le_of_abs_lt zero (by norm_num) ?_
      have bound : (s.secs : ℚ) ≤ 2 ^ 23 - 1 := by
        rw [le_sub_iff_add_le]
        exact_mod_cast short
      have width := two_zpow_pos (-30)
      rw [abs_of_nonneg (add_nonneg whole s.rest_nonneg),
        show (2 : ℚ) ^ ((-30 : ℤ) + 53) = 2 ^ 23 by norm_num]
      linarith [s.rest_le]
    exact div_le_div_of_nonneg_right (two_zpow_le.2 fine) two_pos.le
  have length : (s.nanos : ℚ) = (s.secs + s.subsec / 10 ^ 9) * 10 ^ 9 := by
    rw [← inSeconds_eq, inSeconds, div_mul_cancel₀ _ (by norm_num)]
  refine halfEven_eq ?_
  rw [exact_toSeconds (short.trans (by norm_num)), secs, Int.cast_natCast, length, ← sub_mul,
    abs_mul, abs_of_pos (by norm_num : (0 : ℚ) < 10 ^ 9)]
  have apart : |rounded ((s.secs : ℚ) + s.rest) - (s.secs + s.subsec / 10 ^ 9)|
      ≤ 1 / 2 ^ 53 + 2 ^ (-30 : ℤ) / 2 := by
    rw [abs_le] at first second ⊢
    constructor <;> linarith [first.1, first.2, second.1, second.2]
  calc _ ≤ ((1 : ℚ) / 2 ^ 53 + 2 ^ (-30 : ℤ) / 2) * 10 ^ 9 :=
        mul_le_mul_of_nonneg_right apart (by norm_num)
    _ < 1 / 2 := by norm_num

end Span

/-! ## Texts -/

namespace SpanText

/-- A part is added only if the total stays below the limit. -/
theorem total_addPart {total value total' : ℕ} {fraction : Option Fraction} {letters : List Char}
    (added : addPart total value fraction letters = .ok total') : total' / 10 ^ 9 < limit := by
  rw [addPart] at added
  cases part : amount value fraction letters with
  | error => rw [part] at added; cases added
  | ok n =>
    rw [part] at added
    simp only [bind, Except.bind] at added
    split at added
    · cases added
      assumption
    · cases added

variable {place total total' : ℕ} {reading reading' : Reading} {c : Char}

/-- **One character** keeps the total below the limit: it completes a part, or leaves the total
as it is. -/
theorem total_step (below : total / 10 ^ 9 < limit)
    (stepped : step place c total reading = .ok (total', reading')) : total' / 10 ^ 9 < limit := by
  have same : ∀ {r r' : Reading}, (Except.ok (total, r) : Except Complaint _) = .ok (total', r') →
      total' / 10 ^ 9 < limit := by
    rintro r r' ⟨⟩
    exact below
  cases reading with
  | gap first =>
    rw [step] at stepped
    split_ifs at stepped <;> exact same stepped
  | whole value =>
    rw [step] at stepped
    split_ifs at stepped
    · cases number : bounded (value * 10 + digit c) <;> rw [number] at stepped
      · cases stepped
      · exact same stepped
    all_goals exact same stepped
  | fraction value f fault =>
    simp only [step] at stepped
    split_ifs at stepped
    · cases denominator : bounded (f.denominator * 10) <;> rw [denominator] at stepped
      · cases stepped
      cases numerator : bounded (f.numerator * 10 + digit c) <;> rw [numerator] at stepped
      · cases stepped
      · exact same stepped
    all_goals exact same stepped
  | unit value f letters =>
    rw [step] at stepped
    split_ifs at stepped
    · exact same stepped
    all_goals
      cases added : addPart total value f letters <;> rw [added] at stepped
      · cases stepped
      · cases stepped
        exact total_addPart added

theorem total_finish (below : total / 10 ^ 9 < limit) (done : finish total reading = .ok total') :
    total' / 10 ^ 9 < limit := by
  cases reading with
  | gap first =>
    rw [finish] at done
    split_ifs at done
    cases done
    exact below
  | whole => exact total_addPart done
  | fraction =>
    rw [finish] at done
    split_ifs at done
    exact total_addPart done
  | unit => exact total_addPart done

/-- **The whole text** keeps the total below the limit. -/
theorem total_run (cs : List Char) (below : total / 10 ^ 9 < limit)
    (done : run place total reading cs = .ok total') : total' / 10 ^ 9 < limit := by
  induction cs generalizing place total reading with
  | nil => exact total_finish below done
  | cons c rest ih =>
    rw [run] at done
    cases stepped : step place c total reading with
    | error => rw [stepped] at done; cases done
    | ok after =>
      rw [stepped] at done
      exact ih (total_step below stepped) done

/-- **A text stands for less than `2 ^ 64` seconds.** -/
theorem secs_lt_of_parse {text : String} {s : Span} (parsed : parse text = .ok s) :
    s.secs < 2 ^ 64 := by
  rw [parse] at parsed
  split_ifs at parsed
  · cases parsed
    decide
  · cases total : run 0 0 (.gap true) text.toList with
    | error => rw [total] at parsed; cases parsed
    | ok nanos =>
      rw [total] at parsed
      cases parsed
      exact total_run _ (by decide) total

end SpanText

end Liveboard
