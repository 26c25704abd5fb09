import Liveboard.Proofs.Settings.Rules
import Liveboard.Proofs.Timing.Delays

/-!
# Delays under valid settings

What the rules ask of the way to reconnect is what the delays rely on: both texts
stand for spans, the cap is not less than the first delay, the factor is finite and
does not shrink, and the deviation is a share of the delay. So a policy can be made
from valid settings (`ClientSettings.exists_policy`), and there is a delay in
seconds for every attempt.

Two things do not follow. The cap is applied before the delay is spread, and the
spread is laid around what is capped; a delay may exceed the cap by the share that
it deviates (`ClientSettings.delays_bounded`). And the cap is a span of up to
`2 ^ 64` seconds, but the delay is computed in doubles, of which the ones near the
end are thousands of seconds apart. With or without a spread, it may reach `2 ^ 64`
seconds, and then there is no delay at all (`ClientSettings.delays_exist`).
-/

namespace Liveboard

open Rounding Double

/-! ## The policy -/

namespace ReconnectSettings

/-- A good factor is taken as it is, or as one. -/
theorem atLeastOne_spec {x : Float} (hx : x.isFinite = true) :
    (atLeastOne x).isFinite = true ∧ 1 ≤ exact (atLeastOne x) := by
  rw [atLeastOne]
  split_ifs with more
  · rw [gt_iff_lt, lt_iff isFinite_one hx, exact_one_point_zero] at more
    exact ⟨hx, more.le⟩
  · exact ⟨isFinite_one, exact_one_point_zero.ge⟩

theorem isFinite_maxJitter : maxJitter.isFinite = true :=
  rfl

theorem exact_maxJitter : exact maxJitter = 8917127262193582 / 2 ^ 53 := by
  rw [exact, show Binary.ofFloat maxJitter = .finite false 8917127262193582 (-53) from rfl,
    Binary.value]
  norm_num

/-- A share of the delay is taken as it is, or as the greatest. -/
theorem clampJitter_spec {x : Float} (hx : x.isFinite = true) (nonneg : 0 ≤ exact x) :
    (clampJitter x).isFinite = true ∧ 0 ≤ exact (clampJitter x) ∧
      exact (clampJitter x) ≤ 127 / 128 := by
  have top : exact maxJitter ≤ 127 / 128 := by
    rw [exact_maxJitter]
    norm_num
  have low : ¬x < 0.0 := by
    rw [lt_iff hx isFinite_zero, exact_zero_point_zero, not_lt]
    exact nonneg
  rw [clampJitter, if_neg low]
  split_ifs with more
  · exact ⟨isFinite_maxJitter, by rw [exact_maxJitter]; norm_num, top⟩
  · rw [gt_iff_lt, lt_iff isFinite_maxJitter hx, not_lt] at more
    exact ⟨hx, nonneg, more.trans top⟩

theorem exact_clampJitter_zero : exact (clampJitter 0.0) = 0 := by
  rw [show clampJitter 0.0 = 0.0 from rfl, exact_zero_point_zero]

/-- What the policy is, if both delays can be read. -/
theorem toPolicy_eq {s : ReconnectSettings} {base cap : Span}
    (first : SpanText.parse s.baseDelay = .ok base) (second : SpanText.parse s.maxDelay = .ok cap) :
    s.toPolicy = .ok
      { baseDelay := base
        maxDelay := cap
        multiplier := atLeastOne s.multiplier
        jitter := clampJitter s.jitter
        maxFailures := max s.maxFailures 1 } := by
  rw [toPolicy, first, second]
  rfl

end ReconnectSettings

namespace ClientSettings

open SettingsRule SettingsReaders

/-- **The policy of valid settings** can be made, and its delays have all that they rely on. -/
theorem exists_policy {isFilter : String → Bool} {s : ClientSettings}
    (valid : s.validate (.standard isFilter) = .ok ()) :
    ∃ p, s.reconnect.toPolicy = .ok p ∧ p.Sound := by
  obtain ⟨base, first⟩ := holds_of_validate valid .baseDelay
  obtain ⟨cap, second⟩ := holds_of_validate valid .maxDelay
  obtain ⟨finite, -⟩ := holds_of_validate valid .multiplier
  obtain ⟨finite', nonneg, -⟩ := holds_of_validate valid .jitter
  have factor := ReconnectSettings.atLeastOne_spec finite
  have share := ReconnectSettings.clampJitter_spec finite' nonneg
  have base_eq := span_standard_eq_ok_iff.1 first
  have cap_eq := span_standard_eq_ok_iff.1 second
  refine ⟨_, ReconnectSettings.toPolicy_eq base_eq cap_eq, ?_⟩
  exact {
    positive := holds_of_validate valid .someDelay base first
    ordered := holds_of_validate valid .delayOrder base cap first second
    short := SpanText.secs_lt_of_parse cap_eq
    isFinite_multiplier := factor.1
    one_le_multiplier := factor.2
    isFinite_jitter := share.1
    jitter_nonneg := share.2.1
    jitter_le := share.2.2 }

/-! ## Whether there is a delay -/

/-- **When there is a delay**, under valid settings, whatever their log may be filtered by. A
policy is made from them. After any delays and successes, and for any draw,

* the band is finite and not empty;
* the delay in seconds is finite and not negative;
* there is a delay if and only if these seconds are less than `2 ^ 64`;
* they are if the cap, with the share that the delay deviates and what the roundings make, is. -/
theorem delays_exist (isFilter : String → Bool) (s : ClientSettings)
    (valid : s.validate (.standard isFilter) = .ok ()) :
    ∃ p, s.reconnect.toPolicy = .ok p ∧
      ∀ (calls : List BackoffCall) (draw : Float), BackoffPolicy.IsDraw draw →
        (((p.band (BackoffCall.attempt calls)).1.isFinite = true ∧
          (p.band (BackoffCall.attempt calls)).2.isFinite = true ∧
          (p.band (BackoffCall.attempt calls)).1 ≤ (p.band (BackoffCall.attempt calls)).2) ∧
        ((p.seconds (BackoffCall.attempt calls) draw).isFinite = true ∧
          0.0 ≤ p.seconds (BackoffCall.attempt calls) draw) ∧
        ((((Backoff.ofPolicy p).run calls).next draw).1.isSome = true ↔
          exact (p.seconds (BackoffCall.attempt calls) draw) < 2 ^ 64) ∧
        (p.maxDelay.inSeconds * ((1 + exact p.jitter) * (1 + 1 / 2 ^ 49)) < 2 ^ 64 →
          (((Backoff.ofPolicy p).run calls).next draw).1.isSome = true)) := by
  obtain ⟨p, made, sound⟩ := exists_policy valid
  refine ⟨p, made, fun calls draw d => ?_⟩
  obtain ⟨lower, upper, -, small, large, -⟩ := sound.band (BackoffCall.attempt calls)
  obtain ⟨finite, nonneg⟩ := sound.seconds (BackoffCall.attempt calls) d
  have exists_iff : (((Backoff.ofPolicy p).run calls).next draw).1.isSome = true ↔
      exact (p.seconds (BackoffCall.attempt calls) draw) < 2 ^ 64 := by
    rw [Backoff.next_run, sound.delay?_eq _ d]
    split_ifs with short <;> simp [short]
  exact ⟨⟨lower, upper, (le_iff lower upper).2 (small.trans large)⟩,
    ⟨finite, (zero_le_iff finite).2 nonneg⟩, exists_iff,
    fun short => exists_iff.2 ((sound.seconds_le_cap _ d).trans_lt short)⟩

/-- Standard settings are valid, and so is every other good way to reconnect in them. -/
theorem validate_reconnecting {reconnect : ReconnectSettings}
    (good : reconnect.issues .standard = []) :
    validate { standard with reconnect := reconnect } = .ok () :=
  validate_standard_with LogFilter.isPlain_info (List.isEmpty_iff.1 (by decide +kernel)) good

/-- Under standard settings there always is a delay. -/
theorem delays_exist_standard :
    standard.validate = .ok () ∧
      ∃ p, standard.reconnect.toPolicy = .ok p ∧ ∀ (calls : List BackoffCall) (draw : Float),
        BackoffPolicy.IsDraw draw →
          (((Backoff.ofPolicy p).run calls).next draw).1.isSome = true := by
  have valid : standard.validate = .ok () :=
    validate_reconnecting (List.isEmpty_iff.1 (by decide +kernel))
  obtain ⟨p, made, exist⟩ := delays_exist LogFilter.isPlain standard valid
  refine ⟨valid, p, made, fun calls draw d => (exist calls draw d).2.2.2 ?_⟩
  obtain ⟨q, made', sound⟩ := exists_policy valid
  obtain rfl := Except.ok.inj (made.symm.trans made')
  have share := sound.jitter_le
  have cap : SpanText.parse standard.reconnect.maxDelay = .ok (.ofSecs 30) := by decide +kernel
  have base : SpanText.parse standard.reconnect.baseDelay = .ok (.ofMillis 500) := by
    decide +kernel
  rw [ReconnectSettings.toPolicy_eq base cap] at made
  obtain rfl := Except.ok.inj made
  norm_num [Span.inSeconds, Span.ofSecs, Span.perSecond] at share ⊢
  linarith

/-- The longest delay that a text stands for, as the cap and from the beginning, exact and
without a spread. -/
def longest : ReconnectSettings where
  baseDelay := "213503982334601d 7h 15s"
  maxDelay := "213503982334601d 7h 15s"
  multiplier := 2.0
  jitter := 0.0
  maxFailures := 8

/-- **Valid settings without a delay.** The cap has one second less than `2 ^ 64`; as a double it
has no second less. -/
theorem delays_exist_not_always :
    validate { standard with reconnect := longest } = .ok () ∧
      ∃ p, longest.toPolicy = .ok p ∧ p.maxDelay = .ofSecs (2 ^ 64 - 1) ∧
        ∃ draw, BackoffPolicy.IsDraw draw ∧ ((Backoff.ofPolicy p).next draw).1 = none := by
  have cap : SpanText.parse longest.maxDelay = .ok (.ofSecs (2 ^ 64 - 1)) := by decide +kernel
  refine ⟨validate_reconnecting (List.isEmpty_iff.1 (by decide +kernel)), _,
    ReconnectSettings.toPolicy_eq cap cap, rfl, 0.0,
    BackoffPolicy.isDraw_of_between (by decide +kernel) (by decide +kernel), ?_⟩
  decide +kernel

/-! ## Delays and the cap -/

/-- **How delays compare with the cap**, under valid settings, whatever their log may be filtered
by. A policy is made from them. After any delays and successes, and for any draw, a delay

* is made of seconds that are rounded to the nearest nanosecond;
* is no longer than the cap if the delay before it is spread is shorter, by the share that it
  deviates and what the roundings make;
* is no longer than the cap either if there is no spread and the cap has less than `2 ^ 23`
  seconds;
* exceeds the cap by no more than that share, and what the roundings make. -/
theorem delays_bounded (isFilter : String → Bool) (s : ClientSettings)
    (valid : s.validate (.standard isFilter) = .ok ()) :
    ∃ p, s.reconnect.toPolicy = .ok p ∧
      ∀ (calls : List BackoffCall) (draw : Float) (d : Span), BackoffPolicy.IsDraw draw →
        (((Backoff.ofPolicy p).run calls).next draw).1 = some d →
        (d.nanos : ℤ) = halfEven (exact (p.seconds (BackoffCall.attempt calls) draw) * 10 ^ 9) ∧
        (exact (p.nominal (BackoffCall.attempt calls))
            * ((1 + exact p.jitter) * (1 + 1 / 2 ^ 50)) ≤ p.maxDelay.inSeconds →
          d.nanos ≤ p.maxDelay.nanos) ∧
        (exact p.jitter = 0 → p.maxDelay.secs < 2 ^ 23 → d.nanos ≤ p.maxDelay.nanos) ∧
        (d.nanos : ℚ)
          ≤ p.maxDelay.nanos * ((1 + exact p.jitter) * (1 + 1 / 2 ^ 49)) + 1 / 2 := by
  obtain ⟨p, made, sound⟩ := exists_policy valid
  refine ⟨p, made, fun calls draw d drawn given => ?_⟩
  obtain ⟨-, nonneg⟩ := sound.seconds (BackoffCall.attempt calls) drawn
  have nanos : (d.nanos : ℤ)
      = halfEven (exact (p.seconds (BackoffCall.attempt calls) draw) * 10 ^ 9) := by
    rw [Backoff.next_run, sound.delay?_eq _ drawn] at given
    split_ifs at given
    obtain rfl := Option.some.inj given
    exact Int.toNat_of_nonneg (halfEven_nonneg (mul_nonneg nonneg (by norm_num)))
  have cap : p.maxDelay.inSeconds * 10 ^ 9 = p.maxDelay.nanos :=
    div_mul_cancel₀ _ (by norm_num)
  -- What is no longer in seconds is no longer in nanoseconds.
  have le_cap : ∀ q : ℚ, exact (p.seconds (BackoffCall.attempt calls) draw) ≤ q →
      halfEven (q * 10 ^ 9) = p.maxDelay.nanos → d.nanos ≤ p.maxDelay.nanos := by
    intro q le eq
    have order := halfEven_mono (mul_le_mul_of_nonneg_right le (by norm_num : (0 : ℚ) ≤ 10 ^ 9))
    rw [← nanos, eq] at order
    exact_mod_cast order
  refine ⟨nanos, fun below => ?_, fun none short => ?_, ?_⟩
  · refine le_cap p.maxDelay.inSeconds ((sound.seconds_le _ drawn).trans below) ?_
    rw [cap]
    exact halfEven_intCast p.maxDelay.nanos
  · refine le_cap (exact p.maxDelay.toSeconds) ?_ (Span.halfEven_toSeconds short)
    rw [sound.seconds_of_jitter _ none]
    exact (sound.nominal _).2.2
  · have near := abs_sub_halfEven_le_half
      (exact (p.seconds (BackoffCall.attempt calls) draw) * 10 ^ 9)
    have bound := mul_le_mul_of_nonneg_right
      (sound.seconds_le_cap (BackoffCall.attempt calls) drawn) (by norm_num : (0 : ℚ) ≤ 10 ^ 9)
    rw [mul_right_comm, cap] at bound
    rw [← nanos, Int.cast_natCast] at near
    linarith [(abs_le.1 near).1]

/-- The standard way to reconnect, without a spread. -/
def steady : ReconnectSettings :=
  { ReconnectSettings.standard with jitter := 0.0 }

/-- Without a spread no delay is longer than the standard cap. -/
theorem delays_bounded_steady :
    validate { standard with reconnect := steady } = .ok () ∧
      ∃ p, steady.toPolicy = .ok p ∧ p.maxDelay = .ofSecs 30 ∧
        ∀ (calls : List BackoffCall) (draw : Float) (d : Span), BackoffPolicy.IsDraw draw →
          (((Backoff.ofPolicy p).run calls).next draw).1 = some d →
            d.nanos ≤ p.maxDelay.nanos := by
  have valid : validate { standard with reconnect := steady } = .ok () :=
    validate_reconnecting (List.isEmpty_iff.1 (by decide +kernel))
  have base : SpanText.parse steady.baseDelay = .ok (.ofMillis 500) := by decide +kernel
  have cap : SpanText.parse steady.maxDelay = .ok (.ofSecs 30) := by decide +kernel
  obtain ⟨p, made, bounded⟩ := delays_bounded LogFilter.isPlain
    { standard with reconnect := steady } valid
  have same := made
  rw [ReconnectSettings.toPolicy_eq base cap] at same
  obtain rfl := Except.ok.inj same
  refine ⟨valid, _, made, rfl, fun calls draw d drawn given => ?_⟩
  exact (bounded calls draw d drawn given).2.2.1
    ReconnectSettings.exact_clampJitter_zero (by decide)

/-- A cap of a hundred thousand million years, and seven, from the beginning and without a
spread. -/
def patient : ReconnectSettings where
  baseDelay := "100000000007y"
  maxDelay := "100000000007y"
  multiplier := 2.0
  jitter := 0.0
  maxFailures := 8

/-- **Delays beyond the cap**, under valid settings: as doubles lie far apart, the first delay
exceeds a long cap by 224 seconds. And under standard settings, once the delays have grown up to
the cap of 30 seconds, they are spread beyond it. -/
theorem delays_beyond_cap :
    (validate { standard with reconnect := patient } = .ok () ∧
      ∃ p d, patient.toPolicy = .ok p ∧ exact p.jitter = 0 ∧
        ∃ draw, BackoffPolicy.IsDraw draw ∧ ((Backoff.ofPolicy p).next draw).1 = some d ∧
          d.nanos = p.maxDelay.nanos + 224 * 10 ^ 9) ∧
    (standard.validate = .ok () ∧
      ∃ p calls, standard.reconnect.toPolicy = .ok p ∧ p.maxDelay = .ofSecs 30 ∧
        ∃ draw, BackoffPolicy.IsDraw draw ∧
          (((Backoff.ofPolicy p).run calls).next draw).1 = some (.ofMillis 34500)) := by
  have long : SpanText.parse patient.maxDelay = .ok (.ofSecs 3155760000220903200) := by
    decide +kernel
  have cap : SpanText.parse standard.reconnect.maxDelay = .ok (.ofSecs 30) := by decide +kernel
  have base : SpanText.parse standard.reconnect.baseDelay = .ok (.ofMillis 500) := by
    decide +kernel
  constructor
  · refine ⟨validate_reconnecting (List.isEmpty_iff.1 (by decide +kernel)), _,
      .ofSecs 3155760000220903424, ReconnectSettings.toPolicy_eq long long, ?_, 0.0,
      BackoffPolicy.isDraw_of_between (by decide +kernel) (by decide +kernel), ?_, rfl⟩
    · exact ReconnectSettings.exact_clampJitter_zero
    · decide +kernel
  · refine ⟨validate_reconnecting (List.isEmpty_iff.1 (by decide +kernel)), _,
      List.replicate 6 (.next 0.0), ReconnectSettings.toPolicy_eq base cap, rfl, 0.75,
      BackoffPolicy.isDraw_of_between (by decide +kernel) (by decide +kernel), ?_⟩
    decide +kernel

end ClientSettings

end Liveboard
