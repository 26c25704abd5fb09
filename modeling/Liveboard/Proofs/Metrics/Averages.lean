import Liveboard.Proofs.Metrics.Merging
import Liveboard.Proofs.Wire.Usage
import Liveboard.Proofs.Engine.Run

/-!
# How large an average can get

A delta is taken whenever its latency is a double that is not negative, and its
requests may be any count. To merge it, the latency is multiplied by the requests
and the average by the streams so far. Both factors have bounds of their own, but
not the products: a latency near the upper end of the doubles times a few requests
is beyond it, and so is the average then, although the mean itself is not.

The average of a view stays finite as long as the two products and their sum are
below the upper end when a delta is merged (`Tally.Fits`), and no longer. It is not
finite any more from the first delta on for which they are not, whatever comes
later; so for a list of deltas there is an exact condition as well
(`View.isFinite_applyAll_iff`).

Where the average and the latencies are at most `2 ^ 958` there is no such delta,
however many there are and whatever they count, for sums of two counts are at most
`2 ^ 65`. A merged mean keeps the bound, as rounding lifts nothing above a power of
two that was not above it (`Tally.Within.merge`).
-/

namespace Liveboard

open Rounding

/-! ## Counts as factors -/

namespace Count

/-- **A count as a factor**: the nearest double. -/
def weight (n : Count) : ℚ :=
  rounded n.toNat

theorem weight_nonneg (n : Count) : 0 ≤ n.weight :=
  rounded_nonneg n.toNat.cast_nonneg

/-- A count is nothing, or one at least. -/
theorem toNat_eq_zero_or (n : Count) : (n.toNat : ℚ) = 0 ∨ 1 ≤ (n.toNat : ℚ) := by
  rcases Nat.eq_zero_or_pos n.toNat with none | some
  · exact .inl (by exact_mod_cast none)
  · exact .inr (by exact_mod_cast some)

theorem weight_eq_zero_or (n : Count) : n.weight = 0 ∨ 1 ≤ n.weight := by
  rcases n.toNat_eq_zero_or with none | some
  · left
    rw [weight, none, rounded_zero]
  · exact .inr (one_le_rounded some)

theorem weight_le (n : Count) : n.weight ≤ 2 ^ (64 : ℤ) := by
  have bound : (n.toNat : ℚ) ≤ 2 ^ (64 : ℤ) := by exact_mod_cast n.toNat_lt.le
  exact rounded_le (representable_two_zpow (by norm_num)) bound

variable (m n : Count)

theorem add_weight_eq_zero_or : (m.weight = 0 ∧ n.weight = 0) ∨ 1 ≤ m.weight + n.weight := by
  have nonneg := m.weight_nonneg
  have nonneg' := n.weight_nonneg
  rcases m.weight_eq_zero_or with none | some
  · rcases n.weight_eq_zero_or with none' | some'
    · exact .inl ⟨none, none'⟩
    · exact .inr (by linarith)
  · exact .inr (by linarith)

theorem rounded_add_weight_le : rounded (m.weight + n.weight) ≤ 2 ^ (65 : ℤ) := by
  have bound : m.weight + n.weight ≤ 2 ^ (65 : ℤ) := by
    have twice : (2 : ℚ) ^ (65 : ℤ) = 2 ^ (64 : ℤ) + 2 ^ (64 : ℤ) := by norm_num
    rw [twice]
    exact add_le_add m.weight_le n.weight_le
  exact rounded_le (representable_two_zpow (by norm_num)) bound

/-- **The sum of two counts** is finite. -/
theorem exact_add :
    (m.toFloat + n.toFloat).isFinite = true ∧
      Double.exact (m.toFloat + n.toFloat) = rounded (m.weight + n.weight) := by
  have sum := Double.rounds_add (Double.isFinite_toFloat m) (Double.isFinite_toFloat n)
  rw [Double.exact_toFloat, Double.exact_toFloat] at sum
  have finite : (m.toFloat + n.toFloat).isFinite = true := by
    rw [sum.isFinite_iff, Double.limit_eq, abs_of_nonneg]
    · exact (rounded_add_weight_le m n).trans_lt (zpow_lt_zpow_right₀ one_lt_two (by norm_num))
    · exact rounded_nonneg (add_nonneg m.weight_nonneg n.weight_nonneg)
  exact ⟨finite, sum.exact_eq finite⟩

end Count

/-- What is divided by one at least stays in the range. -/
theorem Double.isFinite_div {x y : Float} (hx : x.isFinite = true) (hy : y.isFinite = true)
    (large : 1 ≤ exact y) : (x / y).isFinite = true := by
  rw [(rounds_div hx hy (by linarith)).isFinite_iff]
  refine (abs_rounded_le (representable_exact x).abs ?_).trans_lt (abs_exact_lt x)
  rw [abs_div]
  exact div_le_self (abs_nonneg _) (large.trans (le_abs_self _))

namespace Tally

variable {t a : Tally Float} {k : ℤ}

/-! ## Merging one tally -/

/-- **What was observed**, as doubles have it: the mean times the count. -/
def observed (t : Tally Float) : ℚ :=
  rounded (Double.exact t.mean * t.count.weight)

/-- **A tally can be merged into another**: neither what was observed behind one of them
nor both together is too large. -/
structure Fits (t a : Tally Float) : Prop where
  /-- What was observed so far. -/
  current : |t.observed| < Double.limit
  /-- What is added. -/
  added : |a.observed| < Double.limit
  /-- Both together. -/
  sum : |rounded (t.observed + a.observed)| < Double.limit

/-- Without any observation the mean stays; otherwise the sum of what was observed is
divided by the count. -/
theorem mean_merge_eq (t a : Tally Float) :
    (t.merge a).mean
      = if t.count.weight = 0 ∧ a.count.weight = 0 then t.mean
        else (t.mean * t.count.toFloat + a.mean * a.count.toFloat)
          / (t.count.toFloat + a.count.toFloat) := by
  obtain ⟨finite, exact⟩ := Count.exact_add t.count a.count
  have none_iff : (t.count.toFloat + a.count.toFloat == 0) = true ↔
      t.count.weight = 0 ∧ a.count.weight = 0 := by
    rw [Double.beq_zero_iff finite, exact]
    constructor
    · intro none
      refine (Count.add_weight_eq_zero_or t.count a.count).resolve_right fun some => ?_
      have one := one_le_rounded some
      rw [none] at one
      linarith
    · rintro ⟨none, none'⟩
      rw [none, none', add_zero, rounded_zero]
  by_cases none : t.count.weight = 0 ∧ a.count.weight = 0
  · rw [if_pos none]
    exact if_pos (none_iff.2 none)
  · rw [if_neg none]
    exact if_neg fun eq => none (none_iff.1 eq)

/-- The count after the merge, as a divisor. -/
theorem one_le_divisor (some : ¬(t.count.weight = 0 ∧ a.count.weight = 0)) :
    1 ≤ Double.exact (t.count.toFloat + a.count.toFloat) := by
  rw [(Count.exact_add t.count a.count).2]
  exact one_le_rounded ((Count.add_weight_eq_zero_or t.count a.count).resolve_left some)

theorem rounds_product (finite : t.mean.isFinite = true) :
    Double.Rounds (t.mean * t.count.toFloat) (Double.exact t.mean * t.count.weight) := by
  have product := Double.rounds_mul finite (Double.isFinite_toFloat t.count)
  rwa [Double.exact_toFloat] at product

/-- A product is finite if its mean is and what was observed is not too large. -/
theorem isFinite_product_iff :
    (t.mean * t.count.toFloat).isFinite = true ↔
      t.mean.isFinite = true ∧ |t.observed| < Double.limit := by
  constructor
  · intro finite
    have mean := (Double.isFinite_of_mul finite).1
    exact ⟨mean, (rounds_product mean).isFinite_iff.1 finite⟩
  · rintro ⟨mean, bound⟩
    exact (rounds_product mean).isFinite_iff.2 bound

theorem rounds_sum (left : (t.mean * t.count.toFloat).isFinite = true)
    (right : (a.mean * a.count.toFloat).isFinite = true) :
    Double.Rounds (t.mean * t.count.toFloat + a.mean * a.count.toFloat)
      (t.observed + a.observed) := by
  have sum := Double.rounds_add left right
  rwa [(rounds_product (isFinite_product_iff.1 left).1).exact_eq left,
    (rounds_product (isFinite_product_iff.1 right).1).exact_eq right] at sum

/-- Where nothing was observed, everything fits. -/
theorem fits_of_weight (none : t.count.weight = 0 ∧ a.count.weight = 0) : t.Fits a := by
  have current : t.observed = 0 := by
    rw [observed, none.1, mul_zero, rounded_zero]
  have added : a.observed = 0 := by
    rw [observed, none.2, mul_zero, rounded_zero]
  constructor
  · rw [current, abs_zero]
    exact Double.limit_pos
  · rw [added, abs_zero]
    exact Double.limit_pos
  · rw [current, added, add_zero, rounded_zero, abs_zero]
    exact Double.limit_pos

/-- **The merged mean is finite** if and only if the mean was and the tally fits. -/
theorem isFinite_merge_iff (added : a.mean.isFinite = true) :
    (t.merge a).mean.isFinite = true ↔ t.mean.isFinite = true ∧ t.Fits a := by
  rw [mean_merge_eq]
  by_cases none : t.count.weight = 0 ∧ a.count.weight = 0
  · rw [if_pos none]
    exact (and_iff_left (fits_of_weight none)).symm
  · rw [if_neg none]
    constructor
    · intro finite
      have sum := Double.isFinite_of_div finite
      obtain ⟨left, right⟩ := Double.isFinite_of_add sum
      obtain ⟨mean, current⟩ := isFinite_product_iff.1 left
      exact ⟨mean, current, (isFinite_product_iff.1 right).2,
        (rounds_sum left right).isFinite_iff.1 sum⟩
    · rintro ⟨mean, fits⟩
      have left := isFinite_product_iff.2 ⟨mean, fits.current⟩
      have right := isFinite_product_iff.2 ⟨added, fits.added⟩
      exact Double.isFinite_div ((rounds_sum left right).isFinite_iff.2 fits.sum)
        (Count.exact_add t.count a.count).1 (one_le_divisor none)

/-! ## A bound that the mean keeps -/

/-- **A mean that is at most a power of two.** -/
structure Within (k : ℤ) (t : Tally Float) : Prop where
  /-- The mean is finite. -/
  isFinite : t.mean.isFinite = true
  /-- It is within the bounds. -/
  abs_le : |Double.exact t.mean| ≤ 2 ^ k

theorem Within.abs_observed_le (h : t.Within k) (nonneg : 0 ≤ k) :
    |t.observed| ≤ 2 ^ k * t.count.weight := by
  have weight : 2 ^ k * t.count.weight = rounded (2 ^ k * t.count.toNat) := by
    have large : (t.count.toNat : ℚ) = 0 ∨ 1 ≤ |(t.count.toNat : ℚ)| := by
      rw [Nat.abs_cast]
      exact t.count.toNat_eq_zero_or
    rw [rounded_two_zpow_mul large nonneg, Count.weight]
  refine abs_rounded_le (weight ▸ representable_rounded _) ?_
  rw [abs_mul, abs_of_nonneg t.count.weight_nonneg]
  exact mul_le_mul_of_nonneg_right h.abs_le t.count.weight_nonneg

theorem Within.abs_sum_le (h : t.Within k) (added : a.Within k) (nonneg : 0 ≤ k) :
    |rounded (t.observed + a.observed)| ≤ 2 ^ k * rounded (t.count.weight + a.count.weight) := by
  have large : t.count.weight + a.count.weight = 0 ∨ 1 ≤ |t.count.weight + a.count.weight| := by
    rcases Count.add_weight_eq_zero_or t.count a.count with ⟨none, none'⟩ | some
    · left
      rw [none, none', add_zero]
    · exact .inr (some.trans (le_abs_self _))
  rw [← rounded_two_zpow_mul large nonneg]
  refine abs_rounded_le_rounded ?_
  calc |t.observed + a.observed| ≤ |t.observed| + |a.observed| := abs_add_le ..
    _ ≤ 2 ^ k * t.count.weight + 2 ^ k * a.count.weight :=
      add_le_add (h.abs_observed_le nonneg) (added.abs_observed_le nonneg)
    _ = 2 ^ k * (t.count.weight + a.count.weight) := (mul_add ..).symm

/-- A power of two and counts of so many bits are in the range together. -/
theorem two_zpow_mul_lt_limit {w : ℚ} {bits : ℤ} (weight : w ≤ 2 ^ bits) (bound : k + bits < 1024) :
    2 ^ k * w < Double.limit := by
  calc 2 ^ k * w ≤ 2 ^ k * 2 ^ bits := mul_le_mul_of_nonneg_left weight (two_zpow_pos k).le
    _ = 2 ^ (k + bits) := (zpow_add₀ two_ne_zero ..).symm
    _ < 2 ^ (1024 : ℤ) := zpow_lt_zpow_right₀ one_lt_two bound
    _ = Double.limit := Double.limit_eq.symm

/-- **A tally within the bounds fits.** -/
theorem Within.fits (h : t.Within k) (added : a.Within k) (nonneg : 0 ≤ k) (small : k ≤ 958) :
    t.Fits a where
  current := (h.abs_observed_le nonneg).trans_lt
    (two_zpow_mul_lt_limit t.count.weight_le (by omega))
  added := (added.abs_observed_le nonneg).trans_lt
    (two_zpow_mul_lt_limit a.count.weight_le (by omega))
  sum := (h.abs_sum_le added nonneg).trans_lt
    (two_zpow_mul_lt_limit (Count.rounded_add_weight_le ..) (by omega))

/-- **Merging keeps the bounds**, for all its rounding. -/
theorem Within.merge (h : t.Within k) (added : a.Within k) (nonneg : 0 ≤ k) (small : k ≤ 958) :
    (t.merge a).Within k := by
  have fits := h.fits added nonneg small
  have finite := (isFinite_merge_iff added.isFinite).2 ⟨h.isFinite, fits⟩
  refine ⟨finite, ?_⟩
  rw [mean_merge_eq] at finite ⊢
  by_cases none : t.count.weight = 0 ∧ a.count.weight = 0
  · rw [if_pos none]
    exact h.abs_le
  · rw [if_neg none] at finite ⊢
    have left := isFinite_product_iff.2 ⟨h.isFinite, fits.current⟩
    have right := isFinite_product_iff.2 ⟨added.isFinite, fits.added⟩
    have sum := rounds_sum left right
    obtain ⟨total, exact⟩ := Count.exact_add t.count a.count
    have divisor : 0 < Double.exact (t.count.toFloat + a.count.toFloat) :=
      one_pos.trans_le (one_le_divisor none)
    have quotient := Double.rounds_div (sum.isFinite_iff.2 fits.sum) total divisor.ne'
    rw [quotient.exact_eq finite]
    refine abs_rounded_le (representable_two_zpow (by omega)) ?_
    rw [abs_div, abs_of_pos divisor, div_le_iff₀ divisor,
      sum.exact_eq (sum.isFinite_iff.2 fits.sum), exact]
    exact h.abs_sum_le added nonneg

/-- **What a merge computes in exact fractions** is in the range as well. -/
theorem Within.exact_lt (h : t.Within k) (added : a.Within k) (small : k ≤ 958) :
    |Double.exact t.mean * t.count.toNat| < Double.limit ∧
      |Double.exact a.mean * a.count.toNat| < Double.limit ∧
      |Double.exact t.mean * t.count.toNat + Double.exact a.mean * a.count.toNat|
        < Double.limit := by
  have product : ∀ {s : Tally Float}, s.Within k →
      |Double.exact s.mean * s.count.toNat| ≤ 2 ^ k * 2 ^ (64 : ℤ) := by
    intro s within
    have count : (s.count.toNat : ℚ) ≤ 2 ^ (64 : ℤ) := by exact_mod_cast s.count.toNat_lt.le
    rw [abs_mul, Nat.abs_cast]
    exact mul_le_mul within.abs_le count (Nat.cast_nonneg _) (two_zpow_pos k).le
  have range : (2 : ℚ) ^ k * 2 ^ (64 : ℤ) < Double.limit := two_zpow_mul_lt_limit le_rfl (by omega)
  refine ⟨(product h).trans_lt range, (product added).trans_lt range, ?_⟩
  calc |Double.exact t.mean * t.count.toNat + Double.exact a.mean * a.count.toNat|
      ≤ 2 ^ k * 2 ^ (64 : ℤ) + 2 ^ k * 2 ^ (64 : ℤ) :=
        (abs_add_le ..).trans (add_le_add (product h) (product added))
    _ = 2 ^ k * 2 ^ (65 : ℤ) := by
        rw [← mul_add]
        norm_num
    _ < Double.limit := two_zpow_mul_lt_limit le_rfl (by omega)

end Tally

/-! ## Any number of deltas -/

namespace View

/-- **When the average is finite**: as long as every delta fitted. -/
theorem isFinite_applyAll_iff (v : View) {ds : List (UsageDelta × Int)}
    (added : ∀ d ∈ ds, d.1.avgLatency.isFinite = true) :
    (v.applyAll ds).avgDurationMs.isFinite = true ↔
      v.avgDurationMs.isFinite = true ∧
        ∀ before d after, ds = before ++ d :: after →
          (v.applyAll before).tally.Fits d.1.tally := by
  induction ds generalizing v with
  | nil =>
    refine (and_iff_left fun before d after split => ?_).symm
    cases before <;> cases split
  | cons d ds ih =>
    obtain ⟨first, later⟩ := List.forall_mem_cons.1 added
    have step : (v.apply d.1 d.2).avgDurationMs.isFinite = true ↔ _ :=
      Tally.isFinite_merge_iff (t := v.tally) (a := d.1.tally) first
    rw [applyAll_cons, ih _ later, step, and_assoc]
    refine and_congr_right fun _ => ⟨?_, fun fits => ⟨?_, ?_⟩⟩
    · rintro ⟨fit, fits⟩ before d' after split
      cases before with
      | nil =>
        cases split
        exact fit
      | cons b before =>
        cases split
        exact fits before d' after rfl
    · exact fits [] d ds rfl
    · rintro before d' after rfl
      exact fits (d :: before) d' after rfl

/-- **A bound that the average keeps**, whatever the counts. -/
theorem within_applyAll {v : View} {k : ℤ} (nonneg : 0 ≤ k) (small : k ≤ 958)
    (within : v.tally.Within k) {ds : List (UsageDelta × Int)}
    (added : ∀ d ∈ ds, d.1.tally.Within k) : (v.applyAll ds).tally.Within k := by
  induction ds generalizing v with
  | nil => exact within
  | cons d ds ih =>
    obtain ⟨first, later⟩ := List.forall_mem_cons.1 added
    exact ih (within.merge first nonneg small) later

end View

/-! ## Deltas that come in -/

/-- The deltas that events tell of, with the times of receipt. -/
def Event.deltas (events : List Event) : List (UsageDelta × Int) :=
  events.filterMap fun event => event.usage?.map fun d => (d, event.receivedAt)

theorem Event.exists_of_mem_deltas {events : List Event} {d : UsageDelta × Int}
    (mem : d ∈ Event.deltas events) : ∃ event ∈ events, UsageDelta.ofJson event.data = .ok d.1 := by
  obtain ⟨event, inside, told⟩ := List.mem_filterMap.1 mem
  obtain ⟨d', usage, rfl⟩ := Option.map_eq_some_iff.1 told
  refine ⟨event, inside, Event.decode_ok_iff.1 ?_⟩
  unfold Event.usage? at usage
  cases decoded : event.decode UsageDelta.ofJson with
  | ok d'' =>
    rw [decoded] at usage
    exact congrArg _ (Option.some.inj usage)
  | error =>
    rw [decoded] at usage
    cases usage

namespace Engine

/-- **An engine that events about the usage come in at.** -/
def hear (e : Engine) (events : List Event) : Engine :=
  e.run (Occasion.ofEvents (events.map .delta))

/-- A live engine merges what an event tells of. -/
theorem takeEvent_live {e : Engine} (running : e.stopped = false) (live : e.phase = .live)
    {v : View} (shown : e.view = some v) (event : Event) :
    (e.takeEvent event).1 = match event.usage? with
      | some d => { e with
          view := some (v.apply d event.receivedAt)
          published := .live (v.apply d event.receivedAt) }
      | none => e := by
  rw [takeEvent, if_neg (by rw [running]; exact Bool.false_ne_true), Event.usage?]
  cases event.decode UsageDelta.ofJson with
  | ok d =>
    show (e.takeDelta d event.receivedAt).1 = _
    rw [takeDelta, live, shown]
    rfl
  | error => rfl

/-- **A live engine shows its view with the deltas merged.** -/
theorem hear_live {e : Engine} (running : e.stopped = false) (live : e.phase = .live) {v : View}
    (shown : e.view = some v) (events : List Event) :
    e.hear events = { e with
      view := some (v.applyAll (Event.deltas events))
      published := if Event.deltas events = [] then e.published
        else .live (v.applyAll (Event.deltas events)) } := by
  induction events generalizing e v with
  | nil =>
    show e = { e with view := some v }
    rw [← shown]
  | cons event events ih =>
    show (e.takeEvent event).1.hear events = _
    rw [takeEvent_live running live shown]
    cases usage : event.usage? with
    | none =>
      have deltas : Event.deltas (event :: events) = Event.deltas events := by
        rw [Event.deltas, List.filterMap_cons_none (by rw [usage]; rfl)]
        rfl
      rw [deltas]
      exact ih running live shown
    | some d =>
      have deltas : Event.deltas (event :: events)
          = (d, event.receivedAt) :: Event.deltas events := by
        rw [Event.deltas, List.filterMap_cons_some (by rw [usage]; rfl)]
        rfl
      have later := ih (e := { e with
        view := some (v.apply d event.receivedAt)
        published := .live (v.apply d event.receivedAt) }) running live rfl
      rw [deltas, if_neg (List.cons_ne_nil _ _), View.applyAll_cons]
      refine later.trans ?_
      by_cases last : Event.deltas events = []
      · rw [if_pos last, last]
        rfl
      · rw [if_neg last]

/-- **The average that an engine shows** while events about the usage come in. It is
finite if and only if every delta fitted when it was merged. Where the average and the
latencies are at most a power of two up to `2 ^ 958`, nothing that is computed is too
large, and the average keeps this bound. -/
theorem average_hear {e : Engine} (running : e.stopped = false) (live : e.phase = .live) {v : View}
    (shown : e.view = some v) (finite : v.avgDurationMs.isFinite = true) (events : List Event)
    (proper : ∀ event ∈ events, event.data.Proper) :
    ((e.hear events).view = some (v.applyAll (Event.deltas events)) ∧
      (e.hear events).published = if Event.deltas events = [] then e.published
        else .live (v.applyAll (Event.deltas events))) ∧
    ((v.applyAll (Event.deltas events)).avgDurationMs.isFinite = true ↔
      ∀ before d after, Event.deltas events = before ++ d :: after →
        (v.applyAll before).tally.Fits d.1.tally) ∧
    ∀ k : ℤ, 0 ≤ k → k ≤ 958 → |Double.exact v.avgDurationMs| ≤ 2 ^ k →
      (∀ d ∈ Event.deltas events, Double.exact d.1.avgLatency ≤ 2 ^ k) →
      (v.applyAll (Event.deltas events)).avgDurationMs.isFinite = true ∧
      |Double.exact (v.applyAll (Event.deltas events)).avgDurationMs| ≤ 2 ^ k ∧
      ∀ before d after, Event.deltas events = before ++ d :: after →
        |Double.exact (v.applyAll before).avgDurationMs * (v.applyAll before).totalStreams.toNat|
          < Double.limit ∧
        |Double.exact d.1.avgLatency * d.1.requests.toNat| < Double.limit ∧
        |Double.exact (v.applyAll before).avgDurationMs * (v.applyAll before).totalStreams.toNat
          + Double.exact d.1.avgLatency * d.1.requests.toNat| < Double.limit := by
  have accepted : ∀ d ∈ Event.deltas events,
      d.1.avgLatency.isFinite = true ∧ 0 ≤ Double.exact d.1.avgLatency := by
    intro d mem
    obtain ⟨event, inside, ok⟩ := Event.exists_of_mem_deltas mem
    exact UsageDelta.exists_ofJson_eq_iff.1 ⟨event.data, proper event inside, ok⟩
  refine ⟨?_, ?_, fun k nonneg small average latencies => ?_⟩
  · rw [hear_live running live shown]
    exact ⟨rfl, rfl⟩
  · rw [View.isFinite_applyAll_iff v fun d mem => (accepted d mem).1, and_iff_right finite]
  · have first : v.tally.Within k := ⟨finite, average⟩
    have added : ∀ d ∈ Event.deltas events, d.1.tally.Within k := fun d mem =>
      ⟨(accepted d mem).1, (abs_of_nonneg (accepted d mem).2).trans_le (latencies d mem)⟩
    have last := View.within_applyAll nonneg small first added
    refine ⟨last.isFinite, last.abs_le, fun before d after split => ?_⟩
    rw [split] at added
    have sofar : (v.applyAll before).tally.Within k :=
      View.within_applyAll nonneg small first fun b mem => added b (List.mem_append_left _ mem)
    have range := sofar.exact_lt (added d (by simp)) small
    simp only [View.tally, UsageDelta.tally] at range
    exact range

/-- An engine whose first snapshot has no streams. -/
def quiet : Engine :=
  (Launch.bare 1).run (Occasion.ofEvents [.pull 1, .landed 1 (.ok (.ofStreams 0))])

/-- An event about requests with a mean latency. -/
def told (requests : Count) (latency : Float) : Event where
  type := usageEvents
  data := .object [("avg_latency", .float latency), ("bytes", .int 0),
    ("requests", .int requests.toNat)]
  sequence := 1
  receivedAt := 0

section Told

variable (requests : Count) {latency : Float} (finite : latency.isFinite = true)
include finite

theorem proper_told : (told requests latency).data.Proper := by
  refine .object ?_ fun m mem => ?_
  · show ["avg_latency", "bytes", "requests"].Nodup
    decide
  · simp only [List.mem_cons, List.not_mem_nil, or_false] at mem
    rcases mem with rfl | rfl | rfl
    · exact .float finite
    · exact .int (by decide) (by decide)
    · exact Json.proper_toNat requests

theorem decode_told (nonneg : 0.0 ≤ latency) :
    (told requests latency).decode UsageDelta.ofJson = .ok ⟨requests, 0, latency⟩ :=
  Event.decode_ok_iff.2 ((UsageDelta.ofJson_ok_iff (proper_told requests finite)).2
    ⟨_, _, _, rfl, Scalar.count_toNat requests, rfl, Scalar.measure_ok_iff.2 ⟨rfl, finite, nonneg⟩⟩)

end Told

theorem average_hear_quiet :
    quiet.stopped = false ∧ quiet.phase = .live ∧ ∃ v, quiet.view = some v ∧
      v.avgDurationMs.isFinite = true ∧ (∀ event ∈ [told 3 2.0, told 4 2.0], event.data.Proper) ∧
      ∃ w, (quiet.hear [told 3 2.0, told 4 2.0]).published = .live w ∧
        w.avgDurationMs.isFinite = true ∧ |Double.exact w.avgDurationMs| ≤ 2 := by
  have proper : ∀ event ∈ [told 3 2.0, told 4 2.0], event.data.Proper := by
    intro event mem
    simp only [List.mem_cons, List.not_mem_nil, or_false] at mem
    rcases mem with rfl | rfl <;> exact proper_told _ rfl
  have deltas : Event.deltas [told 3 2.0, told 4 2.0] = [(⟨3, 0, 2.0⟩, 0), (⟨4, 0, 2.0⟩, 0)] := rfl
  have latency : Double.exact 2.0 = 2 := by
    rw [Double.exact, show Binary.ofFloat 2.0 = .finite false 4503599627370496 (-51) from rfl,
      Binary.value]
    norm_num
  have average : Double.exact (View.ofSnapshot (.ofStreams 0)).avgDurationMs = 0 := by
    rw [Double.exact, show Binary.ofFloat (View.ofSnapshot (.ofStreams 0)).avgDurationMs
      = .finite false 0 (-1074) from rfl, Binary.value]
    norm_num
  have latencies : ∀ d ∈ Event.deltas [told 3 2.0, told 4 2.0],
      Double.exact d.1.avgLatency ≤ 2 ^ (1 : ℤ) := by
    intro d mem
    rw [deltas] at mem
    simp only [List.mem_cons, List.not_mem_nil, or_false] at mem
    rcases mem with rfl | rfl <;> exact latency.le.trans (by norm_num)
  obtain ⟨⟨-, shows⟩, -, bounded⟩ := average_hear (e := quiet) rfl rfl
    (v := View.ofSnapshot (.ofStreams 0)) rfl rfl [told 3 2.0, told 4 2.0] proper
  obtain ⟨finite, bound, -⟩ := bounded 1 (by norm_num) (by norm_num)
    (by rw [average]; norm_num) latencies
  refine ⟨rfl, rfl, _, rfl, rfl, proper, _, shows.trans (if_neg ?_), finite, ?_⟩
  · rw [deltas]
    exact List.cons_ne_nil _ _
  · rwa [zpow_one] at bound

/-- **An accepted latency times its requests can be too large**, and then so is the average
that is shown, although it is the mean of nothing but this latency. -/
theorem average_told_steep :
    quiet.stopped = false ∧ quiet.phase = .live ∧ (told 10 1e308).data.Proper ∧
      ∃ v d, quiet.view = some v ∧ v.avgDurationMs.isFinite = true ∧
        (told 10 1e308).decode UsageDelta.ofJson = .ok d ∧
        Double.limit ≤ |Double.exact d.avgLatency * d.requests.toNat| ∧
        ∃ w, (quiet.hear [told 10 1e308]).published = .live w ∧
          w.avgDurationMs.isFinite = false := by
  have finite : (1e308 : Float).isFinite = true := by decide +kernel
  have decoded := decode_told 10 finite (by decide +kernel)
  have deltas : Event.deltas [told 10 1e308] = [(⟨10, 0, 1e308⟩, 0)] := by
    rw [Event.deltas, List.filterMap_cons_some (by rw [Event.usage?, decoded]; rfl)]
    rfl
  have latency : Double.exact 1e308 = 5010420900022432 * 2 ^ (971 : ℤ) := by
    rw [Double.exact, show Binary.ofFloat 1e308 = .finite false 5010420900022432 971 from by
      decide +kernel, Binary.value, if_neg Bool.false_ne_true, one_mul]
    norm_num
  refine ⟨rfl, rfl, proper_told 10 finite, View.ofSnapshot (.ofStreams 0), ⟨10, 0, 1e308⟩, rfl, rfl,
    decoded, ?_, (View.ofSnapshot (.ofStreams 0)).apply ⟨10, 0, 1e308⟩ 0, ?_, by decide +kernel⟩
  · have power : Double.limit = 2 ^ (53 : ℤ) * 2 ^ (971 : ℤ) := by
      rw [Double.limit_eq, ← zpow_add₀ two_ne_zero]
      norm_num
    have large : (2 : ℚ) ^ (53 : ℤ) ≤ 5010420900022432 * 10 := by norm_num
    calc Double.limit ≤ 5010420900022432 * 10 * 2 ^ (971 : ℤ) :=
          power ▸ mul_le_mul_of_nonneg_right large (two_zpow_pos 971).le
      _ = Double.exact 1e308 * (10 : ℕ) := by
          rw [latency]
          ring
      _ ≤ |Double.exact 1e308 * (10 : ℕ)| := le_abs_self _
  · rw [hear_live rfl rfl (v := View.ofSnapshot (.ofStreams 0)) rfl, deltas]
    rfl

end Engine

end Liveboard
