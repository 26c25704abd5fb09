import Liveboard.Metrics.View
import Liveboard.Proofs.Decimal.Double

/-!
# Merging deltas in any order

The counts of a view are sums that are cut off at the largest count. Since no
summand is negative it makes no difference whether this is done after every delta
or once at the end (`Count.toNat_sum`).

The mean is computed anew at every delta, and its weight is the count so far. In
exact fractions the mean times the count is the *total* of what was observed, and
totals add up (`Tally.total_mergeAll`). So the mean in the end is the sum of all
totals divided by the sum of all counts. Without any observation there is nothing
to divide by, and the mean stays what it was. In doubles the same steps are taken,
each of them rounded: `Tally.mergeAll` is one definition for both, and
`View.merges_all` says what a view has to do with it.
-/

namespace Liveboard

/-! ## Counts -/

namespace Count

/-- Counts added one after the other. -/
def sum (n : Count) (ns : List Count) : Count :=
  ns.foldl add n

theorem toNat_le_max (n : Count) : n.toNat ≤ max :=
  Nat.le_pred_of_lt n.toNat_lt

/-- **A sum of counts** is cut off once, at the end. -/
theorem toNat_sum (n : Count) (ns : List Count) :
    (n.sum ns).toNat = min (n.toNat + (ns.map UInt64.toNat).sum) max := by
  induction ns generalizing n with
  | nil => exact (Nat.min_eq_left n.toNat_le_max).symm
  | cons a ns ih =>
    show ((n.add a).sum ns).toNat = _
    rw [ih, toNat_add, List.map_cons, List.sum_cons]
    omega

theorem sum_perm (n : Count) {ns ns' : List Count} (h : ns.Perm ns') : n.sum ns = n.sum ns' := by
  rw [← UInt64.toNat_inj, toNat_sum, toNat_sum, (h.map _).sum_eq]

end Count

/-! ## Means -/

/-- Exact fractions. -/
instance : Measure ℚ where
  ofCount n := n.toNat

namespace Tally

/-- **A list of tallies merged in turn.** -/
def mergeAll {α : Type} [Measure α] (t : Tally α) (added : List (Tally α)) : Tally α :=
  added.foldl merge t

/-- A tally with its mean read as another kind of number. -/
def map {α β : Type} (f : α → β) (t : Tally α) : Tally β :=
  ⟨f t.mean, t.count⟩

/-- **The sum of the observations** behind a mean. -/
def total (t : Tally ℚ) : ℚ :=
  t.mean * t.count.toNat

theorem count_mergeAll {α : Type} [Measure α] (t : Tally α) (added : List (Tally α)) :
    (t.mergeAll added).count = t.count.sum (added.map (·.count)) := by
  rw [mergeAll, Count.sum]
  induction added generalizing t with
  | nil => rfl
  | cons a added ih => exact ih (t.merge a)

variable {t a : Tally ℚ} {added : List (Tally ℚ)}

theorem mean_merge (t a : Tally ℚ) :
    (t.merge a).mean
      = if (t.count.toNat + a.count.toNat : ℚ) = 0 then t.mean
        else (t.total + a.total) / (t.count.toNat + a.count.toNat) := by
  by_cases none : (t.count.toNat + a.count.toNat : ℚ) = 0
  · rw [if_pos none]
    exact if_pos (beq_iff_eq.2 none)
  · rw [if_neg none]
    exact if_neg fun eq => none (beq_iff_eq.1 eq)

/-- **Totals add up**, as long as the counts do. -/
theorem total_merge (fits : t.count.toNat + a.count.toNat ≤ Count.max) :
    (t.merge a).total = t.total + a.total := by
  have count : (t.merge a).count.toNat = t.count.toNat + a.count.toNat := by
    show (t.count.add a.count).toNat = _
    rw [Count.toNat_add, Nat.min_eq_left fits]
  rw [total, count, Nat.cast_add, mean_merge]
  split
  · rename_i none
    -- Without observations both totals are nothing.
    have both : t.count.toNat = 0 ∧ a.count.toNat = 0 := by
      rw [← Nat.cast_add, Nat.cast_eq_zero] at none
      omega
    rw [none, total, total, both.1, both.2]
    ring
  · rename_i some
    exact div_mul_cancel₀ _ some

theorem total_mergeAll (fits : t.count.toNat + (added.map (·.count.toNat)).sum ≤ Count.max) :
    (t.mergeAll added).total = t.total + (added.map total).sum := by
  induction added generalizing t with
  | nil => exact (add_zero _).symm
  | cons a added ih =>
    rw [List.map_cons, List.sum_cons] at fits ⊢
    have first : t.count.toNat + a.count.toNat ≤ Count.max := by omega
    have count : (t.merge a).count.toNat = t.count.toNat + a.count.toNat := by
      show (t.count.add a.count).toNat = _
      rw [Count.toNat_add, Nat.min_eq_left first]
    show ((t.merge a).mergeAll added).total = _
    rw [ih (by omega), total_merge first, add_assoc]

/-- Where nothing was observed, the mean stays what it was. -/
theorem mean_mergeAll_of_count (none : t.count.toNat + (added.map (·.count.toNat)).sum = 0) :
    (t.mergeAll added).mean = t.mean := by
  induction added generalizing t with
  | nil => rfl
  | cons a added ih =>
    rw [List.map_cons, List.sum_cons] at none
    have count : (t.merge a).count.toNat = 0 := by
      show (t.count.add a.count).toNat = 0
      rw [Count.toNat_add]
      omega
    show ((t.merge a).mergeAll added).mean = _
    rw [ih (by omega), mean_merge, if_pos]
    rw [← Nat.cast_add, Nat.cast_eq_zero]
    omega

/-- **The exact mean of all tallies**: all that was observed, divided by how often. -/
theorem mean_mergeAll (fits : t.count.toNat + (added.map (·.count.toNat)).sum ≤ Count.max) :
    (t.mergeAll added).mean
      = if t.count.toNat + (added.map (·.count.toNat)).sum = 0 then t.mean
        else (t.total + (added.map total).sum)
          / (t.count.toNat + (added.map (·.count.toNat)).sum : ℕ) := by
  split
  · rename_i none
    exact mean_mergeAll_of_count none
  · rename_i some
    have count : (t.mergeAll added).count.toNat
        = t.count.toNat + (added.map (·.count.toNat)).sum := by
      rw [count_mergeAll, Count.toNat_sum, List.map_map]
      exact Nat.min_eq_left fits
    rw [← total_mergeAll fits, total, count]
    exact (mul_div_cancel_right₀ _ (Nat.cast_ne_zero.2 some)).symm

end Tally

/-! ## Views -/

/-- The mean latency of a delta with the requests behind it. -/
def UsageDelta.tally (d : UsageDelta) : Tally Float :=
  ⟨d.avgLatency, d.requests⟩

namespace View

theorem tally_applyAll (v : View) (ds : List (UsageDelta × Int)) :
    (v.applyAll ds).tally = v.tally.mergeAll (ds.map (·.1.tally)) := by
  induction ds generalizing v with
  | nil => rfl
  | cons d ds ih => exact ih (v.apply d.1 d.2)

theorem totalStreams_applyAll (v : View) (ds : List (UsageDelta × Int)) :
    (v.applyAll ds).totalStreams = v.totalStreams.sum (ds.map (·.1.requests)) := by
  have count := Tally.count_mergeAll v.tally (ds.map (·.1.tally))
  rw [← tally_applyAll, List.map_map] at count
  exact count

theorem totalBytes_applyAll (v : View) (ds : List (UsageDelta × Int)) :
    (v.applyAll ds).totalBytes = v.totalBytes.sum (ds.map (·.1.bytes)) := by
  induction ds generalizing v with
  | nil => rfl
  | cons d ds ih => exact ih (v.apply d.1 d.2)

theorem totalBytesGb_applyAll (v : View) (ds : List (UsageDelta × Int)) :
    (v.applyAll ds).totalBytesGb
      = if ds = [] then v.totalBytesGb else Count.gigabytes (v.applyAll ds).totalBytes := by
  induction ds using List.reverseRecOn with
  | nil => rfl
  | append_singleton ds d _ =>
    rw [applyAll_append, if_neg (List.append_ne_nil_of_right_ne_nil _ (List.cons_ne_nil _ _))]
    rfl

/-- What deltas say nothing of stays, and the rest is counted. -/
theorem frame_applyAll (v : View) (ds : List (UsageDelta × Int)) :
    (v.applyAll ds).period = v.period ∧ (v.applyAll ds).maxDurationMs = v.maxDurationMs ∧
      (v.applyAll ds).seededAt = v.seededAt ∧
      (v.applyAll ds).deltasApplied = v.deltasApplied + ds.length ∧
      (v.applyAll ds).lastDeltaAt = (ds.getLast?.map (·.2)).or v.lastDeltaAt := by
  induction ds using List.reverseRecOn with
  | nil => exact ⟨rfl, rfl, rfl, rfl, rfl⟩
  | append_singleton ds d ih =>
    obtain ⟨period, maxDuration, seeded, applied, -⟩ := ih
    rw [applyAll_append, List.getLast?_concat, List.length_append]
    exact ⟨period, maxDuration, seeded, congrArg (· + 1) applied, rfl⟩

/-- The mean of a view with deltas merged, if no step were rounded. `value` reads the
doubles as fractions. -/
def exactMean (value : Float → ℚ) (v : View) (ds : List (UsageDelta × Int)) : ℚ :=
  ((v.tally.map value).mergeAll (ds.map fun d => d.1.tally.map value)).mean

theorem exactMean_eq (value : Float → ℚ) (v : View) (ds : List (UsageDelta × Int))
    (fits : v.totalStreams.toNat + (ds.map (·.1.requests.toNat)).sum ≤ Count.max) :
    v.exactMean value ds
      = if v.totalStreams.toNat + (ds.map (·.1.requests.toNat)).sum = 0 then value v.avgDurationMs
        else (value v.avgDurationMs * v.totalStreams.toNat
            + (ds.map fun d => value d.1.avgLatency * d.1.requests.toNat).sum)
          / (v.totalStreams.toNat + (ds.map (·.1.requests.toNat)).sum : ℕ) := by
  have counts : ((ds.map fun d => d.1.tally.map value).map (·.count.toNat)).sum
      = (ds.map (·.1.requests.toNat)).sum := by
    rw [List.map_map]
    rfl
  have totals : ((ds.map fun d => d.1.tally.map value).map Tally.total).sum
      = (ds.map fun d => value d.1.avgLatency * d.1.requests.toNat).sum := by
    rw [List.map_map]
    rfl
  rw [exactMean, Tally.mean_mergeAll (counts ▸ fits), counts, totals]
  rfl

/-- **What a view comes to** when any deltas are merged, in any order. The counts are
sums, cut off at the largest count; what a delta says nothing of stays. The mean is
computed like the exact one, which is all that was observed divided by how often, as long
as the streams fit their count. -/
theorem merges_all (v : View) (ds : List (UsageDelta × Int)) (value : Float → ℚ) :
    (v.applyAll ds).totalStreams.toNat
      = min (v.totalStreams.toNat + (ds.map (·.1.requests.toNat)).sum) (2 ^ 64 - 1) ∧
    (v.applyAll ds).totalBytes.toNat
      = min (v.totalBytes.toNat + (ds.map (·.1.bytes.toNat)).sum) (2 ^ 64 - 1) ∧
    (v.applyAll ds).totalBytesGb
      = (if ds = [] then v.totalBytesGb else Count.gigabytes (v.applyAll ds).totalBytes) ∧
    (v.applyAll ds).deltasApplied = v.deltasApplied + ds.length ∧
    (v.applyAll ds).lastDeltaAt = (ds.getLast?.map (·.2)).or v.lastDeltaAt ∧
    ((v.applyAll ds).period = v.period ∧ (v.applyAll ds).maxDurationMs = v.maxDurationMs ∧
      (v.applyAll ds).seededAt = v.seededAt) ∧
    (v.applyAll ds).tally = v.tally.mergeAll (ds.map (·.1.tally)) ∧
    (v.totalStreams.toNat + (ds.map (·.1.requests.toNat)).sum < 2 ^ 64 →
      v.exactMean value ds
        = if v.totalStreams.toNat + (ds.map (·.1.requests.toNat)).sum = 0 then
            value v.avgDurationMs
          else (value v.avgDurationMs * v.totalStreams.toNat
              + (ds.map fun d => value d.1.avgLatency * d.1.requests.toNat).sum)
            / (v.totalStreams.toNat + (ds.map (·.1.requests.toNat)).sum : ℕ)) ∧
    ∀ es, ds.Perm es →
      (v.applyAll es).totalStreams = (v.applyAll ds).totalStreams ∧
      (v.applyAll es).totalBytes = (v.applyAll ds).totalBytes ∧
      (v.applyAll es).totalBytesGb = (v.applyAll ds).totalBytesGb ∧
      (v.applyAll es).deltasApplied = (v.applyAll ds).deltasApplied ∧
      (v.totalStreams.toNat + (ds.map (·.1.requests.toNat)).sum < 2 ^ 64 →
        v.exactMean value es = v.exactMean value ds) := by
  obtain ⟨period, maxDuration, seeded, applied, last⟩ := v.frame_applyAll ds
  have mean : ∀ {ds : List (UsageDelta × Int)},
      v.totalStreams.toNat + (ds.map (·.1.requests.toNat)).sum < 2 ^ 64 → _ :=
    fun fits => v.exactMean_eq value _ (Nat.le_pred_of_lt fits)
  refine ⟨?_, ?_, v.totalBytesGb_applyAll ds, applied, last, ⟨period, maxDuration, seeded⟩,
    v.tally_applyAll ds, mean, fun es perm => ?_⟩
  · rw [totalStreams_applyAll, Count.toNat_sum, List.map_map]
    rfl
  · rw [totalBytes_applyAll, Count.toNat_sum, List.map_map]
    rfl
  · have bytes : (v.applyAll es).totalBytes = (v.applyAll ds).totalBytes := by
      rw [totalBytes_applyAll, totalBytes_applyAll, Count.sum_perm _ (perm.map _)]
    have empty : es = [] ↔ ds = [] := by
      rw [← List.length_eq_zero_iff, ← List.length_eq_zero_iff, perm.length_eq]
    refine ⟨?_, bytes, ?_, ?_, fun fits => ?_⟩
    · rw [totalStreams_applyAll, totalStreams_applyAll, Count.sum_perm _ (perm.map _)]
    · simp only [totalBytesGb_applyAll, bytes, empty]
    · rw [applied, (v.frame_applyAll es).2.2.2.1, perm.length_eq]
    · have counts := (perm.map (·.1.requests.toNat)).sum_eq
      have totals := (perm.map fun d => value d.1.avgLatency * d.1.requests.toNat).sum_eq
      rw [mean fits, mean (counts ▸ fits), ← counts, ← totals]

/-- A view of 40 streams, and four deltas, one of them without any request. -/
def forty : View :=
  .ofSnapshot
    { period := .last30Days
      totalStreams := 40
      totalBytes := 0
      totalBytesGb := 0.0
      avgDurationMs := 250.0
      maxDurationMs := 900.0 }

/-- See `forty`. -/
def four : List (UsageDelta × Int) :=
  [(⟨10, 1000, 120.0⟩, 1), (⟨0, 0, 999.0⟩, 2), (⟨35, 4096, 80.5⟩, 3), (⟨7, 12, 1500.0⟩, 4)]

theorem merges_all_four :
    forty.totalStreams.toNat + (four.map (·.1.requests.toNat)).sum < 2 ^ 64 ∧
    (forty.applyAll four).totalStreams.toNat = 92 ∧
    (forty.applyAll four).lastDeltaAt = some 4 ∧
    forty.exactMean Double.exact four
      = (250 * 40 + 120 * 10 + 161 / 2 * 35 + 1500 * 7) / 92 ∧
    forty.exactMean Double.exact four.reverse = forty.exactMean Double.exact four := by
  have fits : forty.totalStreams.toNat + (four.map (·.1.requests.toNat)).sum < 2 ^ 64 := by decide
  obtain ⟨streams, -, -, -, last, -, -, mean, any⟩ := forty.merges_all four Double.exact
  have exact : ∀ (x : Float) (m : Nat) (e : Int) (q : ℚ), Binary.ofFloat x = .finite false m e →
      (m * 2 ^ e : ℚ) = q → Double.exact x = q := by
    intro x m e q reads worth
    rw [Double.exact, reads, ← worth]
    exact one_mul _
  refine ⟨fits, streams, last, (mean fits).trans ?_, (any four.reverse ?_).2.2.2.2 fits⟩
  · rw [if_neg (by decide)]
    show (Double.exact 250.0 * (40 : ℕ) + (Double.exact 120.0 * (10 : ℕ)
      + (Double.exact 999.0 * (0 : ℕ) + (Double.exact 80.5 * (35 : ℕ)
      + (Double.exact 1500.0 * (7 : ℕ) + 0))))) / (92 : ℕ) = _
    rw [exact 250.0 8796093022208000 (-45) 250 rfl (by norm_num),
      exact 120.0 8444249301319680 (-46) 120 rfl (by norm_num),
      exact 999.0 8787296929185792 (-43) 999 rfl (by norm_num),
      exact 80.5 5664683906301952 (-46) (161 / 2) rfl (by norm_num),
      exact 1500.0 6597069766656000 (-42) 1500 rfl (by norm_num)]
    norm_num
  · exact four.reverse_perm.symm

end View

end Liveboard
