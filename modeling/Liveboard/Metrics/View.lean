import Liveboard.Metrics.Payload

/-!
# Snapshots and views

A snapshot is what the backend reports for a period when asked. A view is
a snapshot with every usage delta merged that came in since
(`View.apply`), and it counts them. A delta says nothing of the longest
duration, so a view keeps that of its snapshot.

What a consumer sees is the view with a status: live, or stale while it may
lag behind. A `ViewStatus` without a view is the status before the first
snapshot has landed, so that no view has to be made up for it.
-/

namespace Liveboard

/-- **The report of a period.** The mean is over exactly `totalStreams`
observations. -/
structure Snapshot where
  /-- The period reported on. -/
  period : Period
  /-- The streams of the period. -/
  totalStreams : Count
  /-- The bytes of the period. -/
  totalBytes : Count
  /-- The bytes in units of `2 ^ 30`. -/
  totalBytesGb : Float
  /-- The mean duration of a stream, in milliseconds. -/
  avgDurationMs : Float
  /-- The longest duration of a stream, in milliseconds. -/
  maxDurationMs : Float

/-- The report that a body is about: what the backend left out is derived
or zero. -/
def SnapshotBody.toSnapshot (b : SnapshotBody) (period : Period) : Snapshot where
  period := period
  totalStreams := b.totalStreams
  totalBytes := b.totalBytes
  totalBytesGb := b.totalBytesGb.getD (Count.gigabytes b.totalBytes)
  avgDurationMs := b.avgDurationMs.getD 0.0
  maxDurationMs := b.maxDurationMs.getD 0.0

/-- The JSON value of a report. -/
def Snapshot.toJson (s : Snapshot) : Json :=
  .object [
    ("period", .string s.period.name),
    ("total_streams", .int s.totalStreams.toNat),
    ("total_bytes", .int s.totalBytes.toNat),
    ("total_bytes_gb", .ofFloat s.totalBytesGb),
    ("avg_duration_ms", .ofFloat s.avgDurationMs),
    ("max_duration_ms", .ofFloat s.maxDurationMs)]

/-- **The merged figures**: the latest report and every delta since. -/
structure View where
  /-- The period reported on. -/
  period : Period
  /-- The streams so far. -/
  totalStreams : Count
  /-- The bytes so far. -/
  totalBytes : Count
  /-- The bytes in units of `2 ^ 30`. -/
  totalBytesGb : Float
  /-- The mean duration so far, in milliseconds. -/
  avgDurationMs : Float
  /-- The longest duration; deltas carry none, so only a report sets it. -/
  maxDurationMs : Float
  /-- The number of deltas merged, a whole number without a bound. It grows by
  one with an event that comes in, so no run takes it to `2 ^ 64`. -/
  deltasApplied : Nat
  /-- When the report landed, in milliseconds. -/
  seededAt : Int
  /-- When the last delta was received, in milliseconds. -/
  lastDeltaAt : Option Int

namespace View

/-- The view of a report that landed at a time and that no delta was merged
into yet. -/
def ofSnapshot (s : Snapshot) (time : Int := 0) : View where
  period := s.period
  totalStreams := s.totalStreams
  totalBytes := s.totalBytes
  totalBytesGb := s.totalBytesGb
  avgDurationMs := s.avgDurationMs
  maxDurationMs := s.maxDurationMs
  deltasApplied := 0
  seededAt := time
  lastDeltaAt := none

/-- The mean duration with the streams behind it. -/
def tally (v : View) : Tally Float := ⟨v.avgDurationMs, v.totalStreams⟩

/-- **The view with one more delta merged.** -/
def apply (v : View) (d : UsageDelta) (time : Int) : View :=
  let merged := v.tally.merge ⟨d.avgLatency, d.requests⟩
  let bytes := v.totalBytes.add d.bytes
  { v with
    avgDurationMs := merged.mean
    totalStreams := merged.count
    totalBytes := bytes
    totalBytesGb := Count.gigabytes bytes
    deltasApplied := v.deltasApplied + 1
    lastDeltaAt := some time }

/-- The view with a list of deltas merged, in their order. -/
def applyAll (v : View) (deltas : List (UsageDelta × Int)) : View :=
  deltas.foldl (fun v (d, time) => v.apply d time) v

/-- Whether the figures equal those of a report. Doubles are compared as
numbers, so what is no number equals nothing. -/
def agrees (v : View) (s : Snapshot) : Bool :=
  v.period == s.period && v.totalStreams == s.totalStreams && v.totalBytes == s.totalBytes
    && v.totalBytesGb == s.totalBytesGb && v.avgDurationMs == s.avgDurationMs
    && v.maxDurationMs == s.maxDurationMs

@[simp] theorem applyAll_nil (v : View) : v.applyAll [] = v := rfl

@[simp] theorem applyAll_cons (v : View) (d : UsageDelta × Int) (ds : List (UsageDelta × Int)) :
    v.applyAll (d :: ds) = (v.apply d.1 d.2).applyAll ds := rfl

/-- Merging two lists is merging one after the other. -/
theorem applyAll_append (v : View) (ds es : List (UsageDelta × Int)) :
    v.applyAll (ds ++ es) = (v.applyAll ds).applyAll es := by
  simp [applyAll, List.foldl_append]

end View

/-- **What a consumer sees.** -/
inductive ViewStatus where
  /-- No report has come in yet. -/
  | loading
  /-- The view is kept up to date. -/
  | live (view : View)
  /-- The last good view, which may lag behind. -/
  | stale (view : View)

namespace ViewStatus

/-- The view, if there is one. -/
def view? : ViewStatus → Option View
  | .loading => none
  | .live v => some v
  | .stale v => some v

/-- Whether no report has come in yet. -/
def isLoading : ViewStatus → Bool
  | .loading => true
  | _ => false

/-- Whether the view is kept up to date. -/
def isLive : ViewStatus → Bool
  | .live _ => true
  | _ => false

/-- The name of the status. -/
def name : ViewStatus → String
  | .loading => "loading"
  | .live _ => "live"
  | .stale _ => "stale"

end ViewStatus

end Liveboard
