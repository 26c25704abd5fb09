import Liveboard.Channel.State
import Liveboard.Metrics.Period

/-!
# Meters

What the client counts about itself: counters that only grow, gauges that
hold the last value set, and a histogram of which only the number of its
records matters here. A meter goes by its name and its labels
(`Meter.key`), and a `MeterChange` is one count or one setting. Operations
that run at once return their changes, and the board makes them.
-/

namespace Liveboard

/-- **A meter with its labels.** -/
inductive Meter where
  /-- The state of the channel, as a number. -/
  | channelState
  /-- The attempts to reconnect. -/
  | reconnectAttempts
  /-- The events of a type. -/
  | messages (type : String)
  /-- The frames and payloads dropped, by where they were dropped. -/
  | decodeErrors (source : String)
  /-- The deltas merged into a view. -/
  | deltasApplied
  /-- The deltas held back. -/
  | deltasBuffered
  /-- The forced pulls. -/
  | resyncs
  /-- The pulls of a period by their result. -/
  | fetches (period : Period) (succeeded : Bool)
  /-- The durations of the pulls of a period. -/
  | fetchDuration (period : Period)
  deriving DecidableEq, Repr

namespace Meter

/-- The name of a meter without its labels. -/
def name : Meter → String
  | .channelState => "axon_dash_channel_state"
  | .reconnectAttempts => "axon_dash_channel_reconnect_attempts_total"
  | .messages _ => "axon_dash_channel_messages_total"
  | .decodeErrors _ => "axon_dash_decode_errors_total"
  | .deltasApplied => "axon_dash_deltas_applied_total"
  | .deltasBuffered => "axon_dash_deltas_buffered"
  | .resyncs => "axon_dash_resyncs_total"
  | .fetches .. => "axon_dash_snapshot_fetches_total"
  | .fetchDuration _ => "axon_dash_snapshot_fetch_duration_seconds"

/-- The labels of a meter, sorted. -/
def labels : Meter → List (String × String)
  | .messages type => [("type", type)]
  | .decodeErrors source => [("source", source)]
  | .fetches period succeeded =>
    [("period", period.name), ("result", if succeeded then "ok" else "error")]
  | .fetchDuration period => [("period", period.name)]
  | _ => []

/-- **The name a meter goes by**, with its labels. -/
def key (m : Meter) : String :=
  match m.labels with
  | [] => m.name
  | labels =>
    m.name ++ "\x7b" ++ ",".intercalate (labels.map fun (k, v) => k ++ "=" ++ v) ++ "\x7d"

end Meter

/-- **A change of a meter.** -/
inductive MeterChange where
  /-- One more of what is counted, or one more record. -/
  | count (meter : Meter)
  /-- The value of a gauge. -/
  | set (meter : Meter) (value : Nat)
  deriving DecidableEq, Repr

/-- **The readings of the meters touched so far.** -/
structure Meters where
  /-- The readings by meter. -/
  readings : List (Meter × Nat)

namespace Meters

/-- No meter touched yet. -/
def empty : Meters := ⟨[]⟩

/-- The reading of a meter; zero if it was not touched. -/
def reading (ms : Meters) (m : Meter) : Nat :=
  (ms.readings.lookup m).getD 0

/-- The readings with one meter set. -/
def set (ms : Meters) (m : Meter) (value : Nat) : Meters :=
  ⟨(m, value) :: ms.readings.filter (·.1 ≠ m)⟩

/-- The readings after a change. -/
def record (ms : Meters) : MeterChange → Meters
  | .count m => ms.set m (ms.reading m + 1)
  | .set m value => ms.set m value

/-- A meter that was set reads what it was set to. -/
@[simp] theorem reading_set_self (ms : Meters) (m : Meter) (value : Nat) :
    (ms.set m value).reading m = value := by
  simp [reading, set]

end Meters

end Liveboard
