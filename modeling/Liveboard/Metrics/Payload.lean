import Liveboard.Metrics.Period
import Liveboard.Metrics.Mean

/-!
# Payloads

The records that the backend sends: the usage of all streams since the last
event, the metrics of one API alone and in an event, and the body of a
snapshot.

Each is described by a `shape`: the fields in their order, what each is read
as, and what stands for one that is missing. The shape decodes a record, and
an encoding with every field in it (`toJson`) writes it, so that a decoded
record can be passed on. A shape says which fields may be missing: of the
metrics of an API all may, and of a delta none. The shape of an event about
an API reads the metrics in it by theirs.
-/

namespace Liveboard

/-! ## Usage since the last event -/

/-- **The usage of all streams since the last event.** -/
structure UsageDelta where
  /-- The requests observed. -/
  requests : Count
  /-- The bytes sent. -/
  bytes : Count
  /-- The mean latency of these requests, in milliseconds. -/
  avgLatency : Float

namespace UsageDelta

/-- How a delta is decoded. -/
def shape : RecordShape UsageDelta where
  name := "GlobalDelta"
  blank := ⟨0, 0, 0.0⟩
  fields := [
    ⟨"requests", true, fun v r => do return { r with requests := ← Scalar.count v }⟩,
    ⟨"bytes", true, fun v r => do return { r with bytes := ← Scalar.count v }⟩,
    ⟨"avg_latency", true, fun v r => do return { r with avgLatency := ← Scalar.measure v }⟩]

/-- The delta of a JSON value. -/
def ofJson : Json → Except Fault UsageDelta :=
  shape.decode

/-- The JSON value of a delta. -/
def toJson (d : UsageDelta) : Json :=
  Json.ofMembers [
    ("requests", .int d.requests.toNat),
    ("bytes", .int d.bytes.toNat),
    ("avg_latency", .ofFloat d.avgLatency)]

end UsageDelta

/-! ## The metrics of one API -/

/-- **The current metrics of one API.** -/
structure ApiMetrics where
  /-- The requests of this day. -/
  requestsToday : Count
  /-- The requests of this hour. -/
  requestsHour : Count
  /-- The share of requests that succeed, in percent. -/
  successRate : Float
  /-- The mean latency, in milliseconds. -/
  avgLatencyMs : Float
  /-- The latency that 95 of 100 requests stay below, in milliseconds. -/
  p95LatencyMs : Float
  /-- The requests that failed. -/
  errorCount : Count
  /-- When the last request came, as the backend writes it. -/
  lastRequestAt : Option String

namespace ApiMetrics

/-- Metrics of which nothing is known. -/
def blank : ApiMetrics where
  requestsToday := 0
  requestsHour := 0
  successRate := 0.0
  avgLatencyMs := 0.0
  p95LatencyMs := 0.0
  errorCount := 0
  lastRequestAt := none

/-- How metrics are decoded: every field may be missing. -/
def shape : RecordShape ApiMetrics where
  name := "ApiMetrics"
  blank := blank
  fields := [
    ⟨"requests_today", false,
      fun v r => do return { r with requestsToday := ← Scalar.count v }⟩,
    ⟨"requests_hour", false,
      fun v r => do return { r with requestsHour := ← Scalar.count v }⟩,
    ⟨"success_rate", false,
      fun v r => do return { r with successRate := ← Scalar.double v }⟩,
    ⟨"avg_latency_ms", false,
      fun v r => do return { r with avgLatencyMs := ← Scalar.double v }⟩,
    ⟨"p95_latency_ms", false,
      fun v r => do return { r with p95LatencyMs := ← Scalar.double v }⟩,
    ⟨"error_count", false,
      fun v r => do return { r with errorCount := ← Scalar.count v }⟩,
    ⟨"last_request_at", false,
      fun v r => do return { r with lastRequestAt := ← Scalar.optional Scalar.text v }⟩]

/-- The metrics of a JSON value. -/
def ofJson : Json → Except Fault ApiMetrics :=
  shape.decode

/-- The JSON value of metrics. -/
def toJson (m : ApiMetrics) : Json :=
  Json.ofMembers [
    ("requests_today", .int m.requestsToday.toNat),
    ("requests_hour", .int m.requestsHour.toNat),
    ("success_rate", .ofFloat m.successRate),
    ("avg_latency_ms", .ofFloat m.avgLatencyMs),
    ("p95_latency_ms", .ofFloat m.p95LatencyMs),
    ("error_count", .int m.errorCount.toNat),
    ("last_request_at", match m.lastRequestAt with
      | some s => .string s
      | none => .null)]

end ApiMetrics

/-- **An event about one API.** -/
structure ApiUpdate where
  /-- The API the event is about. -/
  apiId : String
  /-- Its name for the reader. -/
  apiName : String
  /-- Its metrics. -/
  metrics : ApiMetrics

namespace ApiUpdate

/-- How an update is decoded. -/
def shape : RecordShape ApiUpdate where
  name := "ApiMetricsUpdate"
  blank := ⟨"", "", .blank⟩
  fields := [
    ⟨"api_id", true, fun v r => do return { r with apiId := ← Scalar.text v }⟩,
    ⟨"api_name", false, fun v r => do return { r with apiName := ← Scalar.text v }⟩,
    ⟨"metrics", true, fun v r => do return { r with metrics := ← ApiMetrics.ofJson v }⟩]

/-- The update of a JSON value. -/
def ofJson : Json → Except Fault ApiUpdate :=
  shape.decode

/-- The JSON value of an update. -/
def toJson (u : ApiUpdate) : Json :=
  Json.ofMembers [
    ("api_id", .string u.apiId),
    ("api_name", .string u.apiName),
    ("metrics", u.metrics.toJson)]

end ApiUpdate

/-! ## The body of a snapshot -/

/-- **The body of a snapshot**, as the backend sends it. -/
structure SnapshotBody where
  /-- The streams of the period. -/
  totalStreams : Count
  /-- The bytes of the period. -/
  totalBytes : Count
  /-- The bytes in units of `2 ^ 30`, if the backend computed them. -/
  totalBytesGb : Option Float
  /-- The mean duration of a stream, in milliseconds. -/
  avgDurationMs : Option Float
  /-- The longest duration of a stream, in milliseconds. -/
  maxDurationMs : Option Float

namespace SnapshotBody

/-- A body of which nothing is known. -/
def blank : SnapshotBody where
  totalStreams := 0
  totalBytes := 0
  totalBytesGb := none
  avgDurationMs := none
  maxDurationMs := none

/-- How a body is decoded. -/
def shape : RecordShape SnapshotBody where
  name := "SnapshotPayload"
  blank := blank
  fields := [
    ⟨"total_streams", true, fun v r => do return { r with totalStreams := ← Scalar.count v }⟩,
    ⟨"total_bytes", true, fun v r => do return { r with totalBytes := ← Scalar.count v }⟩,
    ⟨"total_bytes_gb", false,
      fun v r => do return { r with totalBytesGb := ← Scalar.optional Scalar.double v }⟩,
    ⟨"avg_duration_ms", false,
      fun v r => do return { r with avgDurationMs := ← Scalar.optional Scalar.double v }⟩,
    ⟨"max_duration_ms", false,
      fun v r => do return { r with maxDurationMs := ← Scalar.optional Scalar.double v }⟩]

/-- The body of a JSON value. -/
def ofJson : Json → Except Fault SnapshotBody :=
  shape.decode

/-- A number that may be missing. -/
def optionalFloat : Option Float → Json
  | some x => .ofFloat x
  | none => .null

/-- The JSON value of a body. -/
def toJson (b : SnapshotBody) : Json :=
  Json.ofMembers [
    ("total_streams", .int b.totalStreams.toNat),
    ("total_bytes", .int b.totalBytes.toNat),
    ("total_bytes_gb", optionalFloat b.totalBytesGb),
    ("avg_duration_ms", optionalFloat b.avgDurationMs),
    ("max_duration_ms", optionalFloat b.maxDurationMs)]

end SnapshotBody

end Liveboard
