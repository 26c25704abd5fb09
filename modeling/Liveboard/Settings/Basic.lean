import Liveboard.Metrics.Period
import Liveboard.Timing.Backoff
import Liveboard.Timing.SpanText

/-!
# Settings

What a client is configured with: where the backend is, how to present
itself, and one group of settings each for the channel, the snapshots and
the log. Every setting has a default, so a client can be configured with
nothing at all; the defaults are the record that a shape begins with, and a
field that is missing keeps its own.

The spans of time stay texts here, since that is what the settings are read
from and written as. `ReconnectSettings.toPolicy` reads them, and pulls the
numbers beside them into their ranges, so that settings need not be validated
to be used.
-/

namespace Liveboard

/-! ## Reconnecting -/

/-- **How the channel reconnects**, as configured. -/
structure ReconnectSettings where
  /-- The delay before the first retry, as a text. -/
  baseDelay : String
  /-- The cap of a delay, as a text. -/
  maxDelay : String
  /-- The factor by which the delay grows with each failure. -/
  multiplier : Float
  /-- The share by which a delay may deviate. -/
  jitter : Float
  /-- The failures in a row after which the client gives up. -/
  maxFailures : Nat
  deriving Inhabited

namespace ReconnectSettings

/-- The settings where none are given. -/
def standard : ReconnectSettings where
  baseDelay := "500ms"
  maxDelay := "30s"
  multiplier := 2.0
  jitter := 0.3
  maxFailures := 8

/-- How the settings are decoded. -/
def shape : RecordShape ReconnectSettings where
  name := "ReconnectConfig"
  blank := standard
  fields := [
    ⟨"base_delay", false, fun v r => do return { r with baseDelay := ← Scalar.text v }⟩,
    ⟨"max_delay", false, fun v r => do return { r with maxDelay := ← Scalar.text v }⟩,
    ⟨"multiplier", false, fun v r => do return { r with multiplier := ← Scalar.double v }⟩,
    ⟨"jitter", false, fun v r => do return { r with jitter := ← Scalar.double v }⟩,
    ⟨"max_consecutive_failures", false,
      fun v r => do return { r with maxFailures := ← Scalar.halfWord v }⟩]

/-- The JSON value of the settings. -/
def toJson (s : ReconnectSettings) : Json :=
  .object [
    ("base_delay", .string s.baseDelay),
    ("max_delay", .string s.maxDelay),
    ("multiplier", .ofFloat s.multiplier),
    ("jitter", .ofFloat s.jitter),
    ("max_consecutive_failures", .ofNat s.maxFailures)]

/-- The greatest share by which a delay deviates. -/
def maxJitter : Float := 0.99

/-- A double moved into the range of possible shares; what is no number
stays. -/
def clampJitter (x : Float) : Float :=
  if x < 0.0 then 0.0 else if x > maxJitter then maxJitter else x

/-- A factor of at least one. -/
def atLeastOne (x : Float) : Float :=
  if x > 1.0 then x else 1.0

/-- **The policy that the settings stand for.** The delays are read in
order, and the first that cannot be read is complained about. -/
def toPolicy (s : ReconnectSettings) : Except SpanText.Complaint BackoffPolicy := do
  let base ← SpanText.parse s.baseDelay
  let cap ← SpanText.parse s.maxDelay
  return {
    baseDelay := base
    maxDelay := cap
    multiplier := atLeastOne s.multiplier
    jitter := clampJitter s.jitter
    maxFailures := max s.maxFailures 1 }

end ReconnectSettings

/-! ## Snapshots -/

/-- **How snapshots are pulled**, as configured. -/
structure SnapshotSettings where
  /-- How long a cached snapshot seeds a new engine, in seconds. -/
  freshnessSecs : Nat
  /-- The wait after a failed pull, in seconds. -/
  retrySecs : Nat
  /-- The time between forced pulls, in seconds; zero for none. -/
  refreshSecs : Nat
  /-- How long a request may take, in seconds. -/
  timeoutSecs : Nat
  /-- The number of deltas kept while a pull is under way. -/
  maxPending : Nat
  deriving DecidableEq, Inhabited

namespace SnapshotSettings

/-- The settings where none are given. -/
def standard : SnapshotSettings where
  freshnessSecs := 60
  retrySecs := 5
  refreshSecs := 0
  timeoutSecs := 10
  maxPending := 10000

/-- How the settings are decoded. -/
def shape : RecordShape SnapshotSettings where
  name := "SnapshotConfig"
  blank := standard
  fields := [
    ⟨"freshness_window_secs", false,
      fun v r => do return { r with freshnessSecs := ← Scalar.word v }⟩,
    ⟨"retry_interval_secs", false,
      fun v r => do return { r with retrySecs := ← Scalar.word v }⟩,
    ⟨"refresh_interval_secs", false,
      fun v r => do return { r with refreshSecs := ← Scalar.word v }⟩,
    ⟨"request_timeout_secs", false,
      fun v r => do return { r with timeoutSecs := ← Scalar.word v }⟩,
    ⟨"max_pending_deltas", false,
      fun v r => do return { r with maxPending := ← Scalar.size v }⟩]

/-- The JSON value of the settings. -/
def toJson (s : SnapshotSettings) : Json :=
  .object [
    ("freshness_window_secs", .ofNat s.freshnessSecs),
    ("retry_interval_secs", .ofNat s.retrySecs),
    ("refresh_interval_secs", .ofNat s.refreshSecs),
    ("request_timeout_secs", .ofNat s.timeoutSecs),
    ("max_pending_deltas", .ofNat s.maxPending)]

end SnapshotSettings

/-! ## The log -/

/-- **What is logged and how**, as configured. -/
structure LogSettings where
  /-- The filter of log records. -/
  level : String
  /-- Whether records are JSON lines. -/
  json : Bool
  /-- Whether entering and leaving a span is logged. -/
  includeSpans : Bool
  deriving DecidableEq, Inhabited

namespace LogSettings

/-- The settings where none are given. -/
def standard : LogSettings := ⟨"info", false, false⟩

/-- How the settings are decoded. -/
def shape : RecordShape LogSettings where
  name := "LoggingConfig"
  blank := standard
  fields := [
    ⟨"level", false, fun v r => do return { r with level := ← Scalar.text v }⟩,
    ⟨"json", false, fun v r => do return { r with json := ← Scalar.flag v }⟩,
    ⟨"include_spans", false, fun v r => do return { r with includeSpans := ← Scalar.flag v }⟩]

/-- The JSON value of the settings. -/
def toJson (s : LogSettings) : Json :=
  .object [
    ("level", .string s.level),
    ("json", .bool s.json),
    ("include_spans", .bool s.includeSpans)]

end LogSettings

/-! ## The whole -/

/-- **The settings of a client.** -/
structure ClientSettings where
  /-- The address of the backend's interface. -/
  baseUrl : String
  /-- The address of the push channel, where it cannot be derived. -/
  channelUrl : Option String
  /-- The token sent with every request. -/
  token : Option String
  /-- The period shown. -/
  period : Period
  /-- How the channel reconnects. -/
  reconnect : ReconnectSettings
  /-- How snapshots are pulled. -/
  snapshot : SnapshotSettings
  /-- What is logged. -/
  log : LogSettings
  deriving Inhabited

namespace ClientSettings

/-- The settings where none are given. -/
def standard : ClientSettings where
  baseUrl := "http://127.0.0.1:8000/api/v1"
  channelUrl := none
  token := none
  period := .standard
  reconnect := .standard
  snapshot := .standard
  log := .standard

/-- How the settings are decoded. -/
def shape : RecordShape ClientSettings where
  name := "ClientConfig"
  blank := standard
  fields := [
    ⟨"api_base_url", false, fun v r => do return { r with baseUrl := ← Scalar.text v }⟩,
    ⟨"channel_url", false,
      fun v r => do return { r with channelUrl := ← Scalar.optional Scalar.text v }⟩,
    ⟨"auth_token", false,
      fun v r => do return { r with token := ← Scalar.optional Scalar.text v }⟩,
    ⟨"period", false, fun v r => do return { r with period := ← Period.ofJson v }⟩,
    ⟨"reconnect", false,
      fun v r => do return { r with reconnect := ← ReconnectSettings.shape.decode v }⟩,
    ⟨"snapshot", false,
      fun v r => do return { r with snapshot := ← SnapshotSettings.shape.decode v }⟩,
    ⟨"logging", false, fun v r => do return { r with log := ← LogSettings.shape.decode v }⟩]

/-- A text that may be missing. -/
def optionalText : Option String → Json
  | some s => .string s
  | none => .null

/-- The JSON value of the settings. -/
def toJson (s : ClientSettings) : Json :=
  .object [
    ("api_base_url", .string s.baseUrl),
    ("channel_url", optionalText s.channelUrl),
    ("auth_token", optionalText s.token),
    ("period", .string s.period.name),
    ("reconnect", s.reconnect.toJson),
    ("snapshot", s.snapshot.toJson),
    ("logging", s.log.toJson)]

/-- The token, empty if there is none. -/
def tokenText (s : ClientSettings) : String :=
  s.token.getD ""

end ClientSettings

/-! ## Settings under construction -/

/-- **Settings under construction**: what was not given takes its default,
except that an address must be given. -/
structure SettingsDraft where
  /-- The address of the backend's interface. -/
  baseUrl : Option String
  /-- The address of the push channel. -/
  channelUrl : Option String
  /-- The token sent with every request. -/
  token : Option String
  /-- The period shown. -/
  period : Option Period
  /-- How the channel reconnects. -/
  reconnect : Option ReconnectSettings
  /-- How snapshots are pulled. -/
  snapshot : Option SnapshotSettings
  /-- What is logged. -/
  log : Option LogSettings

namespace SettingsDraft

/-- Nothing given yet. -/
def empty : SettingsDraft where
  baseUrl := none
  channelUrl := none
  token := none
  period := none
  reconnect := none
  snapshot := none
  log := none

/-- What is missing from a draft. -/
inductive Missing where
  /-- No address was given. -/
  | baseUrl
  deriving DecidableEq, Repr

/-- The wording of what is missing. -/
def Missing.message : Missing → String
  | .baseUrl => "api_base_url is required"

/-- **The finished settings.** -/
def finish (d : SettingsDraft) : Except Missing ClientSettings :=
  match d.baseUrl with
  | none => .error .baseUrl
  | some baseUrl => .ok {
      baseUrl := baseUrl
      channelUrl := d.channelUrl
      token := d.token
      period := d.period.getD .standard
      reconnect := d.reconnect.getD .standard
      snapshot := d.snapshot.getD .standard
      log := d.log.getD .standard }

end SettingsDraft

end Liveboard
