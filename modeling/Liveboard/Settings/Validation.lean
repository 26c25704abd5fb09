import Liveboard.Settings.Basic
import Liveboard.Settings.Filter
import Liveboard.Text.Blank
import Liveboard.Url.Basic

/-!
# Validating settings

Settings can be decoded and still make no sense. All that is wrong with
them is reported at once, in a fixed order: first the addresses and the
token, then the reconnecting, the snapshots and the log.

Three of the questions are not about settings: whether a text is an address, a
span of time, or a filter of log records. How they are answered is a parameter
of the validation (`SettingsReaders`), so that what it does with the answers
can be said of any of them. Addresses and spans have readers in this library,
and `SettingsReaders.standard` takes these. Of filters it knows only the usual
form (`LogFilter.isPlain`), and leaves it to others to say more.
-/

namespace Liveboard

/-- **How the texts in settings are read.** Which texts are addresses, spans of
time and filters is settled by standards that are not about these settings. -/
structure SettingsReaders where
  /-- Reads an address, or says what is wrong with it. -/
  url : String → Except String Url
  /-- Reads a span of time, or says what is wrong with it. -/
  span : String → Except String Span
  /-- Whether a text is a filter of log records. -/
  isFilter : String → Bool

/-- **The readers for addresses and spans of this library.** What a filter is
may be said by others. -/
def SettingsReaders.standard (isFilter : String → Bool := LogFilter.isPlain) :
    SettingsReaders where
  url text := (Url.parse text).mapError UrlFault.message
  span text := (SpanText.parse text).mapError SpanText.Complaint.message
  isFilter := isFilter

namespace SettingsReaders

variable {isFilter : String → Bool} {text : String}

/-- What is read stays so, whatever is said of the rest. -/
theorem mapError_eq_ok_iff {ε α : Type} {read : Except ε α} {message : ε → String} {a : α} :
    read.mapError message = .ok a ↔ read = .ok a := by
  cases read with
  | ok b =>
    show Except.ok b = .ok a ↔ _
    rw [Except.ok.injEq, Except.ok.injEq]
  | error e => exact iff_of_false nofun nofun

theorem url_standard_eq_ok_iff {url : Url} :
    (standard isFilter).url text = .ok url ↔ Url.parse text = .ok url :=
  mapError_eq_ok_iff

theorem span_standard_eq_ok_iff {span : Span} :
    (standard isFilter).span text = .ok span ↔ SpanText.parse text = .ok span :=
  mapError_eq_ok_iff

end SettingsReaders

/-- **What can be wrong with an address.** -/
inductive AddressFault where
  /-- It is no address. -/
  | invalid (complaint : String)
  /-- Its scheme is none of those asked for. -/
  | scheme (found : String)
  /-- It names no host. -/
  | noHost
  deriving DecidableEq, Repr

/-- The two delays of the reconnecting. -/
inductive DelayName where
  /-- The delay before the first retry. -/
  | base
  /-- The cap. -/
  | max
  deriving DecidableEq, Repr

/-- Where a delay is set. -/
def DelayName.field : DelayName → String
  | .base => "reconnect.base_delay"
  | .max => "reconnect.max_delay"

/-- **What can be wrong with settings.** -/
inductive SettingsIssue where
  /-- There is no address of the backend. -/
  | noBaseUrl
  /-- The address of the backend is no good. -/
  | baseUrl (fault : AddressFault)
  /-- The address of the channel is no good. -/
  | channelUrl (fault : AddressFault)
  /-- A token is set, but blank. -/
  | blankToken
  /-- A delay is no span of time. -/
  | delay (which : DelayName) (text complaint : String)
  /-- The delay before the first retry is nothing. -/
  | zeroBaseDelay
  /-- The cap is smaller than the delay before the first retry, which is
  written as `base`. -/
  | capTooSmall (base : String)
  /-- The factor would shrink the delay. -/
  | multiplier (found : Float)
  /-- The deviation is no share of the delay. -/
  | jitter (found : Float)
  /-- The client would give up before the first failure. -/
  | zeroFailures
  /-- No wait after a failed pull. -/
  | zeroRetry
  /-- No time for a request. -/
  | zeroTimeout
  /-- No room for deltas. -/
  | zeroPending
  /-- The filter of log records is none. -/
  | level (found : String)

namespace SettingsIssue

/-- The wording for a field that is no good. -/
def onField (field complaint : String) : String :=
  s!"Invalid field '{field}': {complaint}"

/-- The wording for a number that must not be zero. -/
def mustBePositive : String := "Must be greater than 0"

/-- **The wording of an issue.** -/
def message : SettingsIssue → String
  | .noBaseUrl => "Missing required field: api_base_url"
  | .baseUrl (.invalid complaint) => onField "api_base_url" s!"Invalid URL format: {complaint}"
  | .baseUrl (.scheme found) =>
    onField "api_base_url" s!"URL scheme must be 'http' or 'https', got '{found}'"
  | .baseUrl .noHost => onField "api_base_url" "URL must have a valid host"
  | .channelUrl (.invalid complaint) =>
    onField "channel_url" s!"Invalid WebSocket URL format: {complaint}"
  | .channelUrl (.scheme found) =>
    onField "channel_url" s!"WebSocket URL scheme must be 'ws' or 'wss', got '{found}'"
  | .channelUrl .noHost => onField "channel_url" "WebSocket URL must have a valid host"
  | .blankToken => onField "auth_token" "Cannot be blank when set"
  | .delay which text complaint =>
    onField which.field s!"'{text}' is not a valid duration: {complaint}"
  | .zeroBaseDelay => onField DelayName.base.field mustBePositive
  | .capTooSmall base =>
    onField DelayName.max.field s!"Must not be smaller than base_delay ({base})"
  | .multiplier found =>
    onField "reconnect.multiplier" s!"Must be at least 1.0, got {FloatLayout.prose.render found}"
  | .jitter found =>
    onField "reconnect.jitter" s!"Must be in [0, 1), got {FloatLayout.prose.render found}"
  | .zeroFailures => onField "reconnect.max_consecutive_failures" mustBePositive
  | .zeroRetry => onField "snapshot.retry_interval_secs" mustBePositive
  | .zeroTimeout => onField "snapshot.request_timeout_secs" mustBePositive
  | .zeroPending => onField "snapshot.max_pending_deltas" mustBePositive
  | .level found => onField "logging.level" s!"'{found}' is not a valid filter directive"

end SettingsIssue

variable (readers : SettingsReaders)

/-- What is wrong with an address whose scheme must be one of `schemes`. -/
def addressFault? (schemes : List String) (s : String) : Option AddressFault :=
  match readers.url s with
  | .error complaint => some (.invalid complaint)
  | .ok url =>
    if !schemes.contains url.scheme then some (.scheme url.scheme)
    else if url.host.isNone then some .noHost
    else none

/-- An issue if a condition holds. -/
def issueIf (condition : Bool) (issue : SettingsIssue) : List SettingsIssue :=
  if condition then [issue] else []

namespace ReconnectSettings

/-- What is wrong with a delay. -/
def delayIssues (which : DelayName) (text : String) : List SettingsIssue :=
  match readers.span text with
  | .ok _ => []
  | .error complaint => [.delay which text complaint]

/-- What is wrong with the sizes of the delays that could be read. -/
def delaySizeIssues (s : ReconnectSettings) : List SettingsIssue :=
  match readers.span s.baseDelay with
  | .error _ => []
  | .ok base =>
    issueIf (base.nanos = 0) .zeroBaseDelay ++
      match readers.span s.maxDelay with
      | .error _ => []
      | .ok cap => issueIf (cap.nanos < base.nanos) (.capTooSmall s.baseDelay)

/-- Whether a number can be the factor of the delays. -/
def isFactor (x : Float) : Bool :=
  BackoffPolicy.isFiniteNumber x && 1.0 ≤ x

/-- Whether a number can be a share of a delay. -/
def isShare (x : Float) : Bool :=
  0.0 ≤ x && x < 1.0

/-- **What is wrong with the reconnecting.** -/
def issues (s : ReconnectSettings) : List SettingsIssue :=
  delayIssues readers .base s.baseDelay ++ delayIssues readers .max s.maxDelay
    ++ delaySizeIssues readers s
    ++ issueIf (!isFactor s.multiplier) (.multiplier s.multiplier)
    ++ issueIf (!isShare s.jitter) (.jitter s.jitter)
    ++ issueIf (s.maxFailures = 0) .zeroFailures

end ReconnectSettings

/-- **What is wrong with the snapshots.** -/
def SnapshotSettings.issues (s : SnapshotSettings) : List SettingsIssue :=
  issueIf (s.retrySecs = 0) .zeroRetry ++ issueIf (s.timeoutSecs = 0) .zeroTimeout
    ++ issueIf (s.maxPending = 0) .zeroPending

/-- **What is wrong with the log.** -/
def LogSettings.issues (s : LogSettings) : List SettingsIssue :=
  issueIf (!readers.isFilter s.level) (.level s.level)

/-- Why settings are not valid: what is wrong with them, in order. -/
structure Invalid where
  /-- What is wrong. -/
  issues : List SettingsIssue

namespace Invalid

/-- One line of a list of issues. -/
def line (number : Nat) (issue : SettingsIssue) : String :=
  s!"  {number}. {issue.message}\n"

/-- The lines of a list of issues, numbered. -/
def lines (number : Nat) : List SettingsIssue → String
  | [] => ""
  | issue :: rest => line number issue ++ lines (number + 1) rest

/-- The wording of some issues: of one issue, its own; of several, a
numbered list. -/
def summary : List SettingsIssue → String
  | [] => "No errors"
  | [issue] => issue.message
  | issues => s!"Found {issues.length} validation errors:\n" ++ lines 1 issues

/-- **The wording of the verdict.** -/
def message (i : Invalid) : String :=
  "Validation failed: " ++ summary i.issues

end Invalid

namespace ClientSettings

/-- What is wrong with the address of the backend. -/
def baseUrlIssues (s : ClientSettings) : List SettingsIssue :=
  if Blank.isBlankText s.baseUrl then [.noBaseUrl]
  else ((addressFault? readers ["http", "https"] s.baseUrl).map SettingsIssue.baseUrl).toList

/-- What is wrong with the address of the channel, if it is set. -/
def channelUrlIssues (s : ClientSettings) : List SettingsIssue :=
  ((s.channelUrl.bind (addressFault? readers ["ws", "wss"])).map SettingsIssue.channelUrl).toList

/-- What is wrong with the token, if it is set. -/
def tokenIssues (s : ClientSettings) : List SettingsIssue :=
  issueIf (s.token.any Blank.isBlankText) .blankToken

/-- **All that is wrong with some settings**, in order. -/
def issues (s : ClientSettings) : List SettingsIssue :=
  baseUrlIssues readers s ++ channelUrlIssues readers s ++ s.tokenIssues
    ++ ReconnectSettings.issues readers s.reconnect ++ s.snapshot.issues
    ++ LogSettings.issues readers s.log

/-- **The verdict on some settings**, with the texts in them read as the readers
say. -/
def validate (s : ClientSettings) (readers : SettingsReaders := .standard) : Except Invalid Unit :=
  match issues readers s with
  | [] => .ok ()
  | issues => .error ⟨issues⟩

end ClientSettings

end Liveboard
