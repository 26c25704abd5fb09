import Liveboard.Channel.Socket
import Liveboard.Decimal.Layout
import Liveboard.Simulation.Session
import Liveboard.Url.Channel

/-!
# Following the usage

The lines that are shown while usage is followed: one for each change of
the view, of the channel and of the reading of an API. Where no connection
can be had, the channel tries again and again until someone interrupts; a
`Vigil` is what such a wait depends on, and `Vigil.lines` are the lines up
to the interruption, found by running a session that nothing can reach.
-/

namespace Liveboard

/-- The line of a view with what it is marked by. -/
def View.line (marker : String) (v : View) : String :=
  marker ++ s!" [{v.period.name}] streams={v.totalStreams.toNat}"
    ++ s!" data={fixedPlaces 3 v.totalBytesGb} GB avg={fixedPlaces 1 v.avgDurationMs}ms"
    ++ s!" max={fixedPlaces 1 v.maxDurationMs}ms deltas={v.deltasApplied}"

/-- **The line of what consumers see.** -/
def ViewStatus.line : ViewStatus → String
  | .loading => "⏳ Loading snapshot..."
  | .live v => v.line "🟢 live "
  | .stale v => v.line "🟡 stale"

/-- **The line of a state of the channel.** -/
def ChannelState.line (s : ChannelState) : String :=
  "📡 Channel " ++ s.name

/-- **The line of a reading.** -/
def ApiReading.line (r : ApiReading) : String :=
  let m := r.update.metrics
  s!"🔎 {r.update.apiName} ({r.update.apiId}) today={m.requestsToday.toNat}"
    ++ s!" hour={m.requestsHour.toNat} success={fixedPlaces 1 m.successRate}%"
    ++ s!" avg={fixedPlaces 1 m.avgLatencyMs}ms p95={fixedPlaces 1 m.p95LatencyMs}ms"
    ++ s!" errors={m.errorCount.toNat}"

/-- **Following usage where there is no network.** -/
structure Vigil where
  /-- The address of the channel. -/
  url : String
  /-- The token. -/
  token : String
  /-- How reconnects are spaced. -/
  policy : BackoffPolicy
  /-- The period followed. -/
  period : Period
  /-- The API followed. -/
  api : Option String
  /-- How the engine is set up. -/
  settings : EngineSettings
  /-- Why no connection can be had. -/
  reason : String
  /-- After how many milliseconds someone interrupts. -/
  patience : Nat

namespace Vigil

/-- What an attempt to open the channel brings. -/
def attempt (v : Vigil) : Except ChannelError Unit :=
  (SocketRequest.make v.url v.token).bind fun r => r.attempt (.failed v.reason)

/-- A transport that nothing can be reached by; the first attempt fails
with the error of an attempt. -/
def transport (v : Vigil) : Transport :=
  match v.attempt with
  | .error e => { Transport.manual with failures := [e], offline := true }
  | .ok () => { Transport.manual with offline := true }

/-- The states that were noted. -/
def states (journal : List JournalEntry) : List ChannelState :=
  journal.filterMap fun
    | .state _ s => some s
    | .event .. => none

/-- The name of the engine, of its source and of its cache. -/
def main : String := "main"

/-- What consumers of the engine see. -/
def published (s : Session) : ViewStatus :=
  match s.world.board.stations.head? with
  | some station => station.engine.published
  | none => .loading

/-- **The lines shown, and the complaint** about a channel that is not tried
again. -/
def lines (v : Vigil) : List String × List String :=
  let s := Session.start v.policy v.transport true
  let (answer, s) := Session.take (.connect v.token) s
  let complaint := match answer with
    | .failure e => ["❌ Live updates unavailable: " ++ e.message]
    | _ => []
  let (_, s) := s.takeJournal
  let s := s.startEngine main ⟨v.period, v.settings, ⟨main, false⟩, main⟩
  let s := match v.api with
    | some api => s.startWatcher main api
    | none => s
  let first := (published s).line
  let (_, s) := Session.take (.group []) s
  let (_, s) := Session.take (.advance v.patience) s
  let (journal, _) := s.takeJournal
  (("🚀 Connecting to " ++ v.url) :: first :: (states journal).map ChannelState.line ++ ["👋 Bye"],
    complaint)

end Vigil

end Liveboard
