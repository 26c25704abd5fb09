import Liveboard.Command.Arguments
import Liveboard.Command.Folder
import Liveboard.Command.Watch
import Liveboard.Fetch.Api
import Liveboard.Json.Writing
import Liveboard.Settings.Logging
import Liveboard.Settings.Validation

/-!
# Running commands

A command runs in `Surroundings`: the files and variables that it finds, and
what comes of the requests that it makes. What it does is a `Report`: the
lines that it shows, the code that it ends with, and the folder that it
leaves. `runWords` is the whole of it, from the words of the command line;
nothing of it acts, so two runs in the same surroundings are the same.
-/

namespace Liveboard

/-- **Where a command runs.** -/
structure Surroundings where
  /-- The files. -/
  folder : Folder
  /-- The variables of the environment. -/
  environment : List Variable
  /-- What comes of a request. -/
  exchange : HttpRequest → Outcome
  /-- Why no connection of the channel can be had. -/
  reason : String
  /-- After how many milliseconds someone interrupts. -/
  patience : Nat

/-- **What a command does.** -/
structure Report where
  /-- The code that it ends with. -/
  code : Nat
  /-- The lines that it shows. -/
  out : List String
  /-- The lines of its complaints. -/
  err : List String
  /-- The folder that it leaves. -/
  folder : Folder

namespace Surroundings

/-- Surroundings without a network. -/
def offline (folder : Folder) (environment : List Variable) (patience : Nat) : Surroundings where
  folder := folder
  environment := environment
  exchange := fun _ => .unanswered
  reason := "IO error: Network is unreachable (os error 101)"
  patience := patience

/-- The report of a command that has done its work. -/
def success (h : Surroundings) (out : List String) : Report := ⟨0, out, [], h.folder⟩

/-- The report of a command that has failed. -/
def failure (h : Surroundings) (out err : List String) : Report := ⟨1, out, err, h.folder⟩

/-- The report of an error. -/
def error (h : Surroundings) (message : String) : Report := h.failure [] ["Error: " ++ message]

/-- The settings, from a file if one is named. -/
def settings (h : Surroundings) (config : Option String) : Except LoadFault ClientSettings :=
  ClientSettings.load (config.map h.folder.settings) h.environment

/-- The lines of a text. -/
def linesOf (s : String) : List String := s.splitOn "\n"

/-! ## Showing things -/

/-- **Shows the snapshot of a period.** -/
def showSnapshot (h : Surroundings) (s : ClientSettings) (period : Period) : Report :=
  let result := (SnapshotCall.request (.ofSettings s) period).bind fun r =>
    SnapshotCall.result r period (h.exchange r)
  match result with
  | .ok snapshot => h.success (linesOf snapshot.toJson.indented)
  | .error _ => h.error s!"Failed to fetch {period.name} snapshot"

/-- The call that an action makes, or why it makes none. -/
def queueCall (h : Surroundings) : QueueAction → Except String QueueCall
  | .list => .ok .list
  | .active => .ok .active
  | .config => .ok .config
  | .cancel id => .ok (.cancel id)
  | .setConfig file =>
    match h.folder.text? file with
    | none => .error s!"Failed to read {file}"
    | some text =>
      match Json.ofText? text with
      | some config => .ok (.updateConfig config)
      | none => .error s!"{file} is not valid JSON"

/-- The lines that a call on the queues ends with. -/
def queueLines : QueueCall → Option Json → List String
  | .cancel id, _ => [s!"✅ Cancelled request {id}"]
  | _, body => linesOf (body.getD .null).indented

/-- **Does something about the queues.** -/
def runQueues (h : Surroundings) (s : ClientSettings) (action : QueueAction) : Report :=
  match h.queueCall action with
  | .error message => h.error message
  | .ok call =>
    let result := (call.request (.ofSettings s)).bind fun r => call.result r (h.exchange r)
    match result with
    | .ok body => h.success (queueLines call body)
    | .error e => h.error e.message

/-- **Follows the usage** until someone interrupts. -/
def watch (h : Surroundings) (s : ClientSettings) (period : Period) (api : Option String) :
    Report :=
  match s.resolvedChannelUrl, s.reconnect.toPolicy with
  | .error fault, _ => h.error fault.message
  | .ok _, .error _ => h.error "Invalid reconnect settings"
  | .ok url, .ok policy =>
    let (out, err) := Vigil.lines {
      url := url
      token := s.tokenText
      policy := policy
      period := period
      api := api
      settings := s.snapshot.toEngine
      reason := h.reason
      patience := h.patience }
    ⟨0, out, err, h.folder⟩

/-! ## Checking settings -/

/-- What is often wrong with settings. -/
def commonFixes : List String := [
  "",
  "💡 Common fixes:",
  "   • Ensure api_base_url starts with http:// or https://",
  "   • Ensure channel_url starts with ws:// or wss://",
  "   • Use humantime durations for delays (e.g. '500ms', '30s')",
  "   • Keep jitter between 0.0 and 1.0"]

/-- What settings say. -/
def summary (s : ClientSettings) (channelUrl : String) : List String :=
  let r := s.reconnect
  let multiplier := FloatLayout.prose.render r.multiplier
  let jitter := fixedPlaces 0 (r.jitter * 100.0)
  [ "✅ Configuration validation: OK",
    "",
    "📋 Configuration Summary:",
    s!"   • API Base URL: {s.baseUrl}",
    s!"   • Channel URL: {channelUrl}",
    s!"   • Period: {s.period.name}",
    "   • Auth Token: " ++ (if s.tokenText = "" then "not set" else "set"),
    s!"   • Reconnect: {r.baseDelay} → {r.maxDelay} (x{multiplier}, ±{jitter}%), "
      ++ s!"give up after {r.maxFailures} failures",
    "",
    "🎉 Configuration is valid and ready to use!"]

/-- What is checked. -/
def subject : Option String → String
  | some path => s!"🔍 Validating configuration file: {path}"
  | none => "🔍 Validating configuration from environment"

/-- **Checks the settings.** -/
def validate (h : Surroundings) (config : Option String) : Report :=
  let first := subject config
  match config.filter (!h.folder.contains ·) with
  | some path =>
    h.failure [first] [s!"❌ Error: Configuration file '{path}' not found"]
  | none =>
    match h.settings config with
    | .error fault =>
      h.failure [first] ["❌ Configuration parsing failed:", "   " ++ fault.message]
    | .ok s =>
      let parsed := [first, "✅ Configuration parsing: OK"]
      match s.validate, s.resolvedChannelUrl with
      | .error invalid, _ =>
        h.failure (parsed ++ commonFixes)
          ("❌ Configuration validation failed:" :: linesOf invalid.message)
      | .ok _, .error fault =>
        h.failure parsed ["Error: Cannot derive channel URL: " ++ fault.message]
      | .ok _, .ok url => h.success (parsed ++ summary s url)

/-! ## Writing settings -/

/-- The lines of a new file of settings. -/
def newSettings : List String := [
  "# Axon Dash Configuration",
  "",
  "# Dashboard REST API",
  "api_base_url = \"http://127.0.0.1:8000/api/v1\"",
  "",
  "# Push channel, derived from api_base_url when omitted",
  "# channel_url = \"ws://127.0.0.1:8000/api/v1/ws\"",
  "",
  "# Bearer token, or set AXON_DASH__AUTH_TOKEN",
  "# auth_token = \"\"",
  "",
  "# Reporting period: 24h, 7d, 30d, 90d",
  "period = \"30d\"",
  "",
  "[reconnect]",
  "base_delay = \"500ms\"",
  "max_delay = \"30s\"",
  "multiplier = 2.0",
  "jitter = 0.3",
  "max_consecutive_failures = 8",
  "",
  "[snapshot]",
  "freshness_window_secs = 60",
  "retry_interval_secs = 5",
  "# 0 disables periodic refresh",
  "refresh_interval_secs = 0",
  "request_timeout_secs = 10",
  "max_pending_deltas = 10000",
  "",
  "[logging]",
  "level = \"info\"",
  "json = false",
  "include_spans = false",
  ""]

/-- **Writes a new file of settings**, unless there is something at its
path. -/
def init (h : Surroundings) (path : String) : Report :=
  if h.folder.contains path then
    h.failure [] [s!"❌ Error: Configuration file '{path}' already exists"]
  else
    match h.folder.write? path ("\n".intercalate newSettings) with
    | none => h.error "Failed to write config file"
    | some folder =>
      { code := 0
        out := [
          s!"✅ Created default configuration at: {path}",
          s!"   Run 'axon-dash --config {path} watch' to follow live metrics"]
        err := []
        folder := folder }

/-! ## Commands -/

/-- The settings with which a command goes to work: they make sense, and
the log is set up. -/
def prepared (h : Surroundings) (config : Option String) : Except String ClientSettings := do
  let s ← (h.settings config).mapError fun _ => "Failed to load configuration"
  s.validate.mapError fun _ => "Invalid configuration"
  ((LogSetup.settings s.log).install false).mapError LogFault.message
  return s

/-- A command that needs valid settings. -/
def withSettings (h : Surroundings) (config : Option String) (work : ClientSettings → Report) :
    Report :=
  match h.prepared config with
  | .error message => h.error message
  | .ok s => work s

end Surroundings

/-- **What a command does.** -/
def Invocation.run (i : Invocation) (h : Surroundings) : Report :=
  match i.command with
  | .validate => h.validate i.config
  | .init output => h.init output
  | .watch period api =>
    h.withSettings i.config fun s => h.watch s (period.getD s.period) api
  | .snapshot period =>
    h.withSettings i.config fun s => h.showSnapshot s (period.getD s.period)
  | .queues action => h.withSettings i.config fun s => h.runQueues s action

/-- What is shown in place of a command. -/
def Usage.report (h : Surroundings) : Usage → Report
  | .help => h.success ["Usage: axon-dash [OPTIONS] <COMMAND>"]
  | .version => h.success ["axon-dash 0.1.0"]
  | .wrong => ⟨2, [], ["Usage: axon-dash [OPTIONS] <COMMAND>"], h.folder⟩

/-- **What the words of the command line do.** -/
def runWords (words : List String) (h : Surroundings) : Report :=
  match Invocation.ofWords words with
  | .ok i => i.run h
  | .error usage => usage.report h

end Liveboard
