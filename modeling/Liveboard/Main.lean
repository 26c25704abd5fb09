import Liveboard.Command.Run

/-!
# The program

Reads the files that the words of the command line may be about and the
variables of the environment, and does what the command reports.
-/

namespace Liveboard.Program

/-- The names of the variables for settings. -/
def variableNames : List String := [
  "AXON_DASH__API_BASE_URL", "AXON_DASH__CHANNEL_URL", "AXON_DASH__AUTH_TOKEN",
  "AXON_DASH__PERIOD", "AXON_DASH__RECONNECT__BASE_DELAY", "AXON_DASH__RECONNECT__MAX_DELAY",
  "AXON_DASH__RECONNECT__MULTIPLIER", "AXON_DASH__RECONNECT__JITTER",
  "AXON_DASH__RECONNECT__MAX_CONSECUTIVE_FAILURES",
  "AXON_DASH__SNAPSHOT__FRESHNESS_WINDOW_SECS", "AXON_DASH__SNAPSHOT__RETRY_INTERVAL_SECS",
  "AXON_DASH__SNAPSHOT__REFRESH_INTERVAL_SECS", "AXON_DASH__SNAPSHOT__REQUEST_TIMEOUT_SECS",
  "AXON_DASH__SNAPSHOT__MAX_PENDING_DELTAS", "AXON_DASH__LOGGING__LEVEL",
  "AXON_DASH__LOGGING__JSON", "AXON_DASH__LOGGING__INCLUDE_SPANS"]

/-- How long usage is followed, in milliseconds. -/
def patience : Nat := 5000

/-- The files that a command may read: one of settings, and one that it is
given. -/
def candidates (i : Invocation) : List String :=
  let settings := (i.config.map fun path =>
    path :: ["toml", "json", "yaml", "yml", "ini"].map fun e => path ++ "." ++ e).getD []
  match i.command with
  | .queues (.setConfig file) => file :: settings
  | .init output => output :: settings
  | _ => settings

/-- The text of a file, if it can be read. -/
def read? (path : String) : IO (Option String) := do
  try
    let text ← IO.FS.readFile path
    return some text
  catch _ => return none

/-- The files that can be read. -/
def readAll (paths : List String) : IO (List (String × String)) := do
  let mut files := []
  for path in paths do
    if let some text ← read? path then files := files ++ [(path, text)]
  return files

/-- The variables that are set. -/
def readVariables : IO (List Variable) := do
  let mut found := []
  for name in variableNames do
    if let some value ← IO.getEnv name then found := found ++ [⟨name, value⟩]
  return found

/-- Shows what a command reports, and writes the file that it leaves. -/
def carryOut (before : Folder) (r : Report) : IO UInt32 := do
  for (path, text) in r.folder.files do
    if (before.text? path) ≠ some text then IO.FS.writeFile path text
  for line in r.out do IO.println line
  for line in r.err do IO.eprintln line
  return r.code.toUInt32

end Liveboard.Program

/-- The program. -/
def main (words : List String) : IO UInt32 := do
  let paths := match Liveboard.Invocation.ofWords words with
    | .ok i => Liveboard.Program.candidates i
    | .error _ => []
  let folder : Liveboard.Folder := ⟨← Liveboard.Program.readAll paths⟩
  let surroundings := Liveboard.Surroundings.offline folder (← Liveboard.Program.readVariables)
    Liveboard.Program.patience
  Liveboard.Program.carryOut folder (Liveboard.runWords words surroundings)
