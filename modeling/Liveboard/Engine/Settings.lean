import Liveboard.Settings.Basic

/-!
# The settings of an engine

What an engine reads of the settings: how long a cached snapshot is fresh,
how long to wait after a failed pull, how often to pull anew and how many
deltas to keep. What is configured are numbers, and two of them do not mean
what they say: no time at all between two pulls is no pulling anew, and at
least one delta is kept. `SnapshotSettings.toEngine` resolves both, so that
the engine need not ask again.
-/

namespace Liveboard

/-- **The settings of one engine.** -/
structure EngineSettings where
  /-- A cached snapshot younger than this seeds the engine without a pull. -/
  freshness : Span
  /-- The wait after a failed pull. -/
  retry : Span
  /-- The time between forced pulls, if there are any. -/
  refresh : Option Span
  /-- The number of deltas kept while a pull is under way. -/
  maxPending : Nat
  deriving DecidableEq, Inhabited

/-- How long a request may take. -/
def SnapshotSettings.timeout (s : SnapshotSettings) : Span := .ofSecs s.timeoutSecs

/-- **The settings of an engine from what is configured.** A refresh time
of zero means none, and at least one delta is kept. -/
def SnapshotSettings.toEngine (s : SnapshotSettings) : EngineSettings where
  freshness := .ofSecs s.freshnessSecs
  retry := .ofSecs s.retrySecs
  refresh := if s.refreshSecs = 0 then none else some (.ofSecs s.refreshSecs)
  maxPending := max s.maxPending 1

namespace EngineSettings

/-- The settings where none are given. -/
def standard : EngineSettings := SnapshotSettings.standard.toEngine

/-- What is configured keeps at least one delta. -/
theorem one_le_maxPending_toEngine (s : SnapshotSettings) : 1 ≤ s.toEngine.maxPending :=
  Nat.le_max_right _ _

end EngineSettings

end Liveboard
