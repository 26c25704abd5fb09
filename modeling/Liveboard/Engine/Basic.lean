import Liveboard.Channel.State
import Liveboard.Engine.Settings
import Liveboard.Fetch.Error
import Liveboard.Metrics.Event
import Liveboard.Metrics.Meter
import Liveboard.Metrics.SnapshotCache

/-!
# The engine of a period

An engine keeps the view of one period. It pulls a snapshot, merges the
deltas that come in, and pulls anew whenever the channel has reconnected,
for what the channel missed in between is in no delta.

Every pull belongs to a *generation*. To begin a pull is to begin a
generation: deltas that come in from then on are held back until the
snapshot lands and are then merged into it in the order of receipt. A
snapshot of a generation that is no longer the current one is dropped.

A pull is made by a *fetch loop*, which repeats it after a while until it
succeeds. The loops of older generations are not told that they are late;
what they bring is looked at when it lands. So the engine keeps every loop
that has not ended (`FetchLoop`), and not only the current one.

The engine handles one thing at a time. What may happen in which order is
any list of `EngineEvent`s, and `Engine.handle` is what each does; an event
about a fetch loop that is not in the stage for it does nothing.
-/

namespace Liveboard

/-- **What an engine is doing.** -/
inductive Phase where
  /-- No snapshot has landed yet. -/
  | seeding
  /-- Deltas are merged into the view. -/
  | live
  /-- A snapshot that replaces the view is being pulled. -/
  | resyncing
  deriving DecidableEq, Repr, Inhabited

/-- The name of a phase. -/
def Phase.name : Phase → String
  | .seeding => "Seeding"
  | .live => "Live"
  | .resyncing => "Resyncing"

/-- Where a fetch loop stands. -/
inductive FetchStage where
  /-- It has not made its first pull. -/
  | queued
  /-- A pull is under way. -/
  | pulling
  /-- The last pull failed, and it waits before the next. -/
  | resting
  deriving DecidableEq, Repr, Inhabited

/-- **A fetch loop**: it pulls until a pull succeeds. -/
structure FetchLoop where
  /-- The generation it pulls for. -/
  generation : Nat
  /-- Where it stands. -/
  stage : FetchStage
  deriving DecidableEq, Repr, Inhabited

/-- **What an engine knows.** The generation and the number of dropped deltas are
whole numbers without a bound. They grow by one at a time, with a fetch or an
event, so no run is long enough to take one of them to `2 ^ 64`. -/
structure Engine where
  /-- The period it keeps the view of. -/
  period : Period
  /-- How it is set up. -/
  settings : EngineSettings
  /-- What it is doing. -/
  phase : Phase
  /-- The view, once there is one. -/
  view : Option View
  /-- The current generation. -/
  generation : Nat
  /-- The deltas held back, the earliest first, with their times. -/
  pending : List (UsageDelta × Int)
  /-- The number of deltas that were held back and then dropped. -/
  dropped : Nat
  /-- Why the last pull of the current generation failed. -/
  fetchError : Option FetchError
  /-- What consumers see. -/
  published : ViewStatus
  /-- Whether the channel can be expected to bring deltas. -/
  liveUpdates : Bool
  /-- Whether the engine was stopped. -/
  stopped : Bool
  /-- The fetch loops that have not ended, the earliest first. -/
  loops : List FetchLoop

/-- **What can happen to an engine.** -/
inductive EngineEvent where
  /-- An event about the usage of all streams. -/
  | delta (event : Event)
  /-- A new state of the channel. -/
  | channel (state : ChannelState)
  /-- Someone, or the clock, asks for a new snapshot. -/
  | refresh
  /-- The fetch loop of a generation makes its next pull. -/
  | pull (generation : Nat)
  /-- The pull of a generation has landed. -/
  | landed (generation : Nat) (result : Except FetchError Snapshot)
  /-- The engine is torn down. -/
  | stop

/-- What an engine tells the outside. -/
inductive EngineNotice where
  /-- A meter changed. -/
  | meter (change : MeterChange)
  /-- A fetch loop was begun for a generation. -/
  | fetch (generation : Nat)
  deriving DecidableEq, Repr

/-- What has come of an event: the engine, the cache it shares and what it
tells. -/
structure EngineTurn where
  /-- The engine. -/
  engine : Engine
  /-- The cache. -/
  cache : SnapshotCache
  /-- What the engine tells, the first first. -/
  notices : List EngineNotice

namespace Engine

/-- Shows the view as one that may lag behind. -/
def publishStale (e : Engine) : Engine :=
  match e.view with
  | some v => { e with published := .stale v }
  | none => e

/-! ## Snapshots -/

/-- The view of a snapshot with the deltas held back merged into it. -/
def replay (e : Engine) (snapshot : Snapshot) (now : Nat) : View :=
  (View.ofSnapshot snapshot now).applyAll e.pending

/-- **Replaces the view** by a snapshot with the deltas held back, if the
snapshot is of the current generation. -/
def install (e : Engine) (generation : Nat) (snapshot : Snapshot) (now : Nat) :
    Engine × List EngineNotice :=
  if e.generation ≠ generation ∨ e.stopped then (e, [])
  else
    let view := e.replay snapshot now
    ({ e with
        view := some view
        phase := .live
        pending := []
        fetchError := none
        published := .live view },
      e.pending.map (fun _ => .meter (.count .deltasApplied))
        ++ [.meter (.set .deltasBuffered 0)])

/-- Notes why a pull of the current generation failed. -/
def fetchFailed (e : Engine) (generation : Nat) (error : FetchError) : Engine :=
  if e.generation ≠ generation then e
  else { e with fetchError := some error }.publishStale

/-- The engine at the begin of a generation. -/
def nextGeneration (e : Engine) : Engine :=
  { e with
    generation := e.generation + 1
    pending := []
    phase := if e.view.isSome then .resyncing else .seeding }.publishStale

/-- Begins the fetch loop of the current generation. -/
def spawn (e : Engine) : Engine :=
  { e with loops := e.loops ++ [⟨e.generation, .queued⟩] }

/-- **Begins a generation.** A forced one forgets the cached snapshot and
pulls; one that is not forced is served from the cache if it can be. -/
def beginFetch (e : Engine) (forced : Bool) (cache : SnapshotCache) (now : Nat) : EngineTurn :=
  if e.stopped then ⟨e, cache, []⟩
  else
    let discarded := if e.pending.isEmpty then [] else [.meter (.set .deltasBuffered 0)]
    let e := e.nextGeneration
    if forced then
      ⟨e.spawn, cache.invalidate e.period,
        discarded ++ [.meter (.count .resyncs), .fetch e.generation]⟩
    else
      match cache.fresh? e.period e.settings.freshness now with
      | some snapshot =>
        let (e, notices) := e.install e.generation snapshot now
        ⟨e, cache, discarded ++ notices⟩
      | none => ⟨e.spawn, cache, discarded ++ [.fetch e.generation]⟩

/-! ## Deltas -/

/-- Holds a delta back. If there are as many as may be, the earliest is
dropped. -/
def holdBack (e : Engine) (delta : UsageDelta) (time : Int) : Engine :=
  let full := e.settings.maxPending ≤ e.pending.length
  { e with
    pending := (if full then e.pending.drop 1 else e.pending) ++ [(delta, time)]
    dropped := if full then e.dropped + 1 else e.dropped }

/-- **A delta came in**: it is merged into the view or held back. -/
def takeDelta (e : Engine) (delta : UsageDelta) (time : Int) : Engine × List EngineNotice :=
  match e.phase with
  | .live =>
    match e.view with
    | some v =>
      let v := v.apply delta time
      ({ e with view := some v, published := .live v }, [.meter (.count .deltasApplied)])
    | none => (e, [])
  | _ =>
    let e := e.holdBack delta time
    (e, [.meter (.set .deltasBuffered e.pending.length)])

/-- An event about the usage of all streams came in. -/
def takeEvent (e : Engine) (event : Event) : Engine × List EngineNotice :=
  if e.stopped then (e, [])
  else
    match event.decode UsageDelta.ofJson with
    | .ok delta => e.takeDelta delta event.receivedAt
    | .error _ => (e, [.meter (.count (.decodeErrors "global"))])

/-! ## Fetch loops -/

/-- Where the fetch loop of a generation stands. -/
def stageOf? (e : Engine) (generation : Nat) : Option FetchStage :=
  (e.loops.find? (·.generation = generation)).map (·.stage)

/-- Moves the fetch loop of a generation to a stage. -/
def setStage (e : Engine) (generation : Nat) (stage : FetchStage) : Engine :=
  { e with loops := e.loops.map fun l =>
      if l.generation = generation then { l with stage := stage } else l }

/-- Ends the fetch loop of a generation. -/
def endLoop (e : Engine) (generation : Nat) : Engine :=
  { e with loops := e.loops.filter (·.generation ≠ generation) }

/-- Whether a generation is the current one of an engine that was not
stopped. -/
def isCurrent (e : Engine) (generation : Nat) : Bool :=
  !e.stopped && e.generation == generation

/-- **A pull has landed.** The loop ends if it is superseded or the pull
succeeded; otherwise it waits. -/
def land (e : Engine) (generation : Nat) (result : Except FetchError Snapshot)
    (cache : SnapshotCache) (now : Nat) : EngineTurn :=
  let measured := [
    .meter (.count (.fetches e.period result.isOk)), .meter (.count (.fetchDuration e.period))]
  if !e.isCurrent generation then ⟨e.endLoop generation, cache, measured⟩
  else
    match result with
    | .ok snapshot =>
      let (e, notices) := (e.endLoop generation).install generation snapshot now
      ⟨e, cache.store snapshot now, measured ++ notices⟩
    | .error error =>
      ⟨(e.fetchFailed generation error).setStage generation .resting, cache, measured⟩

/-! ## Everything that can happen -/

/-- **Tears the engine down.** Loops that wait end at once; the others end
when their pull has landed. -/
def stop (e : Engine) : Engine :=
  { e with stopped := true, loops := e.loops.filter (·.stage ≠ .resting) }

/-- A new state of the channel. -/
def takeState (e : Engine) (state : ChannelState) (cache : SnapshotCache) (now : Nat) :
    EngineTurn :=
  match state with
  | .connected => { e with liveUpdates := true }.beginFetch true cache now
  | .error => ⟨{ e with liveUpdates := false }.publishStale, cache, []⟩
  | .disconnected => ⟨e.publishStale, cache, []⟩
  | .connecting => ⟨e, cache, []⟩

/-- **What an event does.** `now` is the time by which the cache ages and at
which a snapshot lands. -/
def handle (e : Engine) (event : EngineEvent) (cache : SnapshotCache) (now : Nat) : EngineTurn :=
  match event with
  | .delta event =>
    let (e, notices) := e.takeEvent event
    ⟨e, cache, notices⟩
  | .channel state => e.takeState state cache now
  | .refresh => e.beginFetch true cache now
  | .pull generation =>
    match e.stageOf? generation with
    | some .queued | some .resting => ⟨e.setStage generation .pulling, cache, []⟩
    | _ => ⟨e, cache, []⟩
  | .landed generation result =>
    match e.stageOf? generation with
    | some .pulling => e.land generation result cache now
    | _ => ⟨e, cache, []⟩
  | .stop => ⟨e.stop, cache, []⟩

/-- An engine that has not begun its first generation, beside a channel in
a given state. -/
def idle (period : Period) (settings : EngineSettings) (state : ChannelState) : Engine where
  period := period
  settings := settings
  phase := .seeding
  view := none
  generation := 0
  pending := []
  dropped := 0
  fetchError := none
  published := .loading
  liveUpdates := state ≠ .error
  stopped := false
  loops := []

/-- **A new engine**, which has begun its first generation. -/
def start (period : Period) (settings : EngineSettings) (state : ChannelState)
    (cache : SnapshotCache) (now : Nat) : EngineTurn :=
  (idle period settings state).beginFetch false cache now

/-- The text of an engine, for diagnostics. -/
def summary (e : Engine) : String :=
  s!"ReconciliationEngine \x7b period: {e.period.longName}, phase: {e.phase.name} \x7d"

end Engine

end Liveboard
