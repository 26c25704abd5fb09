import Liveboard.Board.Watcher
import Liveboard.Channel.Link
import Liveboard.Engine.Basic

/-!
# The board

The whole client: the connection manager, the registry through which it
tells of states and events, the engines and watchers registered there, the
caches the engines share, and the meters.

A move of the manager says what is to be told and tells nothing itself.
`Board.move` is the move with everything it sets off, delivered at once and
in order, so that every engine knows of a new connection before it sees the
first event of it. What is registered is a `Listener` – the number of an
engine or a watcher – and not a function: what a listener does is looked up
on the board when it is called, so that two listeners never hold two copies
of one engine.

Engines and watchers stay on the board when they are stopped, since their
numbers are what is registered. `Board.stopEngine` marks an engine and takes
its registrations back; what its fetch loops still do goes through
`Board.engineEvent` like everything else that happens to it.
-/

namespace Liveboard

/-- **What is registered for events and states.** -/
inductive Listener where
  /-- Notes the states of the channel. -/
  | journal
  /-- Notes the events of a type, under a label. -/
  | reader (label : String)
  /-- An engine, by its number. -/
  | engine (engine : Nat)
  /-- A watcher, by its number, and the API it was registered for. -/
  | watcher (watcher : Nat) (entity : String)
  deriving DecidableEq, Repr

/-- What was noted. -/
inductive JournalEntry where
  /-- A state, and when it was told. -/
  | state (time : Nat) (state : ChannelState)
  /-- An event, and who saw it. -/
  | event (label : String) (event : Event)

/-- **An engine on the board.** -/
structure Station where
  /-- The engine. -/
  engine : Engine
  /-- The cache it shares. -/
  cache : String
  /-- Its registrations. -/
  handles : List Handle

/-- **The client.** Engines and watchers are numbered in the order in which
they were started. -/
structure Board where
  /-- The connection manager. -/
  link : Link
  /-- Who is told of states and events. -/
  registry : Registry Listener
  /-- The engines. -/
  stations : List Station
  /-- The watchers. -/
  watchers : List Watcher
  /-- The caches by name. -/
  caches : List (String × SnapshotCache)
  /-- The meters. -/
  meters : Meters
  /-- What was noted, the latest first. -/
  journal : List JournalEntry
  /-- The fetch loops begun that nobody has scheduled yet, each by engine
  and generation, the latest first. -/
  begun : List (Nat × Nat)
  /-- The time, in milliseconds. -/
  now : Nat
  /-- The time by which cached snapshots age, in milliseconds. -/
  cacheNow : Nat

namespace Board

/-- A board with nothing on it. -/
def initial (policy : BackoffPolicy) : Board where
  link := .initial policy
  registry := .empty
  stations := []
  watchers := []
  caches := []
  meters := .empty
  journal := []
  begun := []
  now := 0
  cacheNow := 0

/-- Changes a meter. -/
def record (b : Board) (change : MeterChange) : Board :=
  { b with meters := b.meters.record change }

/-- Notes something. -/
def note (b : Board) (entry : JournalEntry) : Board :=
  { b with journal := entry :: b.journal }

/-! ## Engines -/

/-- The cache of a name; it is empty at its first use. -/
def cache (b : Board) (name : String) : SnapshotCache :=
  (b.caches.lookup name).getD .empty

/-- Replaces the cache of a name. -/
def setCache (b : Board) (name : String) (c : SnapshotCache) : Board :=
  { b with caches := (name, c) :: b.caches.filter (·.1 ≠ name) }

/-- What an engine tells is taken down. -/
def takeNotice (engine : Nat) (b : Board) : EngineNotice → Board
  | .meter change => b.record change
  | .fetch generation => { b with begun := (engine, generation) :: b.begun }

/-- **Something happens to an engine.** -/
def engineEvent (b : Board) (engine : Nat) (event : EngineEvent) : Board :=
  match b.stations[engine]? with
  | none => b
  | some station =>
    let turn := station.engine.handle event (b.cache station.cache) b.cacheNow
    let b := { b with stations := b.stations.set engine { station with engine := turn.engine } }
    turn.notices.foldl (takeNotice engine) (b.setCache station.cache turn.cache)

/-! ## Telling -/

/-- What a listener does with an event. -/
def hearEvent (event : Event) (entry : Entry Listener) (b : Board) : Board :=
  match entry.callback with
  | .journal => b
  | .reader label => b.note (.event label event)
  | .engine engine => b.engineEvent engine (.delta event)
  | .watcher watcher entity =>
    match b.watchers[watcher]? with
    | none => b
    | some w =>
      let (w, faulty) := w.receive entity event
      let b := { b with watchers := b.watchers.set watcher w }
      if faulty then b.record (.count (.decodeErrors "entity")) else b

/-- What a listener does with a state. -/
def hearState (state : ChannelState) (entry : Entry Listener) (b : Board) : Board :=
  match entry.callback with
  | .journal => b.note (.state b.now state)
  | .engine engine => b.engineEvent engine (.channel state)
  | _ => b

/-- Delivers an event. Yields the number of listeners called. -/
def dispatch (b : Board) (event : Event) : Nat × Board :=
  let (called, b) :=
    Registry.deliver Board.registry (hearEvent event) (.events event.type) b
  (called.length, b)

/-- Delivers a state. Yields the number of listeners called. -/
def dispatchState (b : Board) (state : ChannelState) : Nat × Board :=
  let (called, b) := Registry.deliver Board.registry (hearState state) .states b
  (called.length, b)

/-- What the manager tells is delivered. -/
def tell (b : Board) : ChannelNotice → Board
  | .meter change => b.record change
  | .state state => (b.dispatchState state).2
  | .event event => (b.dispatch event).2

/-- **A move of the manager** with all that it sets off. -/
def move (b : Board) (event : LinkEvent) (draw : Float) : Board :=
  let turn := b.link.handle event b.now draw
  turn.notices.foldl tell { b with link := turn.link }

/-! ## Registering -/

/-- Registers a listener. -/
def subscribe (b : Board) (topic : Topic) (listener : Listener) : Handle × Board :=
  let (handle, registry) := b.registry.subscribe topic listener
  (handle, { b with registry := registry })

/-- Ends a registration. -/
def unsubscribe (b : Board) (handle : Handle) : Board :=
  { b with registry := b.registry.unsubscribe handle }

/-- **Starts an engine.** It is registered for deltas and for states, and
then begins its first generation. -/
def startEngine (b : Board) (period : Period) (settings : EngineSettings) (cache : String) :
    Board :=
  let number := b.stations.length
  let turn := Engine.start period settings b.link.status.state (b.cache cache) b.cacheNow
  let (deltas, b) := b.subscribe (.events usageEvents) (.engine number)
  let (states, b) := b.subscribe .states (.engine number)
  let b := { b with stations := b.stations ++ [Station.mk turn.engine cache [deltas, states]] }
  turn.notices.foldl (takeNotice number) (b.setCache cache turn.cache)

/-- **Tears an engine down** and ends its registrations. -/
def stopEngine (b : Board) (engine : Nat) : Board :=
  match b.stations[engine]? with
  | none => b
  | some station =>
    if station.engine.stopped then b
    else
      let b := b.engineEvent engine .stop
      station.handles.foldl unsubscribe b

/-! ## Watchers -/

/-- **Starts a watcher** for an API. -/
def startWatcher (b : Board) (entity : String) : Board :=
  let (handle, b) := b.subscribe (.events apiEvents) (.watcher b.watchers.length entity)
  { b with watchers := b.watchers ++ [Watcher.mk entity none (some handle)] }

/-- Ends the registration of a watcher. Its last reading stays. -/
def stopWatcher (b : Board) (watcher : Nat) : Board :=
  match b.watchers[watcher]? with
  | some w =>
    match w.handle with
    | some handle =>
      let b := b.unsubscribe handle
      { b with watchers := b.watchers.set watcher { w with handle := none } }
    | none => b
  | none => b

/-- **Turns a watcher to another API.** The reading is cleared. -/
def setEntity (b : Board) (watcher : Nat) (entity : String) : Board :=
  let b := b.stopWatcher watcher
  match b.watchers[watcher]? with
  | none => b
  | some _ =>
    let (handle, b) := b.subscribe (.events apiEvents) (.watcher watcher entity)
    { b with watchers := b.watchers.set watcher (Watcher.mk entity none (some handle)) }

/-- The text of a watcher, for diagnostics. -/
def watcherSummary (w : Watcher) : String :=
  s!"EntityWatcher \x7b entity_id: {Quoted.quote w.entity} \x7d"

end Board

end Liveboard
