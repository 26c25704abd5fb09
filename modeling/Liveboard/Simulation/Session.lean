import Liveboard.Simulation.World

/-!
# Simulated sessions

A session is a list of steps on a simulated board: calls on the manager,
whatever the other side of the channel does, engines and watchers that come
and go under names of their own, answers of the sources, and time that
passes. After every step all tasks take their turns until none has anything
to do (`Session.take`); only the steps of a group follow each other at once,
which is how calls come to overlap.
-/

namespace Liveboard

/-- How a new engine is set up. -/
structure EngineOrder where
  /-- The period it keeps the view of. -/
  period : Period
  /-- Its settings. -/
  settings : EngineSettings
  /-- Where it pulls from. -/
  feed : Feed
  /-- The cache it shares. -/
  cache : String

/-- **A step of a session.** -/
inductive SessionStep where
  /-- A call to connect. -/
  | connect (token : String)
  /-- A call to disconnect. -/
  | disconnect
  /-- Time passes. -/
  | advance (millis : Nat)
  /-- Steps that follow each other at once. -/
  | group (steps : List SessionStep)
  /-- The next attempt to open a connection fails. -/
  | failNext (error : ChannelError)
  /-- Every attempt fails, or no longer does. -/
  | offline (isOff : Bool)
  /-- A text frame comes. -/
  | push (frame : String)
  /-- The frame of an event comes. -/
  | pushEvent (type : String) (data : Json)
  /-- The other side closes the connection. -/
  | hangUp
  /-- The connection breaks. -/
  | snap (reason : String)
  /-- Someone subscribes to the events of a type, under a label. -/
  | subscribe (label type : String)
  /-- A subscription ends. -/
  | unsubscribe (label : String)
  /-- An event is delivered past the channel. -/
  | dispatch (type : String) (data : Json)
  /-- A state is delivered past the channel. -/
  | dispatchState (state : ChannelState)
  /-- An engine is started, in place of the one of its name. -/
  | startEngine (name : String) (order : EngineOrder)
  /-- An engine is to pull anew. -/
  | refreshEngine (name : String)
  /-- An engine is stopped; it stays there to be looked at. -/
  | stopEngine (name : String)
  /-- An engine is stopped and given up. -/
  | dropEngine (name : String)
  /-- An answer is put in stock. -/
  | stock (source : String) (answer : Except FetchError Snapshot)
  /-- The answer once the stock is empty. -/
  | fallback (source : String) (snapshot : Snapshot)
  /-- A source holds its answers back. -/
  | pause (source : String)
  /-- A source answers again. -/
  | resume (source : String)
  /-- A pull is answered by hand. -/
  | complete (source : String) (choice : PullChoice) (answer : Except FetchError Snapshot)
  /-- A snapshot is put in a cache. -/
  | storeCache (cache : String) (snapshot : Snapshot)
  /-- A cache forgets a period. -/
  | invalidateCache (cache : String) (period : Period)
  /-- A cache is asked. -/
  | askCache (cache : String) (period : Period) (window : Span)
  /-- A watcher is started, in place of the one of its name. -/
  | startWatcher (name entity : String)
  /-- A watcher is turned to another API. -/
  | setEntity (name entity : String)
  /-- A watcher is stopped; it stays there to be looked at. -/
  | stopWatcher (name : String)
  /-- A watcher is stopped and given up. -/
  | dropWatcher (name : String)
  /-- Whether the manager is the installed one. -/
  | askInstalled
  /-- A manager is installed, if none is. -/
  | install
  /-- The installed manager is shut down. -/
  | shutDown
  /-- The texts of everything. -/
  | summaries

instance : Inhabited SessionStep := ⟨.summaries⟩

/-- **What a step answers.** -/
inductive StepAnswer where
  /-- Nothing to say. -/
  | none
  /-- It went well. -/
  | ok
  /-- It failed. -/
  | failure (error : ChannelError)
  /-- Whether something is so. -/
  | flag (b : Bool)
  /-- A number of calls. -/
  | number (n : Nat)
  /-- A snapshot. -/
  | snapshot (s : Snapshot)
  /-- The transport of the session is not fed by hand. -/
  | notManual
  /-- Whether the installed manager is this one, and its endpoint. -/
  | installed (isThis : Bool) (endpoint : String)
  /-- The texts of the manager, the registry, the endpoint, the engines and
  the watchers. -/
  | summaries (manager registry endpoint : String) (engines watchers : List String)
  /-- The answers of a group. -/
  | group (answers : List StepAnswer)
  deriving Inhabited

/-- Which manager is the installed one. -/
inductive Installed where
  /-- None. -/
  | none
  /-- The one of the session. -/
  | this
  /-- Another. -/
  | other
  deriving DecidableEq, Repr, Inhabited

/-- **A simulated board with the names in use.** -/
structure Session where
  /-- The board and its surroundings. -/
  world : World
  /-- The engines by name. -/
  engines : List (String × Nat)
  /-- The watchers by name. -/
  watchers : List (String × Nat)
  /-- The subscriptions by label. -/
  subscriptions : List (String × Handle)
  /-- Which manager is installed. -/
  installed : Installed

namespace Session

/-- A session before its first step: only a listener that notes the states
is registered. -/
def start (policy : BackoffPolicy) (transport : Transport) (isInstalled : Bool) : Session :=
  let world := World.initial policy transport
  { world := { world with board := (world.board.subscribe .states .journal).2 }
    engines := []
    watchers := []
    subscriptions := []
    installed := if isInstalled then .this else .none }

/-- Changes the surroundings. -/
def onWorld (s : Session) (change : World → World) : Session :=
  { s with world := change s.world }

/-- Changes the board. -/
def onBoard (s : Session) (change : Board → Board) : Session :=
  s.onWorld (·.onBoard change)

/-- A name is given to something else. -/
def rename (names : List (String × Nat)) (name : String) (n : Nat) : List (String × Nat) :=
  (name, n) :: names.filter (·.1 ≠ name)

/-- A name is no longer in use. -/
def forget (names : List (String × Nat)) (name : String) : List (String × Nat) :=
  names.filter (·.1 ≠ name)

/-! ## Calls on the manager -/

/-- A call begins and goes on until it waits for a connection or returns.
While it waits for the end of a driver, the tasks take their turns. -/
def beginCall (w : World) (request : Request) : World :=
  let call := w.board.link.calls.length
  let w := (w.move (.call request)).move (.proceed call)
  match w.board.link.callStage? call with
  | some (.stopping driver) =>
    let w := if w.board.link.hasEnded driver then w else (w.wake (.driver driver)).run
    w.move (.proceed call)
  | _ => w

/-- The attempt of a call to connect is answered, and the driver that it
starts is put in the queue. -/
def finishConnect (w : World) (call : Nat) (token : String) : World :=
  let (result, transport) := w.transport.dial token
  let w := { w with transport := transport }
  let driver := w.board.link.drivers.length
  let w : World := match result with
    | .ok n => { w with lines := (driver, n) :: w.lines }.move (.answered call (.ok ()))
    | .error error => w.move (.answered call (.error error))
  if driver < w.board.link.drivers.length then w.wake (.driver driver) else w

/-- **A call to connect.** -/
def connect (s : Session) (token : String) : StepAnswer × Session :=
  let call := s.world.board.link.calls.length
  let s := s.onWorld fun w => finishConnect (beginCall w (.connect token)) call token
  match s.world.board.link.callStage? call with
  | some (.done (some error)) => (.failure error, s)
  | _ => (.ok, s)

/-- **A call to disconnect.** -/
def disconnect (s : Session) : Session :=
  s.onWorld (beginCall · .disconnect)

/-! ## The other side of the channel -/

/-- A step on a transport that is fed by hand. -/
def withTransport (s : Session) (deed : Transport → StepAnswer × Transport) :
    StepAnswer × Session :=
  let t := s.world.transport
  if t.script.isSome then (.notManual, s)
  else
    let (answer, t') := deed t
    (answer, s.onWorld ({ · with transport := t' }))

/-- A step that the reader of the current connection notices. -/
def withConnection (s : Session) (deed : Transport → StepAnswer × Transport) :
    StepAnswer × Session :=
  let reader := s.world.transport.current.bind fun n => s.world.lines.find? (·.2 = n)
  let (answer, s) := s.withTransport deed
  match reader with
  | some (driver, _) => (answer, s.onWorld (·.wake (.driver driver)))
  | none => (answer, s)

/-! ## Engines and watchers -/

/-- A source is there from its first use on. -/
def touch (w : World) (feed : Feed) : World :=
  if feed.manual then w.setManual feed.source (w.manualSource feed.source)
  else w.setStocked feed.source (w.stockedSource feed.source)

/-- **Starts an engine** in place of the one of its name. The ticker comes
after the fetch loop. -/
def startEngine (s : Session) (name : String) (order : EngineOrder) : Session :=
  let number := s.world.board.stations.length
  let previous := s.engines.lookup name
  let s := s.onWorld fun w =>
    let w := touch { w with feeds := w.feeds ++ [order.feed] } order.feed
    let w := w.onBoard (·.startEngine order.period order.settings order.cache)
    if order.settings.refresh.isSome then w.wake (.ticker number) else w
  let s := { s with engines := rename s.engines name number }
  match previous with
  | some old => s.onBoard (·.stopEngine old)
  | none => s

/-- A step on the engine of a name. Tells whether there is one. -/
def withEngine (s : Session) (name : String) (deed : Nat → Board → Board) : StepAnswer × Session :=
  match s.engines.lookup name with
  | some n => (.flag true, s.onBoard (deed n))
  | none => (.flag false, s)

/-- **Starts a watcher** in place of the one of its name. -/
def startWatcher (s : Session) (name entity : String) : Session :=
  let number := s.world.board.watchers.length
  let previous := s.watchers.lookup name
  let s := s.onBoard (·.startWatcher entity)
  let s := { s with watchers := rename s.watchers name number }
  match previous with
  | some old => s.onBoard (·.stopWatcher old)
  | none => s

/-- A step on the watcher of a name. Tells whether there is one. -/
def withWatcher (s : Session) (name : String) (deed : Nat → Board → Board) :
    StepAnswer × Session :=
  match s.watchers.lookup name with
  | some n => (.flag true, s.onBoard (deed n))
  | none => (.flag false, s)

/-! ## Sources and caches -/

/-- Changes a source that answers from a stock. -/
def onStocked (s : Session) (name : String) (change : StockedSource → StockedSource) : Session :=
  s.onWorld fun w => w.setStocked name (change (w.stockedSource name))

/-- A source answers again: the pulls it held take their turns. -/
def resume (s : Session) (name : String) : Session :=
  (s.onStocked name fun source => { source with paused := false }).onWorld fun w =>
    (w.held.filter (·.1 = name)).foldl (fun w (_, task) => w.wake task)
      { w with held := w.held.filter (·.1 ≠ name) }

/-- Answers a pull by hand. -/
def complete (s : Session) (name : String) (choice : PullChoice)
    (answer : Except FetchError Snapshot) : StepAnswer × Session :=
  let source := s.world.manualSource name
  let (pull, source) := match source.chosen? choice with
    | some n => source.complete n answer
    | none => (none, source)
  let s := s.onWorld (·.setManual name source)
  match pull with
  | some p => (.flag true, s.onWorld (·.wake (.fetch p.engine p.generation)))
  | none => (.none, s)

/-! ## Texts -/

/-- Names in their order. -/
def sortedNames (names : List (String × Nat)) : List (String × Nat) :=
  names.mergeSort fun a b => a.1 ≤ b.1

/-- The texts of everything. -/
def summaries (s : Session) : StepAnswer :=
  let b := s.world.board
  let endpoint := s.world.transport.endpoint
  .summaries (b.link.summary endpoint) b.registry.summary endpoint
    ((sortedNames s.engines).filterMap fun (_, n) =>
      (b.stations[n]?).map (·.engine.summary))
    ((sortedNames s.watchers).filterMap fun (_, n) =>
      (b.watchers[n]?).map Board.watcherSummary)

/-! ## Steps -/

mutual

/-- **One step**, without the turns that follow it. -/
def perform (step : SessionStep) (s : Session) : StepAnswer × Session :=
  match step with
  | .connect token => s.connect token
  | .disconnect => (.none, s.disconnect)
  | .advance millis => (.none, s.onWorld (·.advance millis))
  | .group steps =>
    let (answers, s) := performAll steps s
    (.group answers, s)
  | .failNext error => s.withTransport fun t => (.none, t.failNext error)
  | .offline isOff => s.withTransport fun t => (.none, { t with offline := isOff })
  | .push frame => s.withConnection fun t =>
    let (read, t) := t.push (.text frame)
    (.flag read, t)
  | .pushEvent type data => s.withConnection fun t =>
    let (read, t) := t.push (.text (Frame.text ⟨type, data⟩))
    (.flag read, t)
  | .hangUp => s.withConnection fun t => (.none, t.hangUp)
  | .snap reason => s.withConnection fun t => (.none, t.snap reason)
  | .subscribe label type =>
    let (handle, board) := s.world.board.subscribe (.events type) (.reader label)
    (.none, { s.onBoard fun _ => board with
      subscriptions := (label, handle) :: s.subscriptions })
  | .unsubscribe label =>
    match s.subscriptions.lookup label with
    | some handle =>
      let s := s.onBoard (·.unsubscribe handle)
      (.flag (s.world.board.registry.isActive handle.id), s)
    | none => (.none, s)
  | .dispatch type data =>
    let (n, board) := s.world.board.dispatch ⟨type, data, 0, s.world.board.now⟩
    (.number n, s.onBoard fun _ => board)
  | .dispatchState state =>
    let (n, board) := s.world.board.dispatchState state
    (.number n, s.onBoard fun _ => board)
  | .startEngine name order => (.none, s.startEngine name order)
  | .refreshEngine name => s.withEngine name fun n b => b.engineEvent n .refresh
  | .stopEngine name => s.withEngine name fun n b => b.stopEngine n
  | .dropEngine name =>
    let (answer, s) := s.withEngine name fun n b => b.stopEngine n
    (answer, { s with engines := forget s.engines name })
  | .stock source answer =>
    (.none, s.onStocked source fun x => { x with stock := x.stock ++ [answer] })
  | .fallback source snapshot =>
    (.none, s.onStocked source fun x => { x with fallback := some snapshot })
  | .pause source => (.none, s.onStocked source fun x => { x with paused := true })
  | .resume source => (.none, s.resume source)
  | .complete source choice answer => s.complete source choice answer
  | .storeCache cache snapshot =>
    (.none, s.onBoard fun b => b.setCache cache ((b.cache cache).store snapshot b.cacheNow))
  | .invalidateCache cache period =>
    (.none, s.onBoard fun b => b.setCache cache ((b.cache cache).invalidate period))
  | .askCache cache period window =>
    let b := s.world.board
    match (b.cache cache).fresh? period window b.cacheNow with
    | some snapshot => (.snapshot snapshot, s)
    | none => (.none, s)
  | .startWatcher name entity => (.none, s.startWatcher name entity)
  | .setEntity name entity => (.none, (s.withWatcher name fun n b => b.setEntity n entity).2)
  | .stopWatcher name => (.none, (s.withWatcher name fun n b => b.stopWatcher n).2)
  | .dropWatcher name =>
    let (answer, s) := s.withWatcher name fun n b => b.stopWatcher n
    (answer, { s with watchers := forget s.watchers name })
  | .askInstalled =>
    match s.installed with
    | .none => (.none, s)
    | .this => (.flag true, s)
    | .other => (.flag false, s)
  | .install =>
    match s.installed with
    | .this => (.installed true s.world.transport.endpoint, s)
    | _ => (.installed false Transport.manual.endpoint, { s with installed := .other })
  | .shutDown =>
    let s' := { s with installed := .none }
    match s.installed with
    | .this =>
      (.none, s'.disconnect.onBoard fun b => { b with registry := b.registry.clear })
    | _ => (.none, s')
  | .summaries => (s.summaries, s)

/-- Steps that follow each other at once. -/
def performAll (steps : List SessionStep) (s : Session) : List StepAnswer × Session :=
  match steps with
  | [] => ([], s)
  | step :: rest =>
    let (answer, s) := perform step s
    let (answers, s) := performAll rest s
    (answer :: answers, s)

end

/-- **One step and the turns that follow it.** -/
def take (step : SessionStep) (s : Session) : StepAnswer × Session :=
  let (answer, s) := perform step s
  (answer, s.onWorld World.run)

/-- What was noted since the journal was last taken, the first first. -/
def takeJournal (s : Session) : List JournalEntry × Session :=
  let journal := s.world.board.journal.reverse
  (journal, s.onWorld fun w => { w with board := { w.board with journal := [] } })

end Session

end Liveboard
