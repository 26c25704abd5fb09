import Liveboard.Board.Basic
import Liveboard.Simulation.Source
import Liveboard.Simulation.Transport

/-!
# A board on a simulated clock

A board together with a transport and sources in memory and a clock that
moves only when it is told to (`World.advance`). The drivers, the fetch loops
and the tickers are *tasks*. A task that has something to do waits in a queue;
tasks take their turns in the order of the queue until it is empty, and a turn
goes on until the task has to wait. A task that waits for a time has a
deadline, which is a whole number of milliseconds.

The order of the queue makes one run out of the many that are possible. What
is proved of the board is proved of all of them.
-/

namespace Liveboard

/-- **What takes turns.** -/
inductive Task where
  /-- The driver of a number. -/
  | driver (driver : Nat)
  /-- The fetch loop of an engine for a generation. -/
  | fetch (engine generation : Nat)
  /-- The ticker of an engine that pulls anew from time to time. -/
  | ticker (engine : Nat)
  deriving DecidableEq, Repr

/-- Where an engine pulls its snapshots from. -/
structure Feed where
  /-- The name of the source. -/
  source : String
  /-- Whether the source is answered by hand. -/
  manual : Bool
  deriving DecidableEq, Repr, Inhabited

/-- **A board and its surroundings.** -/
structure World where
  /-- The board. -/
  board : Board
  /-- Where connections come from. -/
  transport : Transport
  /-- The connection of a driver, by the numbers of both. -/
  lines : List (Nat × Nat)
  /-- Where the engines pull from, in the order of the engines. -/
  feeds : List Feed
  /-- The sources that answer from a stock, by name. -/
  stocked : List (String × StockedSource)
  /-- The sources that are answered by hand, by name. -/
  manual : List (String × ManualSource)
  /-- The tasks held by a paused source, the first in line first. -/
  held : List (String × Task)
  /-- The tasks that have something to do, the next first. -/
  ready : List Task
  /-- The deadlines, the earliest set first. -/
  deadlines : List (Task × Nat)
  /-- When a ticker last ticked. -/
  ticks : List (Nat × Nat)

namespace World

/-- A board on which nothing has happened. -/
def initial (policy : BackoffPolicy) (transport : Transport) : World where
  board := .initial policy
  transport := transport
  lines := []
  feeds := []
  stocked := []
  manual := []
  held := []
  ready := []
  deadlines := []
  ticks := []

/-! ## Tasks and deadlines -/

/-- Puts a task in the queue, if it is not there. -/
def wake (w : World) (task : Task) : World :=
  if w.ready.contains task then w else { w with ready := w.ready ++ [task] }

/-- Takes the next task out of the queue. -/
def dequeue (w : World) : World :=
  { w with ready := w.ready.drop 1 }

/-- Sets the deadline of a task; one that has passed is not set. -/
def setDeadline (w : World) (task : Task) (due : Nat) : World :=
  let others := w.deadlines.filter (·.1 ≠ task)
  { w with deadlines := if due ≤ w.board.now then others else others ++ [(task, due)] }

/-- Sets the deadline of a task after a span of time. -/
def sleep (w : World) (task : Task) (span : Span) : World :=
  w.setDeadline task (w.board.now + span.millisUp)

/-- Whether the deadline of a task has passed. -/
def isDue (w : World) (task : Task) : Bool :=
  (w.deadlines.lookup task).isNone

/-- The fetch loops that were begun are put in the queue. -/
def schedule (w : World) : World :=
  let begun := w.board.begun.reverse
  begun.foldl (fun w (engine, generation) => w.wake (.fetch engine generation))
    { w with board := { w.board with begun := [] } }

/-- Changes the board, and puts in the queue what was begun. -/
def onBoard (w : World) (change : Board → Board) : World :=
  { w with board := change w.board }.schedule

/-- The place of every delay in its band. -/
def draw : Float := 0.5

/-- A move of the manager. -/
def move (w : World) (event : LinkEvent) : World :=
  w.onBoard (·.move event draw)

/-! ## Sources -/

/-- The stocked source of a name; it is empty at its first use. -/
def stockedSource (w : World) (name : String) : StockedSource :=
  (w.stocked.lookup name).getD .empty

/-- Replaces the stocked source of a name. -/
def setStocked (w : World) (name : String) (s : StockedSource) : World :=
  { w with stocked := (name, s) :: w.stocked.filter (·.1 ≠ name) }

/-- The manual source of a name; it is empty at its first use. -/
def manualSource (w : World) (name : String) : ManualSource :=
  (w.manual.lookup name).getD .empty

/-- Replaces the manual source of a name. -/
def setManual (w : World) (name : String) (s : ManualSource) : World :=
  { w with manual := (name, s) :: w.manual.filter (·.1 ≠ name) }

/-! ## The turns of a fetch loop -/

/-- The pull of a fetch loop has landed. If the loop now waits, its deadline
is set. -/
def land (w : World) (engine generation : Nat) (result : Except FetchError Snapshot) : World :=
  let w := w.onBoard (·.engineEvent engine (.landed generation result))
  match w.board.stations[engine]? with
  | some station =>
    if station.engine.stageOf? generation = some .resting then
      w.sleep (.fetch engine generation) station.engine.settings.retry
    else w
  | none => w

/-- The source of a fetch loop answers, if it can. -/
def awaitAnswer (w : World) (engine generation : Nat) (feed : Feed) (period : Period) : World :=
  if feed.manual then
    match (w.manualSource feed.source).answer? engine generation with
    | some result => w.land engine generation result
    | none => w.dequeue
  else
    let s := w.stockedSource feed.source
    if s.paused then
      { w.dequeue with held := w.held ++ [(feed.source, .fetch engine generation)] }
    else
      let (result, s) := s.answer period
      (w.setStocked feed.source s).land engine generation result

/-- A fetch loop pulls. -/
def pull (w : World) (engine generation : Nat) (feed : Feed) (period : Period) : World :=
  let w := w.onBoard (·.engineEvent engine (.pull generation))
  if feed.manual then
    w.setManual feed.source ((w.manualSource feed.source).add engine generation period)
  else w.setStocked feed.source (w.stockedSource feed.source).begin

/-- **A move of a fetch loop.** -/
def fetchTurn (w : World) (engine generation : Nat) : World :=
  match w.board.stations[engine]?, w.feeds[engine]? with
  | some station, some feed =>
    let period := station.engine.period
    match station.engine.stageOf? generation with
    | some .queued => w.pull engine generation feed period
    | some .pulling => w.awaitAnswer engine generation feed period
    | some .resting =>
      if w.isDue (.fetch engine generation) then w.pull engine generation feed period
      else w.dequeue
    | none => w.dequeue
  | _, _ => w.dequeue

/-! ## The turns of a ticker -/

/-- **A move of a ticker.** Its first tick only sets the time of the
second. A ticker without any time between its ticks never ticks. -/
def tickerTurn (w : World) (engine : Nat) : World :=
  match w.board.stations[engine]? with
  | none => w.dequeue
  | some station =>
    match station.engine.stopped, station.engine.settings.refresh with
    | false, some every =>
      if every.millisUp = 0 then w.dequeue
      else match w.ticks.lookup engine with
      | none =>
        { w with ticks := (engine, w.board.now) :: w.ticks }.setDeadline (.ticker engine)
          (w.board.now + every.millisUp)
      | some last =>
        if w.isDue (.ticker engine) then
          let now := last + every.millisUp
          let w := { w with ticks := (engine, now) :: w.ticks.filter (·.1 ≠ engine) }
          (w.onBoard (·.engineEvent engine .refresh)).setDeadline (.ticker engine)
            (now + every.millisUp)
        else w.dequeue
    | _, _ => w.dequeue

/-! ## The turns of a driver -/

/-- The connection of a driver. -/
def line? (w : World) (driver : Nat) : Option Nat :=
  w.lines.lookup driver

/-- A driver that does not read gives its connection up. -/
def hangUp (w : World) (driver : Nat) : World :=
  match w.line? driver with
  | some n =>
    { w with
      transport := w.transport.abandon n
      lines := w.lines.filter (·.1 ≠ driver)
      deadlines := w.deadlines.filter (·.1 ≠ .driver driver) }
  | none => w

/-- What a stage that a driver has come to asks for: a new connection must
settle in time, and a delay must pass. -/
def enterStage (w : World) (driver : Nat) : World :=
  match w.board.link.drivers[driver]? with
  | none => w
  | some d =>
    match d.stage with
    | .reading false => w.sleep (.driver driver) w.board.link.policy.maxDelay
    | .pausing delay => (w.hangUp driver).sleep (.driver driver) delay
    | .ended => w.hangUp driver
    | _ => w

/-- The stage of a driver. -/
def stage? (w : World) (driver : Nat) : Option DriverStage :=
  (w.board.link.drivers[driver]?).map fun d => d.stage

/-- **Something happens to a driver.** -/
def drive (w : World) (driver : Nat) (event : DriverEvent) : World :=
  let after := w.move (.driver driver event)
  if after.stage? driver = w.stage? driver then after else after.enterStage driver

/-- An attempt of a driver to open a connection. -/
def redial (w : World) (driver : Nat) (token : String) : World :=
  let (result, transport) := w.transport.dial token
  let w := { w with transport := transport }
  match result with
  | .ok n =>
    { w with lines := (driver, n) :: w.lines }.drive driver (.opened (.ok ()))
  | .error error => w.drive driver (.opened (.error error))

/-- What a driver does with its connection. -/
def readLine (w : World) (driver : Nat) : World :=
  match w.line? driver with
  | none => w.dequeue
  | some n =>
    match w.transport.read n with
    | (.item item, transport) => { w with transport := transport }.drive driver (.item item)
    | (.closed, _) => w.drive driver .closed
    | (.nothing, _) => w.dequeue

/-- **A move of a driver.** That it was told to stop it notices first, then
that its time has come, and then what its connection brings. -/
def driverTurn (w : World) (driver : Nat) : World :=
  match w.board.link.drivers[driver]? with
  | none => w.dequeue
  | some d =>
    match d.stage with
    | .ended => w.dequeue
    | .fresh _ => w.drive driver .begin
    | .opening => w.redial driver d.token
    | .reading settled =>
      if d.cancelled then w.drive driver .noticed
      else if !settled && w.isDue (.driver driver) then w.drive driver .outlived
      else w.readLine driver
    | .pausing _ =>
      if d.cancelled then w.drive driver .noticed
      else if w.isDue (.driver driver) then w.drive driver .rested
      else w.dequeue

/-! ## Running -/

/-- **One move of the task whose turn it is.** -/
def turn (w : World) : World :=
  match w.ready with
  | [] => w
  | .driver driver :: _ => w.driverTurn driver
  | .fetch engine generation :: _ => w.fetchTurn engine generation
  | .ticker engine :: _ => w.tickerTurn engine

/-- Moves until no task has anything to do, or until `moves` are made. -/
def runFor : Nat → World → World
  | 0, w => w
  | moves + 1, w => if w.ready.isEmpty then w else runFor moves w.turn

/-- The moves after which a run is cut off. -/
def maxMoves : Nat := 2000000

/-- **Turns until no task has anything to do.** -/
def run (w : World) : World :=
  runFor maxMoves w

/-! ## Time -/

/-- The earliest deadline up to a time. -/
def nextDue? (w : World) (limit : Nat) : Option Nat :=
  ((w.deadlines.map (·.2)).filter (· ≤ limit)).min?

/-- Every task whose deadline has come is put in the queue. -/
def fire (w : World) (now : Nat) : World :=
  let due := (w.deadlines.filter (·.2 ≤ now)).map (·.1)
  due.foldl wake { w with
    board := { w.board with now := now }
    deadlines := w.deadlines.filter (now < ·.2) }

/-- Lets time pass from deadline to deadline; `moves` bounds their
number. -/
def advanceTo : Nat → Nat → World → World
  | 0, _, w => w
  | moves + 1, limit, w =>
    match w.nextDue? limit with
    | some due => advanceTo moves limit (w.fire due).run
    | none => w.fire limit

/-- **Lets time pass.** -/
def advance (w : World) (millis : Nat) : World :=
  advanceTo maxMoves (w.board.now + millis) w

end World

end Liveboard
