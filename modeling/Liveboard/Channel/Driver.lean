import Liveboard.Channel.Status
import Liveboard.Timing.Backoff

/-!
# The driver of a session

A session of the channel is run by a driver. It reads the frames of a
connection until the connection is lost, waits, opens another, and so on,
until it is cancelled, rejected or out of attempts.

A connection settles with its first text frame, or when it has lasted as
long as the longest delay. Only a settled connection clears the failures in
a row and the growth of the delays: a backend that accepts connections and
drops them at once would otherwise be asked again at the shortest delay for
ever.

Between two events a driver waits, and `DriverStage` is what it waits for.
`Driver.handle` is what it does at an event; an event that does not fit the
stage does nothing, so that any list of events is a run and no order of
them has to be assumed. That a driver is cancelled is a mark it notices at
its next point of waiting, and not a stage of its own.
-/

namespace Liveboard

/-- What a connection brings. -/
inductive StreamItem where
  /-- A text frame. -/
  | text (frame : String)
  /-- Something went wrong. -/
  | fault (error : ChannelError)
  deriving DecidableEq, Repr

/-- **What a driver waits for.** -/
inductive DriverStage where
  /-- Its first turn; whether it begins with a connection. -/
  | fresh (connected : Bool)
  /-- What its connection brings; whether the connection has settled. -/
  | reading (settled : Bool)
  /-- The end of a delay. -/
  | pausing (delay : Span)
  /-- The answer to an attempt to open a connection. -/
  | opening
  /-- Nothing any more. -/
  | ended
  deriving DecidableEq, Repr, Inhabited

/-- **The driver of a session.** -/
structure Driver where
  /-- The token it opens connections with. -/
  token : String
  /-- The delays between its attempts. -/
  backoff : Backoff
  /-- What it waits for. -/
  stage : DriverStage
  /-- Whether it was told to stop. -/
  cancelled : Bool
  deriving Inhabited

/-- **What can happen to a driver.** -/
inductive DriverEvent where
  /-- Its first turn. -/
  | begin
  /-- Its connection has lasted as long as the longest delay. -/
  | outlived
  /-- Its connection brings something. -/
  | item (item : StreamItem)
  /-- Its connection ends. -/
  | closed
  /-- Its delay is over. -/
  | rested
  /-- Its attempt is answered. -/
  | opened (result : Except ChannelError Unit)
  /-- It notices that it was told to stop. -/
  | noticed

/-- What has come of an event: the status of the channel, the driver, and
what is told. -/
structure DriverTurn where
  /-- The status of the channel. -/
  status : ChannelStatus
  /-- The driver. -/
  driver : Driver
  /-- What is told, the first first. -/
  notices : List ChannelNotice

namespace Driver

/-- A driver that has had no turn yet. -/
def fresh (policy : BackoffPolicy) (token : String) (connected : Bool) : Driver where
  token := token
  backoff := .ofPolicy policy
  stage := .fresh connected
  cancelled := false

/-- Whether the driver waits for nothing any more. -/
def isEnded (d : Driver) : Bool :=
  d.stage = .ended

/-- The driver at its end. -/
def finish (d : Driver) : Driver :=
  { d with stage := .ended }

/-- **Without a connection** the driver gives up if it is out of attempts,
and waits otherwise. A delay that is longer than any span ends it. -/
def retry (d : Driver) (c : ChannelStatus) (draw : Float) : DriverTurn :=
  if d.backoff.policy.maxFailures ≤ c.failures then
    let (c, notices) := c.giveUp
    ⟨c, d.finish, notices⟩
  else
    match d.backoff.next draw with
    | (some delay, backoff) => ⟨c, { d with backoff := backoff, stage := .pausing delay }, []⟩
    | (none, backoff) => ⟨c, { d with backoff := backoff, stage := .ended }, []⟩

/-- **The connection is lost.** One that has settled resets the growth of
the delays, another one counts as a failed attempt. -/
def lose (d : Driver) (c : ChannelStatus) (settled : Bool) (error : ChannelError) (draw : Float) :
    DriverTurn :=
  let c := c.recordError error
  let d := if settled then { d with backoff := d.backoff.reset } else d
  let (c, told) := (if settled then c else c.countFailure).setState .disconnected
  let turn := d.retry c draw
  { turn with notices := told ++ turn.notices }

/-- The error of a connection that the other side closed. -/
def closedByPeer : ChannelError := .transport "closed by peer"

/-- What the driver does with what its connection brings. -/
def takeItem (d : Driver) (c : ChannelStatus) (settled : Bool) (item : StreamItem) (now : Int)
    (draw : Float) : DriverTurn :=
  match item with
  | .text frame =>
    let (c, notices) := (if settled then c else c.settle).receive frame now
    ⟨c, { d with stage := .reading true }, notices⟩
  | .fault (.decode _) =>
    let (c, notices) := c.dropFrame
    ⟨c, d, notices⟩
  | .fault error => d.lose c settled error draw

/-- What the driver does with the answer to its attempt. -/
def takeAnswer (d : Driver) (c : ChannelStatus) (result : Except ChannelError Unit)
    (draw : Float) : DriverTurn :=
  match result with
  | .ok _ =>
    let (c, notices) := c.setState .connected
    ⟨c, { d with stage := .reading false }, notices⟩
  | .error error =>
    let (c, notices) := c.attemptFailed error
    if error.isRetryable then
      let turn := d.retry c draw
      { turn with notices := notices ++ turn.notices }
    else ⟨c, d.finish, notices⟩

/-- **What an event does.** `now` is the time of receipt, and `draw`
chooses the place of a delay in its band. A driver that waits and was told
to stop does nothing any more but notice it. -/
def handle (d : Driver) (event : DriverEvent) (c : ChannelStatus) (now : Int) (draw : Float) :
    DriverTurn :=
  match event, d.stage, d.cancelled with
  | .begin, .fresh true, _ => ⟨c, { d with stage := .reading false }, []⟩
  | .begin, .fresh false, _ => d.retry c draw
  | .outlived, .reading false, false => ⟨c.settle, { d with stage := .reading true }, []⟩
  | .item item, .reading settled, false => d.takeItem c settled item now draw
  | .closed, .reading settled, false => d.lose c settled closedByPeer draw
  | .rested, .pausing _, false =>
    let (c, notices) := c.setState .connecting
    ⟨c, { d with stage := .opening }, .meter (.count .reconnectAttempts) :: notices⟩
  | .opened result, .opening, false => d.takeAnswer c result draw
  | .noticed, .reading _, true | .noticed, .pausing _, true | .noticed, .opening, true =>
    ⟨c, d.finish, []⟩
  | _, _, _ => ⟨c, d, []⟩

end Driver

end Liveboard
