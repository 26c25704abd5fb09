import Liveboard.Channel.Driver

/-!
# The connection manager

One logical connection to the backend: at most one session at a time is
the current one, and calls to connect and to disconnect replace and end
it. Calls may overlap. Each has points at which it waits, and between two
of them it runs at once:

* both first wait for the lock of the session, in the order of the calls;
* a call to connect keeps the lock to its end; it stops the driver of the
  current session and waits for its end, then opens a connection and waits
  for the answer, and then starts a driver;
* a call to disconnect takes the session and gives the lock back before it
  waits for the end of the driver.

The difference between the last two decides what overlapping calls can do:
a second call may run while a call to disconnect still waits.

`Link.handle` says what each of these moves does. A move that is not due
does nothing, so the interleavings of the calls are the lists of
`LinkEvent`s, all of them. A run in which a call begins only when the
manager is `Link.settled` is one in which calls do not overlap.
-/

namespace Liveboard

/-- What a caller asks for. -/
inductive Request where
  /-- Open the channel with a token. -/
  | connect (token : String)
  /-- Close the channel. -/
  | disconnect
  deriving DecidableEq, Repr, Inhabited

/-- **What a call waits for.** -/
inductive CallStage where
  /-- The lock of the session. -/
  | locking
  /-- The end of a driver, by its number. -/
  | stopping (driver : Nat)
  /-- The answer to its attempt to open a connection. -/
  | opening
  /-- Nothing: it has returned, with an error or without. -/
  | done (error : Option ChannelError)
  deriving DecidableEq, Repr, Inhabited

/-- **A call on the manager.** -/
structure Call where
  /-- What is asked for. -/
  request : Request
  /-- What the call waits for. -/
  stage : CallStage
  deriving DecidableEq, Repr, Inhabited

/-- Whether a call has returned. -/
def Call.isDone (c : Call) : Bool :=
  match c.stage with
  | .done _ => true
  | _ => false

/-- **The connection manager.** Drivers and calls are numbered in the order
in which they began. -/
structure Link where
  /-- How reconnects are spaced. -/
  policy : BackoffPolicy
  /-- What is known of the channel. -/
  status : ChannelStatus
  /-- All drivers so far. -/
  drivers : List Driver
  /-- The driver of the current session. -/
  session : Option Nat
  /-- All calls so far. -/
  calls : List Call
  /-- The call that holds the lock. -/
  holder : Option Nat
  /-- The calls that wait for the lock, the first in line first. -/
  waiting : List Nat
  deriving Inhabited

/-- **The moves of a manager.** -/
inductive LinkEvent where
  /-- A new call begins. -/
  | call (request : Request)
  /-- A call goes on, if what it waits for has come. -/
  | proceed (call : Nat)
  /-- The attempt of a call is answered. -/
  | answered (call : Nat) (result : Except ChannelError Unit)
  /-- Something happens to a driver. -/
  | driver (driver : Nat) (event : DriverEvent)

/-- What has come of a move: the manager, and what is told. -/
structure LinkTurn where
  /-- The manager. -/
  link : Link
  /-- What is told, the first first. -/
  notices : List ChannelNotice

namespace Link

/-- A manager that was never called. -/
def initial (policy : BackoffPolicy) : Link where
  policy := policy
  status := .initial
  drivers := []
  session := none
  calls := []
  holder := none
  waiting := []

/-! ## Calls -/

/-- What a call waits for. -/
def callStage? (l : Link) (call : Nat) : Option CallStage :=
  (l.calls[call]?).map (·.stage)

/-- Moves a call to a stage. -/
def setCall (l : Link) (call : Nat) (stage : CallStage) : Link :=
  { l with calls := l.calls.modify call fun c => { c with stage := stage } }

/-- Gives the lock back. -/
def unlock (l : Link) : Link :=
  { l with holder := none }

/-- Changes the state of the channel. -/
def setState (l : Link) (state : ChannelState) : LinkTurn :=
  let (status, notices) := l.status.setState state
  ⟨{ l with status := status }, notices⟩

/-- Tells a driver to stop. -/
def cancel (l : Link) (driver : Nat) : Link :=
  { l with drivers := l.drivers.modify driver fun d => { d with cancelled := true } }

/-- Whether a driver has ended. -/
def hasEnded (l : Link) (driver : Nat) : Bool :=
  (l.drivers[driver]?).all (·.isEnded)

/-- A call to connect clears the failures and attempts to open a
connection. -/
def beginOpening (l : Link) (call : Nat) : LinkTurn :=
  ({ l with status := l.status.clearFailures }.setCall call .opening).setState .connecting

/-- A call to disconnect has nothing left to stop. -/
def finishClosing (l : Link) (call : Nat) : LinkTurn :=
  (l.setCall call (.done none)).setState .disconnected

/-- **A call gets the lock** and takes the current session. -/
def grant (l : Link) (call : Nat) (request : Request) : LinkTurn :=
  let l' := { l with waiting := l.waiting.drop 1, holder := some call, session := none }
  match request, l.session with
  | .connect _, some driver => ⟨(l'.cancel driver).setCall call (.stopping driver), []⟩
  | .connect _, none => l'.beginOpening call
  | .disconnect, some driver =>
    ⟨((l'.cancel driver).setCall call (.stopping driver)).unlock, []⟩
  | .disconnect, none => l'.unlock.finishClosing call

/-- **A call goes on**, if what it waits for has come. -/
def proceed (l : Link) (call : Nat) : LinkTurn :=
  match l.calls[call]? with
  | some ⟨request, .locking⟩ =>
    if l.holder = none ∧ l.waiting.head? = some call then l.grant call request else ⟨l, []⟩
  | some ⟨.connect _, .stopping driver⟩ =>
    if l.hasEnded driver then l.beginOpening call else ⟨l, []⟩
  | some ⟨.disconnect, .stopping driver⟩ =>
    if l.hasEnded driver then l.finishClosing call else ⟨l, []⟩
  | _ => ⟨l, []⟩

/-- A call to connect starts a driver and returns. -/
def startDriver (l : Link) (call : Nat) (token : String) (connected : Bool) : Link :=
  { (l.setCall call (.done none)).unlock with
    drivers := l.drivers ++ [.fresh l.policy token connected]
    session := some l.drivers.length }

/-- **The attempt of a call is answered.** A rejected token ends the call
with the error; after any other failure the driver goes on trying. -/
def takeAnswer (l : Link) (call : Nat) (token : String) (result : Except ChannelError Unit) :
    LinkTurn :=
  match result with
  | .ok _ =>
    let turn := l.setState .connected
    { turn with link := turn.link.startDriver call token true }
  | .error error =>
    let (status, notices) := l.status.attemptFailed error
    let l := { l with status := status }
    if error.isRetryable then ⟨l.startDriver call token false, notices⟩
    else ⟨(l.setCall call (.done (some error))).unlock, notices⟩

/-! ## Everything that can happen -/

/-- A driver takes its turn. -/
def drive (l : Link) (driver : Nat) (event : DriverEvent) (now : Int) (draw : Float) : LinkTurn :=
  match l.drivers[driver]? with
  | some d =>
    let turn := d.handle event l.status now draw
    ⟨{ l with status := turn.status, drivers := l.drivers.set driver turn.driver }, turn.notices⟩
  | none => ⟨l, []⟩

/-- **What a move does.** -/
def handle (l : Link) (event : LinkEvent) (now : Int) (draw : Float) : LinkTurn :=
  match event with
  | .call request =>
    ⟨{ l with calls := l.calls ++ [⟨request, .locking⟩], waiting := l.waiting ++ [l.calls.length] },
      []⟩
  | .proceed call => l.proceed call
  | .answered call result =>
    match l.calls[call]? with
    | some ⟨.connect token, .opening⟩ => l.takeAnswer call token result
    | _ => ⟨l, []⟩
  | .driver driver event => l.drive driver event now draw

/-- Whether no call is under way. -/
def settled (l : Link) : Bool :=
  l.calls.all Call.isDone

/-- The text of a manager, for diagnostics. -/
def summary (l : Link) (endpoint : String) : String :=
  s!"ConnectionManager \x7b endpoint: {Quoted.quote endpoint}, "
    ++ s!"state: {l.status.state.longName} \x7d"

end Link

end Liveboard
