import Liveboard.Channel.Error
import Liveboard.Metrics.Event
import Liveboard.Metrics.Meter

/-!
# The status of the channel

What the connection manager knows of its channel: the state, the failures
in a row, what was received and the last error. Every operation here runs
at once, and yields beside the new status what subscribers are to be told
(`ChannelNotice`), in the order in which they are told. Keeping the two
apart lets a driver and a call use one set of operations, and lets what was
told be compared with what is so.

`ChannelStatus.setState` tells of a state only if it is another one.
`ChannelStatus.attemptFailed` counts the failure, unless no attempt will
follow it; `ChannelStatus.settle` takes the count back to nothing.
-/

namespace Liveboard

/-- **What is known of the channel.** The counters of events and frames are whole
numbers without a bound. Each grows by one at a time, and only when a frame
comes in, so no run is long enough to take one to `2 ^ 64`. -/
structure ChannelStatus where
  /-- Where the channel stands. -/
  state : ChannelState
  /-- The failures in a row since a connection settled. The manager gives up
  when they come to the bound of its policy, and 32 bits hold them
  as they hold that. -/
  failures : Nat
  /-- Whether the manager gave up. -/
  exhausted : Bool
  /-- The number of the last event. -/
  sequence : Nat
  /-- The number of events received. -/
  received : Nat
  /-- The number of frames that could not be read. -/
  decodeErrors : Nat
  /-- The last event. -/
  lastMessage : Option Event
  /-- The last error of a connection or an attempt. -/
  lastError : Option ChannelError
  deriving Inhabited

/-- **What is told about the channel.** -/
inductive ChannelNotice where
  /-- A meter changed. -/
  | meter (change : MeterChange)
  /-- The channel has a new state. -/
  | state (state : ChannelState)
  /-- An event came in. -/
  | event (event : Event)

namespace ChannelStatus

/-- The status before the first call. -/
def initial : ChannelStatus where
  state := .disconnected
  failures := 0
  exhausted := false
  sequence := 0
  received := 0
  decodeErrors := 0
  lastMessage := none
  lastError := none

/-- **Changes the state.** It is told only if it is another one. -/
def setState (c : ChannelStatus) (state : ChannelState) : ChannelStatus × List ChannelNotice :=
  if c.state = state then (c, [])
  else ({ c with state := state }, [.meter (.set .channelState state.level), .state state])

/-- Counts a frame that could not be read. -/
def dropFrame (c : ChannelStatus) : ChannelStatus × List ChannelNotice :=
  ({ c with decodeErrors := c.decodeErrors + 1 }, [.meter (.count (.decodeErrors "frame"))])

/-- **Takes a text frame.** If it can be read it is the next event. -/
def receive (c : ChannelStatus) (frame : String) (now : Int) :
    ChannelStatus × List ChannelNotice :=
  match Frame.parse frame with
  | .error _ => c.dropFrame
  | .ok f =>
    let event := Event.ofFrame f (c.sequence + 1) now
    ({ c with
        sequence := c.sequence + 1
        received := c.received + 1
        lastMessage := some event },
      [.meter (.count (.messages f.type)), .event event])

/-- Notes an error. -/
def recordError (c : ChannelStatus) (error : ChannelError) : ChannelStatus :=
  { c with lastError := some error }

/-- One more failure in a row. -/
def countFailure (c : ChannelStatus) : ChannelStatus :=
  { c with failures := c.failures + 1 }

/-- The connection has settled: no failures in a row. -/
def settle (c : ChannelStatus) : ChannelStatus :=
  { c with failures := 0 }

/-- **An attempt to connect failed.** It counts as a failure unless no
further attempt is made. -/
def attemptFailed (c : ChannelStatus) (error : ChannelError) :
    ChannelStatus × List ChannelNotice :=
  let c := c.recordError error
  (if error.isRetryable then c.countFailure else c).setState .error

/-- The manager gives up. -/
def giveUp (c : ChannelStatus) : ChannelStatus × List ChannelNotice :=
  { c with exhausted := true }.setState .error

/-- What a call to connect clears. -/
def clearFailures (c : ChannelStatus) : ChannelStatus :=
  { c with failures := 0, exhausted := false, lastError := none }

@[simp] theorem state_setState (c : ChannelStatus) (s : ChannelState) :
    (c.setState s).1.state = s := by
  unfold setState; split <;> simp_all

@[simp] theorem state_settle (c : ChannelStatus) : c.settle.state = c.state := rfl

@[simp] theorem failures_settle (c : ChannelStatus) : c.settle.failures = 0 := rfl

@[simp] theorem state_dropFrame (c : ChannelStatus) : c.dropFrame.1.state = c.state := rfl

/-- A frame never changes the state of the channel. -/
@[simp] theorem state_receive (c : ChannelStatus) (frame : String) (now : Int) :
    (c.receive frame now).1.state = c.state := by
  unfold receive; split <;> rfl

end ChannelStatus

end Liveboard
