import Liveboard.Wire.Scalar

/-!
# The state of the push channel

Where the channel stands, with the three ways it leaves the client: its
name on the display, its number on the gauge, and its JSON
(`ChannelState.ofJson`), which is its name again. The states are listed once
(`ChannelState.all`), and what reads them by name reads that list.
-/

namespace Liveboard

/-- **Where the push channel stands.** -/
inductive ChannelState where
  /-- No connection, and none is being opened. -/
  | disconnected
  /-- A connection is being opened. -/
  | connecting
  /-- A connection is open. -/
  | connected
  /-- The last attempt failed. -/
  | error
  deriving DecidableEq, Repr, Inhabited

namespace ChannelState

/-- The name of a state. -/
def name : ChannelState → String
  | .disconnected => "disconnected"
  | .connecting => "connecting"
  | .connected => "connected"
  | .error => "error"

/-- The long name of a state, for diagnostics. -/
def longName : ChannelState → String
  | .disconnected => "Disconnected"
  | .connecting => "Connecting"
  | .connected => "Connected"
  | .error => "Error"

/-- The number that stands for a state on the gauge. -/
def level : ChannelState → Nat
  | .disconnected => 0
  | .connecting => 1
  | .connected => 2
  | .error => 3

/-- All states. -/
def all : List ChannelState := [.disconnected, .connecting, .connected, .error]

/-- The states by name. -/
def named : List (String × ChannelState) := all.map fun s => (s.name, s)

/-- The state of a JSON value. -/
def ofJson : Json → Except Fault ChannelState :=
  Scalar.variant named

end ChannelState

end Liveboard
