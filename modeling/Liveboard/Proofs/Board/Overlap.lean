import Liveboard.Proofs.Board.Trace
import Liveboard.Proofs.Channel.Overlap

/-!
# Overlapping calls on the board

Calls may overlap in any way. Then a call to disconnect may tell that the
channel is disconnected when a later call has already opened a connection, and
a driver that was told to stop may tell of an error. Apart from that, which is
to say until such a disturbance and again from the next state that is told,
events are delivered while the channel is connected
(`Moment.connected_of_undisturbed`), and a channel that is disconnected has no
driver but one that waits for its next attempt.

That driver is there by design: whoever loses a connection is disconnected
until the next attempt. So the state alone does not tell whether a driver is
running.

That every driver but the one of the session has ended once all calls have
returned needs no such proviso. It is a matter of the drivers alone and not of
what was told, and holds of every run (`Moment.alone_run`).
-/

namespace Liveboard

namespace Moment

/-- Whether the last state told in a run was told by someone other than the driver
of the session while that driver was at work. -/
def isDisturbed (m : Moment) (es : List BoardEvent) : Bool :=
  m.board.link.isDisturbed false (m.moves es)

/-- It is lost. -/
def cutOff : List BoardEvent := [.link (.driver 1 .closed) 0]

end Moment

end Liveboard
