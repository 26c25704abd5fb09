import Liveboard.Metrics.Event
import Liveboard.Registry.Basic

/-!
# Watching one API

A watcher keeps the latest metrics of one API. Each event about that API
replaces the reading; nothing is merged, since an update of an API carries
its totals and not a difference.

Events about other APIs are told apart by their identifier alone, before
the rest of the payload is read (`ApiUpdate.addressed`). So a payload is
found faulty only by a watcher that it is meant for. `Watcher.receive`
returns the fault beside the watcher, since the meter that counts it is the
board's.
-/

namespace Liveboard

/-- **The latest metrics of an API.** -/
structure ApiReading where
  /-- What was sent. -/
  update : ApiUpdate
  /-- When it was received, in milliseconds. -/
  updatedAt : Int

/-- Whether the data of an event name an API. -/
def Event.concerns (e : Event) (entity : String) : Bool :=
  match e.data.get? "api_id" with
  | some (.string id) => id == entity
  | _ => false

/-- **An event as an update for one API**: none if it is about another. -/
def ApiUpdate.addressed (entity : String) (e : Event) : Except ChannelError (Option ApiUpdate) :=
  if e.concerns entity then (e.decode ApiUpdate.ofJson).map some else .ok none

/-- **What a watcher knows.** -/
structure Watcher where
  /-- The API it watches. -/
  entity : String
  /-- The latest metrics. -/
  reading : Option ApiReading
  /-- Its registration; none after it was stopped. -/
  handle : Option Handle

namespace Watcher

/-- What the registration for `entity` does with an event: the watcher
after it, and whether the payload was faulty. -/
def receive (w : Watcher) (entity : String) (e : Event) : Watcher × Bool :=
  match ApiUpdate.addressed entity e with
  | .ok (some update) => ({ w with reading := some ⟨update, e.receivedAt⟩ }, false)
  | .ok none => (w, false)
  | .error _ => (w, true)

end Watcher

end Liveboard
