import Liveboard.Channel.Error
import Liveboard.Metrics.Payload
import Liveboard.Wire.Text
import Liveboard.Json.Writing

/-!
# Events

A text frame of the push channel is a JSON record with a type and data.
The connection manager turns the frames it can read into events and
numbers them in the order of receipt. The data stay as they are until a
subscriber decodes them (`Event.decode`), for only a subscriber knows what
the data of a type should be; a frame can thus be read although nobody can
make sense of its data.
-/

namespace Liveboard

/-- The type of events about the usage of all streams. -/
def usageEvents : String := "metrics.update"

/-- The type of events about one API. -/
def apiEvents : String := "api.metrics.update"

/-- **What a text frame says.** -/
structure Frame where
  /-- The type of the event. -/
  type : String
  /-- Its data, whose shape depends on the type. -/
  data : Json

namespace Frame

/-- How a frame is decoded. -/
def shape : RecordShape Frame where
  name := "RawFrame"
  blank := ⟨"", .null⟩
  fields := [
    ⟨"type", true, fun v r => do return { r with type := ← Scalar.text v }⟩,
    ⟨"data", false, fun v r => .ok { r with data := v }⟩]

/-- **The frame of a text.** -/
def parse (text : String) : Except ReadFault Frame :=
  shape.ofText text

/-- The text of a frame. -/
def text (f : Frame) : String :=
  (Json.ofMembers [("type", .string f.type), ("data", f.data)]).compact

end Frame

/-- **An event of the push channel.** -/
structure Event where
  /-- The type of the event. -/
  type : String
  /-- Its data, whose shape depends on the type. -/
  data : Json
  /-- Its place in the order of receipt, from one on. No run has as many as
  `2 ^ 64` of them. -/
  sequence : Nat
  /-- When it was received, in milliseconds. -/
  receivedAt : Int

namespace Event

/-- The event of a frame. -/
def ofFrame (f : Frame) (sequence : Nat) (receivedAt : Int) : Event :=
  ⟨f.type, f.data, sequence, receivedAt⟩

/-- **The data of an event as a record.** The complaint names the type of
the event. -/
def decode {ρ : Type} (e : Event) (read : Json → Except Fault ρ) : Except ChannelError ρ :=
  match read e.data with
  | .ok record => .ok record
  | .error fault => .error (.decode s!"{e.type} payload: {fault.message}")

end Event

end Liveboard
