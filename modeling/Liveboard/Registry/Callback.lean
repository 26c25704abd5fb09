import Liveboard.Registry.Basic
import Liveboard.Json.Value

/-!
# Callbacks that work on the registry

A callback may itself register, end registrations and deliver. Here a
callback is a list of such steps under a label, and a deed done by a step
outside of any delivery runs everything that it sets off
(`Rehearsal.perform`). How often a callback may act is counted by label,
across all registrations that share the label, so that a callback which
registers itself again does not begin to count anew.

Callbacks that set each other off without end are cut off at a depth.
-/

namespace Liveboard

/-- **A step on the registry.** -/
inductive RegistryStep where
  /-- Registers the callback `deeds` under a label. -/
  | subscribe (label : String) (topic : Topic) (deeds : List RegistryStep)
      (maxFires : Option Nat)
  /-- Ends the registration known under a label. -/
  | unsubscribe (label : String)
  /-- Whether the registration known under a label is active. -/
  | isActive (label : String)
  /-- The type of events of the registration known under a label. -/
  | eventType (label : String)
  /-- Delivers an event. -/
  | dispatch (type : String) (data : Json)
  /-- Delivers a state of the channel. -/
  | dispatchState (state : ChannelState)
  /-- The entries of a type of events and those for states. -/
  | count (type : String)
  /-- Ends every registration. -/
  | clear
  /-- Gives the registry up; a delivery that goes on is not stopped. -/
  | release
  /-- The text of the registry. -/
  | summary
  deriving Inhabited

/-- What a callback does, and who it belongs to. -/
structure Callback where
  /-- The label under which calls are noted and counted. -/
  label : String
  /-- The steps it takes. -/
  deeds : List RegistryStep
  /-- The number of calls at which it still takes them. -/
  maxFires : Option Nat

/-- What a step answers. -/
inductive RegistryAnswer where
  /-- Nothing to say. -/
  | none
  /-- A number of calls. -/
  | number (n : Nat)
  /-- Whether a registration is active. -/
  | flag (b : Bool)
  /-- A text. -/
  | text (s : String)
  /-- The entries of a type and those for states. -/
  | counts (entries listeners : Nat)
  /-- The registry was given up. -/
  | noRegistry

/-- What is delivered. -/
inductive Delivery where
  /-- The data of an event. -/
  | event (data : Json)
  /-- A state of the channel. -/
  | state (state : ChannelState)

/-- The value by which a delivery is noted. -/
def Delivery.toJson : Delivery → Json
  | .event data => data
  | .state s => .string s.name

/-- **The registry at work.** -/
structure Rehearsal where
  /-- The registry. -/
  registry : Registry Callback
  /-- Whether it was given up. -/
  released : Bool
  /-- The handle that a label stands for, the latest first. -/
  handles : List (String × Handle)
  /-- The number of calls by label. -/
  fires : List (String × Nat)
  /-- The calls made: label and what was delivered, the latest first. -/
  calls : List (String × Delivery)

namespace Rehearsal

/-- Nothing registered, nothing called. -/
def start : Rehearsal where
  registry := .empty
  released := false
  handles := []
  fires := []
  calls := []

/-- The calls noted so far, the first call first. -/
def log (r : Rehearsal) : List (String × Delivery) := r.calls.reverse

/-- Notes a call of a callback, and tells whether it takes its steps. -/
def note (r : Rehearsal) (c : Callback) (d : Delivery) : Bool × Rehearsal :=
  let fired := (r.fires.lookup c.label).getD 0 + 1
  (c.maxFires.all fun limit => fired ≤ limit,
    { r with
      fires := (c.label, fired) :: r.fires.filter (·.1 ≠ c.label)
      calls := (c.label, d) :: r.calls })

/-- A step that needs the registry. -/
def withRegistry (r : Rehearsal) (deed : Rehearsal → RegistryAnswer × Rehearsal) :
    RegistryAnswer × Rehearsal :=
  if r.released then (.noRegistry, r) else deed r

/-- **One step with all that it sets off.** `depth` bounds how deeply
callbacks set each other off. -/
def perform : Nat → RegistryStep → Rehearsal → RegistryAnswer × Rehearsal
  | 0, _, r => (.none, r)
  | depth + 1, step, r =>
    let deliver (topic : Topic) (d : Delivery) (r : Rehearsal) : RegistryAnswer × Rehearsal :=
      let (called, r) := Registry.deliver Rehearsal.registry (fun e r =>
        let (acts, r) := r.note e.callback d
        if acts then e.callback.deeds.foldl (fun r deed => (perform depth deed r).2) r else r)
        topic r
      (.number called.length, r)
    match step with
    | .subscribe label topic deeds maxFires => r.withRegistry fun r =>
      let (handle, registry) := r.registry.subscribe topic ⟨label, deeds, maxFires⟩
      (.none, { r with registry := registry, handles := (label, handle) :: r.handles })
    | .unsubscribe label =>
      match r.handles.lookup label with
      | some handle => (.none, { r with registry := r.registry.unsubscribe handle })
      | none => (.none, r)
    | .isActive label =>
      match r.handles.lookup label with
      | some handle => (.flag (r.registry.isActive handle.id), r)
      | none => (.none, r)
    | .eventType label =>
      match (r.handles.lookup label).bind (·.topic.eventType?) with
      | some type => (.text type, r)
      | none => (.none, r)
    | .dispatch type data => r.withRegistry (deliver (.events type) (.event data))
    | .dispatchState state => r.withRegistry (deliver .states (.state state))
    | .count type => r.withRegistry fun r =>
      (.counts (r.registry.count (.events type)) (r.registry.count .states), r)
    | .clear => r.withRegistry fun r => (.none, { r with registry := r.registry.clear })
    | .release => (.none, { r with released := true })
    | .summary => r.withRegistry fun r => (.text r.registry.summary, r)

/-- The depth at which callbacks that set each other off are cut off. -/
def maxDepth : Nat := 4096

/-- A step, its answer and the calls that it led to. -/
def step (s : RegistryStep) (r : Rehearsal) :
    (RegistryAnswer × List (String × Delivery)) × Rehearsal :=
  let (answer, r) := perform maxDepth s { r with calls := [] }
  ((answer, r.log), r)

end Rehearsal

end Liveboard
