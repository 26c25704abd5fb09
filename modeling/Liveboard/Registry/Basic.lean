import Liveboard.Channel.State

/-!
# The registry of subscribers

Subscribers register for the events of one type or for the states of the
channel. Every registration has a number of its own, which is never used
again, and a handle by which it can be ended. A list is kept per type of
event, in the order of registration, and one list for the states.

A delivery (`Registry.deliver`) goes over the list as it was when the delivery
began. Callbacks may register, end registrations and deliver in turn while it
goes on, so whether an entry is still active is asked again when its turn
comes. Callbacks are of any kind: a delivery is told how to find the registry
in the state that it works on, and what to do with an entry.

Registering for a type is two steps on the lists, `Registry.append?` and
`Registry.create?`, each of which succeeds exactly where the other fails.
-/

namespace Liveboard

/-- What a registration is for. -/
inductive Topic where
  /-- The events of a type. -/
  | events (type : String)
  /-- The states of the channel. -/
  | states
  deriving DecidableEq, Repr, Inhabited

/-- The type of the events a topic is about; states have none. -/
def Topic.eventType? : Topic → Option String
  | .events type => some type
  | .states => none

/-- **A registration in a list.** -/
structure Entry (κ : Type) where
  /-- The number of the registration. -/
  id : Nat
  /-- What to do at a delivery. -/
  callback : κ

/-- **The handle of a registration.** -/
structure Handle where
  /-- The number of the registration. -/
  id : Nat
  /-- What it is for. -/
  topic : Topic
  deriving DecidableEq, Repr, Inhabited

/-- **The registry**: who is to be told what. -/
structure Registry (κ : Type) where
  /-- The number of the next registration, a whole number without a bound. It
  grows by one with each registration, so no run takes it to `2 ^ 64`. -/
  nextId : Nat
  /-- The numbers of the active registrations. -/
  active : List Nat
  /-- The entries by type of event. A list stays when it is emptied. -/
  lists : List (String × List (Entry κ))
  /-- The entries for the states of the channel. -/
  listeners : List (Entry κ)

namespace Registry

variable {κ : Type}

/-- The registry without any registration. -/
def empty : Registry κ := ⟨0, [], [], []⟩

instance : Inhabited (Registry κ) := ⟨empty⟩

/-- Whether a registration was not ended yet. -/
def isActive (r : Registry κ) (id : Nat) : Bool :=
  r.active.contains id

/-- The entries of a topic, in the order of registration. -/
def entries (r : Registry κ) : Topic → List (Entry κ)
  | .events type => (r.lists.lookup type).getD []
  | .states => r.listeners

/-! ## Registering -/

/-- A list per type with the list of one type changed. -/
def changeList (change : List (Entry κ) → List (Entry κ)) (type : String)
    (lists : List (String × List (Entry κ))) : List (String × List (Entry κ)) :=
  lists.map fun (t, es) => if t = type then (t, change es) else (t, es)

/-- Adds an entry to the list of a type, if the type has one. -/
def append? (r : Registry κ) (type : String) (e : Entry κ) : Option (Registry κ) :=
  if (r.lists.lookup type).isSome then
    some { r with lists := changeList (· ++ [e]) type r.lists }
  else none

/-- Makes the list of a type with one entry, if the type has none. -/
def create? (r : Registry κ) (type : String) (e : Entry κ) : Option (Registry κ) :=
  if (r.lists.lookup type).isSome then none
  else some { r with lists := r.lists ++ [(type, [e])] }

/-- The registry with the next number handed out and active. -/
def issue (r : Registry κ) : Registry κ :=
  { r with nextId := r.nextId + 1, active := r.nextId :: r.active }

/-- Adds an entry to the list of its topic. -/
def insert (r : Registry κ) (topic : Topic) (e : Entry κ) : Registry κ :=
  match topic with
  | .events type => ((r.append? type e).orElse fun _ => r.create? type e).getD r
  | .states => { r with listeners := r.listeners ++ [e] }

/-- **Registers a callback for a topic.** -/
def subscribe (r : Registry κ) (topic : Topic) (callback : κ) : Handle × Registry κ :=
  (⟨r.nextId, topic⟩, r.issue.insert topic ⟨r.nextId, callback⟩)

/-! ## Ending registrations -/

/-- Takes an entry out of the list of its topic. -/
def remove (r : Registry κ) (h : Handle) : Registry κ :=
  match h.topic with
  | .events type => { r with lists := changeList (·.filter (·.id ≠ h.id)) type r.lists }
  | .states => { r with listeners := r.listeners.filter (·.id ≠ h.id) }

/-- Marks a registration as ended. -/
def deactivate (r : Registry κ) (id : Nat) : Registry κ :=
  { r with active := r.active.filter (· ≠ id) }

/-- **Ends a registration.** A second time nothing happens. -/
def unsubscribe (r : Registry κ) (h : Handle) : Registry κ :=
  if r.isActive h.id then (r.deactivate h.id).remove h else r

/-- Whether an entry is in some list. -/
def isListed (r : Registry κ) (id : Nat) : Bool :=
  r.lists.any (fun l => l.2.any (·.id == id)) || r.listeners.any (·.id == id)

/-- **Ends every registration** and drops the lists. -/
def clear (r : Registry κ) : Registry κ :=
  { r with active := r.active.filter (!r.isListed ·), lists := [], listeners := [] }

/-! ## Delivering -/

/-- The entries `targets` in turn: each that is active when its turn comes
is called. Yields the numbers of those called. -/
def deliverTo {σ : Type} (registry : σ → Registry κ) (call : Entry κ → σ → σ) :
    List (Entry κ) → σ → List Nat × σ
  | [], s => ([], s)
  | e :: rest, s =>
    if (registry s).isActive e.id then
      let (called, s) := deliverTo registry call rest (call e s)
      (e.id :: called, s)
    else deliverTo registry call rest s

/-- **One delivery on a topic.** The state `s` holds the registry among
whatever else the callbacks change. -/
def deliver {σ : Type} (registry : σ → Registry κ) (call : Entry κ → σ → σ) (topic : Topic)
    (s : σ) : List Nat × σ :=
  deliverTo registry call ((registry s).entries topic) s

/-! ## Counting -/

/-- The number of entries of a topic. -/
def count (r : Registry κ) (topic : Topic) : Nat :=
  (r.entries topic).length

/-- The text of a registry, for diagnostics. -/
def summary (r : Registry κ) : String :=
  s!"SubscriberRegistry \x7b event_types: {r.lists.length}, "
    ++ s!"state_listeners: {r.listeners.length} \x7d"

@[simp] theorem nextId_issue (r : Registry κ) : r.issue.nextId = r.nextId + 1 := rfl

@[simp] theorem entries_states (r : Registry κ) : r.entries .states = r.listeners := rfl

/-- Adding to the list of a type and making the list exclude each other. -/
theorem isSome_append?_eq_not_create? (r : Registry κ) (type : String) (e : Entry κ) :
    (r.append? type e).isSome = !(r.create? type e).isSome := by
  unfold append? create?
  split <;> rfl

end Registry

end Liveboard
