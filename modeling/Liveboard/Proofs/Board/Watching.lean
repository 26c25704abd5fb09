import Mathlib.Data.List.DropRight
import Liveboard.Proofs.Board.Watchers
import Liveboard.Proofs.Registry.Delivery
import Liveboard.Proofs.Wire.Record

/-!
# What a watcher shows

A watcher is registered once, for the API that it watches. When it is turned to
another API the old registration is ended before the new one is made, so that no
event is heard under the old name any more. An event about another API is put
aside by its identifier alone, before anything else of its data is read.

So what a watcher shows can be told from what was dispatched: it is what the last
event says that was about its API and could be read, of those since the watcher
was turned to this API and before it was stopped. `WatchStep.received` is this
list of events, and `ApiReading.of?` what one of them says.

`Board.Tends` is the invariant, that a watcher is registered as it should be.
Each step keeps it (`Board.Tends.dispatch`, `Board.Tends.stopWatcher`,
`Board.Tends.setEntity`), whatever else the board has registered, and
`Board.watching_run` follows a watcher through all of them.
-/

namespace Liveboard

/-! ## Updates about an API -/

/-- The identifier of an update is what its member says. -/
theorem ApiUpdate.reads_apiId : ApiUpdate.shape.Reads "api_id" Scalar.text ApiUpdate.apiId where
  field := by
    refine ⟨_, rfl, fun v r r' set => ?_⟩
    obtain ⟨text, read, rfl⟩ := RecordShape.exists_of_set set
    exact read
  others := by
    intro f mem other v r r' set
    simp only [ApiUpdate.shape, List.mem_cons, List.not_mem_nil, or_false] at mem
    rcases mem with rfl | rfl | rfl
    · exact absurd rfl other
    · obtain ⟨_, -, rfl⟩ := RecordShape.exists_of_set set
      rfl
    · obtain ⟨_, -, rfl⟩ := RecordShape.exists_of_set set
      rfl

/-- **What an event says about an API**, if it is about this one and can be read. -/
def ApiReading.of? (entity : String) (e : Event) : Option ApiReading :=
  if e.type = apiEvents ∧ e.concerns entity then
    (e.decode ApiUpdate.ofJson).toOption.map fun update => ⟨update, e.receivedAt⟩
  else none

/-- **An update for an API names it.** -/
theorem ApiReading.apiId_of_of? {entity : String} {e : Event} {reading : ApiReading}
    (h : ApiReading.of? entity e = some reading) : reading.update.apiId = entity := by
  obtain ⟨⟨-, concerns⟩, read⟩ := Option.ite_none_right_eq_some.1 h
  obtain ⟨update, decoded, rfl⟩ := Option.map_eq_some_iff.1 read
  have member : e.data.get? "api_id" = some (.string entity) := by
    unfold Event.concerns at concerns
    split at concerns
    · rename_i id found
      rw [found, beq_iff_eq.1 concerns]
    · cases concerns
  have parsed : ApiUpdate.shape.decode e.data = .ok update := by
    unfold Event.decode at decoded
    split at decoded
    · rename_i record parsed
      obtain rfl : record = update := Option.some.inj decoded
      exact parsed
    · cases decoded
  have text : Scalar.text (.string entity) = .ok update.apiId :=
    ApiUpdate.reads_apiId.of_decode member parsed
  exact (Except.ok.inj text).symm

namespace Watcher

/-- What a watcher makes of an event of its type. -/
theorem receive_fst (w : Watcher) (entity : String) {e : Event} (type : e.type = apiEvents) :
    (w.receive entity e).1 = { w with reading := (ApiReading.of? entity e).or w.reading } := by
  unfold receive ApiUpdate.addressed ApiReading.of?
  by_cases concerns : e.concerns entity = true
  · cases e.decode ApiUpdate.ofJson <;> simp [concerns, type, Except.map, Except.toOption]
  · simp [concerns]

end Watcher

/-! ## One registration -/

/-- What a watcher makes of an event that is dispatched. -/
def Watcher.hear (w : Watcher) (e : Event) : Watcher :=
  if w.handle.isSome ∧ e.type = apiEvents then (w.receive w.entity e).1 else w

/-- It changes nothing but the reading. -/
theorem Watcher.hear_eq (w : Watcher) (e : Event) :
    w.hear e
      = { w with reading :=
          if w.handle.isSome then (ApiReading.of? w.entity e).or w.reading else w.reading } := by
  unfold hear
  by_cases held : w.handle.isSome = true
  · by_cases type : e.type = apiEvents
    · rw [if_pos ⟨held, type⟩, w.receive_fst w.entity type, if_pos held]
    · have none : ApiReading.of? w.entity e = none := if_neg fun both => type both.1
      rw [if_neg fun both => type both.2, if_pos held, none, Option.none_or]
  · rw [if_neg fun both => held both.1, if_neg held]

namespace Board

variable {b : Board} {n : Nat} {w : Watcher}

/-- **A watcher is registered as it should be**: once, for the events about APIs and
for the API that it watches, as long as it has a handle; and not at all without. -/
structure Tends (b : Board) (n : Nat) (w : Watcher) : Prop where
  /-- The numbers of the registrations. -/
  sound : b.registry.Sound
  /-- The watcher of this number. -/
  known : b.watchers[n]? = some w
  /-- What is registered for it. -/
  listed : ∀ topic, (b.registry.entries topic).filter (·.callback.watches n)
    = if topic = .events apiEvents then
        w.handle.toList.map fun handle => ⟨handle.id, .watcher n w.entity⟩
      else []
  /-- Its handle is that of an active registration. -/
  handle : ∀ handle, w.handle = some handle →
    handle.topic = .events apiEvents ∧ b.registry.isActive handle.id = true

/-- **An event is dispatched.** -/
theorem Tends.dispatch (h : b.Tends n w) (event : Event) :
    (b.dispatch event).2.Tends n (w.hear event) := by
  have registry : (b.dispatch event).2.registry = b.registry :=
    b.registry_deliverTo event (b.registry.entries (.events event.type))
  have same : (w.hear event).handle = w.handle ∧ (w.hear event).entity = w.entity := by
    rw [w.hear_eq]
    exact ⟨rfl, rfl⟩
  constructor
  · rw [registry]
    exact h.sound
  · show (Registry.deliverTo Board.registry (hearEvent event)
      (b.registry.entries (.events event.type)) b).2.watchers[n]? = _
    have listed := h.listed (.events event.type)
    by_cases called : w.handle.isSome = true ∧ event.type = apiEvents
    · -- One of those who are called is the watcher, and the others are not.
      obtain ⟨handle, held⟩ := Option.isSome_iff_exists.1 called.1
      rw [called.2, if_pos rfl, held] at listed
      obtain ⟨before, after, split, none, -, rest⟩ := List.filter_eq_cons_iff.1 listed
      have first : ∀ entry ∈ before, entry.callback.watches n = false := by
        simpa using none
      have last : ∀ entry ∈ after, entry.callback.watches n = false := by
        simpa using List.filter_eq_nil_iff.1 rest
      have active := (h.handle handle held).2
      rw [called.2, split, Registry.deliverTo_append, Registry.deliverTo, registry_deliverTo,
        if_pos active, watcher?_deliverTo event last, watcher?_hearEvent,
        watcher?_deliverTo event first, h.known, Watcher.hear, if_pos called]
      simp
    · have others : ∀ entry ∈ b.registry.entries (.events event.type),
          entry.callback.watches n = false := by
        have none :
            (b.registry.entries (.events event.type)).filter (·.callback.watches n) = [] := by
          rw [listed]
          split
          · rename_i type
            cases held : w.handle with
            | none => rfl
            | some handle => exact absurd ⟨by simp [held], Topic.events.inj type⟩ called
          · rfl
        simpa using List.filter_eq_nil_iff.1 none
      rw [watcher?_deliverTo event others, h.known, Watcher.hear, if_neg called]
  · rw [registry, same.1, same.2]
    exact h.listed
  · rw [registry, same.1]
    exact h.handle

/-- **The watcher is stopped.** -/
theorem Tends.stopWatcher (h : b.Tends n w) :
    (b.stopWatcher n).Tends n { w with handle := none } := by
  unfold Board.stopWatcher
  rw [h.known]
  dsimp only
  cases held : w.handle with
  | none =>
    have same : { w with handle := none } = w := by rw [← held]
    rw [same]
    exact h
  | some handle =>
    obtain ⟨topic, active⟩ := h.handle handle held
    have inside := (List.getElem?_eq_some_iff.1 h.known).1
    refine ⟨h.sound.unsubscribe handle, List.getElem?_set_self inside, fun other => ?_, by simp⟩
    have listed := h.listed other
    show ((b.registry.unsubscribe handle).entries other).filter _ = _
    rw [Registry.entries_unsubscribe]
    by_cases own : other = .events apiEvents
    · -- The only entry of the watcher is taken out.
      rw [if_pos own, held] at listed
      rw [if_pos ⟨active, own.trans topic.symm⟩, if_pos own, List.filter_comm, listed]
      simp
    · rw [if_neg fun both => own (both.2.trans topic), if_neg own, listed, if_neg own]

/-- **A watcher registers** that has no registration. -/
theorem tends_of_subscribe {b' : Board} {entity : String} (sound : b.registry.Sound)
    (none : ∀ topic, (b.registry.entries topic).filter (·.callback.watches n) = [])
    (registry : b'.registry = (b.registry.subscribe (.events apiEvents) (.watcher n entity)).2)
    (known : b'.watchers[n]?
      = some ⟨entity, Option.none, some ⟨b.registry.nextId, .events apiEvents⟩⟩) :
    b'.Tends n ⟨entity, Option.none, some ⟨b.registry.nextId, .events apiEvents⟩⟩ := by
  refine ⟨registry ▸ sound.subscribe _ _, known, fun topic => ?_, fun handle held => ?_⟩
  · rw [registry, Registry.entries_subscribe]
    by_cases own : topic = .events apiEvents
    · rw [if_pos own, if_pos own, List.filter_append, none]
      simp [Listener.watches]
    · rw [if_neg own, if_neg own, none]
  · obtain rfl := Option.some.inj held
    rw [registry, Registry.isActive_subscribe]
    exact ⟨rfl, by simp⟩

/-- **The watcher is turned to another API.** -/
theorem Tends.setEntity (h : b.Tends n w) (entity : String) :
    ∃ handle, (b.setEntity n entity).Tends n ⟨entity, none, some handle⟩ := by
  have stopped := h.stopWatcher
  have none : ∀ topic, ((b.stopWatcher n).registry.entries topic).filter (·.callback.watches n)
      = [] := by
    intro topic
    rw [stopped.listed topic]
    split <;> rfl
  refine ⟨_, tends_of_subscribe stopped.sound none ?_ ?_⟩
  · unfold Board.setEntity
    dsimp only
    rw [stopped.known]
    rfl
  · unfold Board.setEntity
    dsimp only
    rw [stopped.known]
    exact List.getElem?_set_self (List.getElem?_eq_some_iff.1 stopped.known).1

/-- **A watcher is started.** -/
theorem tends_startWatcher (sound : b.registry.Sound) (manned : b.registry.Manned b.handles)
    (entity : String) :
    ∃ handle, (b.startWatcher entity).Tends b.watchers.length ⟨entity, none, some handle⟩ := by
  have none : ∀ topic, (b.registry.entries topic).filter
      (·.callback.watches b.watchers.length) = [] := by
    intro topic
    rw [List.filter_eq_nil_iff]
    intro entry mem calls
    have started := manned.started topic entry mem _ calls
    rw [handles, List.length_map] at started
    exact lt_irrefl _ started
  exact ⟨_, tends_of_subscribe sound none rfl List.getElem?_concat_length⟩

end Board

/-! ## What is done with a watcher -/

/-- **What is done with a watcher**, by those who dispatch and by its owner. -/
inductive WatchStep where
  /-- An event is dispatched. -/
  | dispatch (event : Event)
  /-- The watcher is turned to another API. -/
  | turn (entity : String)
  /-- The watcher is stopped. -/
  | stop

namespace WatchStep

/-- The API that a watcher is turned to. -/
def entity? : WatchStep → Option String
  | .turn entity => some entity
  | .dispatch _ | .stop => none

/-- The event that is dispatched. -/
def event? : WatchStep → Option Event
  | .dispatch event => some event
  | .turn _ | .stop => none

/-- Whether the watcher is stopped. -/
def isStop : WatchStep → Bool
  | .stop => true
  | .dispatch _ | .turn _ => false

variable (first : String) (steps : List WatchStep)

/-- **The API that is watched**: the last that the watcher was turned to, or the
first one. -/
def entity : String :=
  (steps.filterMap entity?).getLast?.getD first

/-- What is done since the watcher was turned to its API. -/
def since : List WatchStep :=
  steps.rtakeWhile (·.entity?.isNone)

/-- Whether the watcher has not been stopped since. -/
def subscribed : Bool :=
  (since steps).all (!·.isStop)

/-- **The events that were dispatched** since then and before it was stopped. -/
def received : List Event :=
  ((since steps).takeWhile (!·.isStop)).filterMap event?

/-- **The last that was said about the API that is watched**, of what was received. -/
def reading : Option ApiReading :=
  ((received steps).filterMap (ApiReading.of? (entity first steps))).getLast?

variable {first steps}

theorem since_concat {step : WatchStep} (h : step.entity? = none) :
    since (steps ++ [step]) = since steps ++ [step] :=
  List.rtakeWhile_concat_pos _ _ _ (by simp [h])

theorem since_concat_turn (other : String) : since (steps ++ [.turn other]) = [] :=
  List.rtakeWhile_concat_neg _ _ _ (by simp [entity?])

theorem entity_concat {step : WatchStep} (h : step.entity? = none) :
    entity first (steps ++ [step]) = entity first steps := by
  simp [entity, List.filterMap_append, h]

theorem entity_concat_turn (other : String) : entity first (steps ++ [.turn other]) = other := by
  simp [entity, List.filterMap_append, entity?]

/-- What is done up to the stop does not change when more is done after it. -/
theorem takeWhile_concat {α : Type} (p : α → Bool) (l : List α) (x : α) :
    (l ++ [x]).takeWhile p
      = if l.all p then l.takeWhile p ++ [x].takeWhile p else l.takeWhile p := by
  induction l with
  | nil => rfl
  | cons a l ih =>
    rw [List.cons_append, List.takeWhile_cons, List.takeWhile_cons, List.all_cons, ih]
    by_cases here : p a = true
    · simp only [here, if_true, Bool.true_and]
      split <;> rfl
    · simp [here]

/-- An event is received as long as the watcher has not been stopped. -/
theorem received_concat_dispatch (event : Event) :
    received (steps ++ [.dispatch event])
      = if subscribed steps then received steps ++ [event] else received steps := by
  unfold received subscribed
  rw [since_concat rfl, takeWhile_concat]
  split
  · rw [List.filterMap_append]
    rfl
  · rfl

/-- What is received and says something about the API replaces what was said before. -/
theorem reading_concat_dispatch (event : Event) :
    reading first (steps ++ [.dispatch event])
      = if subscribed steps then
          (ApiReading.of? (entity first steps) event).or (reading first steps)
        else reading first steps := by
  rw [reading, received_concat_dispatch, entity_concat rfl]
  split
  · rw [List.filterMap_append, List.getLast?_append]
    cases said : ApiReading.of? (entity first steps) event <;> simp [said, reading]
  · rfl

theorem received_concat_stop : received (steps ++ [.stop]) = received steps := by
  unfold received
  rw [since_concat rfl, takeWhile_concat]
  split
  · exact congrArg _ (List.append_nil _)
  · rfl

theorem received_concat_turn (other : String) : received (steps ++ [.turn other]) = [] := by
  unfold received
  rw [since_concat_turn]
  rfl

theorem subscribed_concat {step : WatchStep} (h : step.entity? = none) :
    subscribed (steps ++ [step]) = (subscribed steps && !step.isStop) := by
  unfold subscribed
  rw [since_concat h, List.all_append, List.all_cons, List.all_nil, Bool.and_true]

theorem subscribed_concat_turn (other : String) : subscribed (steps ++ [.turn other]) = true := by
  unfold subscribed
  rw [since_concat_turn]
  rfl

end WatchStep

namespace Board

/-- What comes of a step to the board. -/
def attend (n : Nat) (b : Board) : WatchStep → Board
  | .dispatch event => (b.dispatch event).2
  | .turn entity => b.setEntity n entity
  | .stop => b.stopWatcher n

/-- **The board after what is done with a watcher.** -/
def attends (n : Nat) (b : Board) (steps : List WatchStep) : Board :=
  steps.foldl (attend n) b

open WatchStep

theorem attends_concat (n : Nat) (b : Board) (steps : List WatchStep) (step : WatchStep) :
    b.attends n (steps ++ [step]) = (b.attends n steps).attend n step :=
  List.foldl_concat ..

/-- **A watcher and what was done with it belong together.** -/
theorem tends_attends {b : Board} {n : Nat} {first : String} {handle : Handle}
    (start : b.Tends n ⟨first, none, some handle⟩) (steps : List WatchStep) :
    ∃ w : Watcher, (b.attends n steps).Tends n w ∧ w.entity = entity first steps ∧
      w.reading = reading first steps ∧ w.handle.isSome = subscribed steps := by
  induction steps using List.reverseRecOn with
  | nil => exact ⟨_, start, rfl, rfl, rfl⟩
  | append_singleton steps step ih =>
    obtain ⟨w, tends, turned, shows, stands⟩ := ih
    rw [attends_concat]
    cases step with
    | dispatch event =>
      have next := tends.dispatch event
      rw [w.hear_eq event] at next
      refine ⟨_, next, ?_, ?_, ?_⟩
      · rw [entity_concat rfl, turned]
      · show (if w.handle.isSome then _ else _) = _
        rw [stands, shows, turned, reading_concat_dispatch]
      · rw [subscribed_concat rfl, isStop, Bool.not_false, Bool.and_true]
        exact stands
    | turn other =>
      obtain ⟨handle, tends⟩ := tends.setEntity other
      refine ⟨_, tends, (entity_concat_turn other).symm, ?_, (subscribed_concat_turn other).symm⟩
      rw [reading, received_concat_turn]
      rfl
    | stop =>
      refine ⟨_, tends.stopWatcher, ?_, ?_, ?_⟩
      · rw [entity_concat rfl, turned]
      · rw [reading, received_concat_stop, entity_concat rfl]
        exact shows
      · rw [subscribed_concat rfl, isStop, Bool.not_true, Bool.and_false]
        rfl

/-- **What a watcher makes of an event** when its registration is called. -/
theorem hearEvent_of_watcher {b : Board} {n : Nat} {w : Watcher} (known : b.watchers[n]? = some w)
    (event : Event) {entry : Entry Listener} (calls : entry.callback = .watcher n w.entity) :
    (event.concerns w.entity = false → hearEvent event entry b = b) ∧
      (event.concerns w.entity = true → (event.decode ApiUpdate.ofJson).isOk = false →
        hearEvent event entry b = b.record (.count (.decodeErrors "entity"))) := by
  have same : { b with watchers := b.watchers.set n w } = b := by
    rw [← (List.getElem?_eq_some_iff.1 known).2, List.set_getElem_self]
  unfold hearEvent
  rw [calls]
  dsimp only
  rw [known]
  constructor
  · intro other
    have received : w.receive w.entity event = (w, false) := by
      simp [Watcher.receive, ApiUpdate.addressed, other]
    simp only [received]
    exact same
  · intro concerns faulty
    have received : w.receive w.entity event = (w, true) := by
      cases decoded : event.decode ApiUpdate.ofJson with
      | ok update => rw [decoded] at faulty; cases faulty
      | error fault =>
        simp [Watcher.receive, ApiUpdate.addressed, concerns, decoded, Except.map]
    simp only [received]
    exact congrArg (Board.record · _) same

/-- **What a watcher shows.** Whatever happened on the board before, suppose that a
watcher is started and that then events are dispatched, in any order with turns to
other APIs and stops.

* The watcher names the API that it was turned to last. It shows what the last
  event said that was about this API and could be read, of those dispatched since
  the turn and before a stop; and nothing if there was none. So it never shows an
  update that names another API.
* As long as it was not stopped since the turn, it is registered once, for the
  events about APIs, under its own handle. When it was stopped it is registered
  nowhere.
* An event about another API, or with data that name none, changes nothing on the
  board when the watcher is called with it, whatever else it says. One about its API
  that cannot be read is counted, and changes nothing else. -/
theorem watching_run (policy : BackoffPolicy) (hs : List Happening) (first : String)
    (steps : List WatchStep) :
    let before := ((Moment.initial policy).undergoes hs).board
    let n := before.watchers.length
    let b := (before.startWatcher first).attends n steps
    ∃ w, b.watchers[n]? = some w ∧ w.entity = entity first steps ∧
      w.reading = reading first steps ∧
      (∀ shown, w.reading = some shown → shown.update.apiId = w.entity) ∧
      (subscribed steps = true → ∃ handle, w.handle = some handle ∧
        b.registry.isActive handle.id = true ∧
        ∀ topic, (b.registry.entries topic).filter (·.callback.watches n)
          = if topic = .events apiEvents then [⟨handle.id, .watcher n w.entity⟩] else []) ∧
      (subscribed steps = false → w.handle = none ∧
        ∀ topic, (b.registry.entries topic).filter (·.callback.watches n) = []) ∧
      ∀ (event : Event) (entry : Entry Listener), entry.callback = .watcher n w.entity →
        (event.concerns w.entity = false → hearEvent event entry b = b) ∧
        (event.concerns w.entity = true → (event.decode ApiUpdate.ofJson).isOk = false →
          hearEvent event entry b = b.record (.count (.decodeErrors "entity"))) := by
  intro before n b
  obtain ⟨handle, start⟩ := tends_startWatcher (Moment.sound_undergoes policy hs)
    (Moment.manned_undergoes policy hs) first
  obtain ⟨w, tends, turned, shows, stands⟩ := tends_attends start steps
  refine ⟨w, tends.known, turned, shows, fun shown said => ?_, fun going => ?_, fun ended => ?_,
    fun event entry calls => ?_⟩
  · rw [shows] at said
    obtain ⟨event, -, said⟩ := List.mem_filterMap.1 (List.mem_of_getLast? said)
    rw [ApiReading.apiId_of_of? said, turned]
  · obtain ⟨handle, held⟩ := Option.isSome_iff_exists.1 (stands.trans going)
    refine ⟨handle, held, (tends.handle handle held).2, fun topic => ?_⟩
    rw [tends.listed topic, held]
    rfl
  · have none : w.handle = none := by simpa [ended] using stands
    refine ⟨none, fun topic => ?_⟩
    rw [tends.listed topic, none]
    split <;> rfl
  · exact hearEvent_of_watcher tends.known event calls

/-- An event about an API. -/
def about (entity : String) (metrics : Json) (time : Int) : Event :=
  ⟨apiEvents, .object [("api_id", .string entity), ("metrics", metrics)], 0, time⟩

/-- A first event about an API cannot be read, and a second one can. Then the watcher
is turned to another API, and there is an event about each of the two. In the end it
is stopped, and there is one more. -/
def turned : List WatchStep :=
  [.dispatch (about "a" .null 1), .dispatch (about "a" (.object []) 2), .turn "b",
    .dispatch (about "a" (.object []) 3), .dispatch (about "b" (.object []) 4), .stop,
    .dispatch (about "b" (.object []) 5)]

/-- The watcher shows what was said about the other API before it was stopped. -/
theorem watching_run_turned :
    ∃ w, (((initial Moment.everySecond).startWatcher "a").attends 0 turned).watchers[0]? = some w ∧
      w.entity = "b" ∧ w.reading.map (fun shown => (shown.update.apiId, shown.updatedAt))
        = some ("b", 4) ∧
      w.handle = none := by
  have turns : entity "a" turned = "b" := rfl
  have said : (reading "a" turned).map (fun shown => (shown.update.apiId, shown.updatedAt))
      = some ("b", 4) := rfl
  have ended : subscribed turned = false := rfl
  have run := watching_run Moment.everySecond [] "a" turned
  dsimp only at run
  obtain ⟨w, known, names, shows, -, -, stopped, -⟩ := run
  refine ⟨w, known, names.trans turns, ?_, (stopped ended).1⟩
  rw [shows]
  exact said

end Board

end Liveboard
