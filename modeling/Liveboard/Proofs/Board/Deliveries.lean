import Liveboard.Proofs.Board.Reconnect
import Liveboard.Proofs.Channel.Ledger
import Liveboard.Proofs.Registry.Registrations

/-!
# What subscribers receive

On the board the manager makes the moves of a run, each when it may tell what
it has to tell (`Moment.link_run`). Everything that it tells is delivered to
whoever stands in the list of its topic when it is taken up, and is still
registered when the turn comes. So someone who stays registered is called with
everything that is told on the topic, once and in order; what was told and not
delivered yet is still to come.

The second half cannot be left out: a run may end between any two calls, and
what one listener has been called with the next has not. What someone is
called with (`Moment.calls`) and what is still to come (`Moment.awaited`) make
up together what was told, `Moment.calls_append_awaited`.

With the books of the manager this makes up what subscribers receive: the
events of their type, out of all frames that can be read
(`Moment.delivery_run`).
-/

namespace Liveboard

/-! ## Registrations on the board -/

namespace Board

variable (b : Board)

theorem registry_takeNotices (engine : Nat) (notices : List EngineNotice) :
    (notices.foldl (takeNotice engine) b).registry = b.registry := by
  induction notices generalizing b with
  | nil => rfl
  | cons notice notices ih =>
    rw [List.foldl_cons, ih]
    cases notice <;> rfl

@[simp] theorem registry_engineEvent (engine : Nat) (event : EngineEvent) :
    (b.engineEvent engine event).registry = b.registry := by
  unfold engineEvent
  split
  · rfl
  · exact registry_takeNotices _ engine _

/-- No listener of the board registers or ends a registration when it is
called. -/
@[simp] theorem registry_hear (notice : ChannelNotice) (entry : Entry Listener) :
    (b.hear notice entry).registry = b.registry := by
  have hears := b.hears notice entry
  generalize b.hear notice entry = b' at hears ⊢
  cases hears with
  | handles => exact b.registry_engineEvent _ _
  | notes => rfl

theorem changes_unsubscribes (handles : List Handle) :
    b.registry.Changes (handles.foldl unsubscribe b).registry := by
  induction handles generalizing b with
  | nil => exact .refl
  | cons handle handles ih =>
    exact (Registry.Changes.unsubscribe handle .refl).trans (ih (b.unsubscribe handle))

theorem changes_stopWatcher (watcher : Nat) :
    b.registry.Changes (b.stopWatcher watcher).registry := by
  unfold stopWatcher
  split
  · split
    · exact .unsubscribe _ .refl
    · exact .refl
  · exact .refl

theorem changes_setEntity (watcher : Nat) (entity : String) :
    b.registry.Changes (b.setEntity watcher entity).registry := by
  unfold setEntity
  dsimp only
  split
  · exact b.changes_stopWatcher watcher
  · exact .subscribe (.events apiEvents) (.watcher watcher entity) (b.changes_stopWatcher watcher)

theorem changes_stopEngine (engine : Nat) :
    b.registry.Changes (b.stopEngine engine).registry := by
  unfold stopEngine
  split
  · exact .refl
  · rename_i station known
    split
    · exact .refl
    · have stopped := (b.engineEvent engine .stop).changes_unsubscribes station.handles
      rwa [registry_engineEvent] at stopped

theorem changes_startEngine (period : Period) (settings : EngineSettings) (cache : String) :
    b.registry.Changes (b.startEngine period settings cache).registry := by
  unfold startEngine
  dsimp only
  rw [registry_takeNotices]
  exact .subscribe .states (Listener.engine b.stations.length)
    (.subscribe (.events usageEvents) (Listener.engine b.stations.length) .refl)

end Board

namespace Moment

variable (m : Moment)

/-- **What happens on the board to the registrations.** -/
theorem changes_step (e : BoardEvent) :
    m.board.registry.Changes (m.step e).board.registry := by
  cases e with
  | link event draw =>
    simp only [step]
    split <;> exact .refl
  | tell =>
    simp only [step]
    unfold deliver
    split
    · split
      · rw [Board.registry_hear]
        exact .refl
      · exact .refl
    all_goals exact .refl
  | refresh engine | pull engine | landed engine =>
    simp only [step, Board.registry_engineEvent]
    exact .refl
  | startEngine period settings cache => exact m.board.changes_startEngine period settings cache
  | stopEngine engine => exact m.board.changes_stopEngine engine
  | startWatcher entity =>
    exact .subscribe (.events apiEvents) (Listener.watcher m.board.watchers.length entity) .refl
  | stopWatcher watcher => exact m.board.changes_stopWatcher watcher
  | setEntity watcher entity => exact m.board.changes_setEntity watcher entity
  | subscribe topic label => exact .subscribe _ _ .refl
  | unsubscribe handle => exact .unsubscribe handle .refl
  | clear => exact .clear .refl
  | useCache | wait => exact .refl

theorem changes_run (es : List BoardEvent) :
    m.board.registry.Changes (m.run es).board.registry := by
  induction es generalizing m with
  | nil => exact .refl
  | cons e es ih => exact (m.changes_step e).trans (ih (m.step e))

/-! ## The moves of the manager -/

/-- The move that the manager makes at an event of the board, if it makes
one. -/
def move? : BoardEvent → Option LinkMove
  | .link event draw => if m.mayMove event draw then some ⟨event, m.board.now, draw⟩ else none
  | _ => none

/-- **The moves of the manager** in a run of the board. -/
def moves (m : Moment) : List BoardEvent → List LinkMove
  | [] => []
  | e :: es => (m.move? e).toList ++ (m.step e).moves es

theorem link_step_eq_run (e : BoardEvent) :
    (m.step e).board.link = m.board.link.run (m.move? e).toList ∧
      m.tells e = m.board.link.told (m.move? e).toList := by
  rw [link_step]
  cases e with
  | link event draw =>
    simp only [move?, tells]
    split
    · exact ⟨rfl, (List.append_nil _).symm⟩
    · exact ⟨rfl, rfl⟩
  | _ => exact ⟨rfl, rfl⟩

/-- **The manager goes through a run of its own**, and tells what it tells
there. -/
theorem link_run (es : List BoardEvent) :
    (m.run es).board.link = m.board.link.run (m.moves es) ∧
      m.told es = m.board.link.told (m.moves es) := by
  induction es generalizing m with
  | nil => exact ⟨rfl, rfl⟩
  | cons e es ih =>
    obtain ⟨link, tells⟩ := m.link_step_eq_run e
    obtain ⟨after, told⟩ := ih (m.step e)
    constructor
    · rw [run_cons, after, moves, Link.run_append, link]
    · rw [Moment.told, told, moves, Link.told_append, tells, link]

end Moment

/-! ## Calls -/

namespace ChannelNotice

/-- Who is told: those in the list of a topic, or nobody. -/
def topic? : ChannelNotice → Option Topic
  | .meter _ => none
  | .state _ => some .states
  | .event e => some (.events e.type)

/-- What is told of the states. -/
theorem filter_states (notices : List ChannelNotice) :
    notices.filter (·.topic? = some .states) = (notices.filterMap state?).map .state := by
  induction notices with
  | nil => rfl
  | cons notice notices ih =>
    cases notice with
    | state state => exact congrArg (ChannelNotice.state state :: ·) ih
    | meter | event => exact ih

/-- What is told of the events of a type. -/
theorem filter_events (notices : List ChannelNotice) (type : String) :
    notices.filter (·.topic? = some (.events type))
      = ((notices.filterMap event?).filter (·.type = type)).map .event := by
  induction notices with
  | nil => rfl
  | cons notice notices ih =>
    cases notice with
    | event event =>
      have head : (ChannelNotice.event event :: notices).filterMap event?
          = event :: notices.filterMap event? := rfl
      rw [head, List.filter_cons, List.filter_cons, ih]
      by_cases here : event.type = type <;> simp [topic?, here]
    | meter | state => exact ih

end ChannelNotice

namespace Moment

/-- **What someone is called with** at an event of the board, by the number of
the registration. -/
def called? (id : Nat) (m : Moment) : BoardEvent → Option ChannelNotice
  | .tell =>
    match m.due with
    | (entry, notice) :: _ =>
      if entry.id = id ∧ m.board.registry.isActive id then some notice else none
    | [] => none
  | _ => none

/-- **What someone is called with** in a run of the board. -/
def calls (id : Nat) (m : Moment) : List BoardEvent → List ChannelNotice
  | [] => []
  | e :: es => (m.called? id e).toList ++ (m.step e).calls id es

/-- **What is still to come** for someone who stands in the list of a topic. -/
def awaited (topic : Topic) (id : Nat) (m : Moment) : List ChannelNotice :=
  (m.due.filter (·.1.id = id)).map (·.2) ++ m.untold.filter (·.topic? = some topic)

variable {m : Moment} {topic : Topic} {entry : Entry Listener}

/-- When something told is taken up, everybody in the list of its topic is to
be called once. -/
theorem filter_due (sound : m.board.registry.Sound)
    (listed : entry ∈ m.board.registry.entries topic)
    (other : Topic) (notice : ChannelNotice) :
    (((m.board.registry.entries other).map fun e => (e, notice)).filter (·.1.id = entry.id)).map
        (·.2)
      = if other = topic then [notice] else [] := by
  rw [List.filter_map, List.map_map]
  have once := sound.filter_entries listed other
  have same : ((fun turn : Entry Listener × ChannelNotice => decide (turn.1.id = entry.id)) ∘
      fun e => (e, notice)) = fun e => decide (e.id = entry.id) := rfl
  rw [same, once]
  split <;> rfl

theorem called?_toList_append_awaited (sound : m.board.registry.Sound)
    (listed : entry ∈ m.board.registry.entries topic)
    (active : m.board.registry.isActive entry.id = true) (e : BoardEvent) :
    (m.called? entry.id e).toList ++ (m.step e).awaited topic entry.id
      = m.awaited topic entry.id ++ (m.tells e).filter (·.topic? = some topic) := by
  cases e with
  | link event draw =>
    simp only [called?, step, tells, Option.toList_none, List.nil_append]
    split
    · simp only [awaited, List.filter_append, List.append_assoc]
    · rw [List.filter_nil, List.append_nil]
  | tell =>
    rw [show m.tells .tell = [] from rfl, List.filter_nil, List.append_nil]
    obtain ⟨b, untold, due⟩ := m
    cases due with
    | nil =>
      cases untold with
      | nil => rfl
      | cons notice untold =>
        -- What is taken up now was told on the topic, or is none of the entry's concern.
        cases notice with
        | meter change => rfl
        | state state =>
          have due := filter_due sound listed .states (.state state)
          simp only [called?, step, deliver, awaited, due, List.filter_nil, List.map_nil]
          by_cases here : topic = .states
          · subst here
            simp [ChannelNotice.topic?]
          · simp [ChannelNotice.topic?, Ne.symm here]
        | event event =>
          have due := filter_due sound listed (.events event.type) (.event event)
          simp only [called?, step, deliver, awaited, due, List.filter_nil, List.map_nil]
          by_cases here : topic = .events event.type
          · subst here
            simp [ChannelNotice.topic?]
          · simp [ChannelNotice.topic?, Ne.symm here]
    | cons turn due =>
      obtain ⟨next, notice⟩ := turn
      have active : b.registry.isActive entry.id = true := active
      have rest : (step ⟨b, untold, (next, notice) :: due⟩ .tell).awaited topic entry.id
          = (due.filter (·.1.id = entry.id)).map (·.2)
              ++ untold.filter (·.topic? = some topic) := by
        simp only [step, deliver]
        split <;> rfl
      rw [rest]
      by_cases own : next.id = entry.id
      · simp [called?, awaited, own, active]
      · simp [called?, awaited, own]
  | _ => exact (List.append_nil _).symm

/-- **Who stays registered is called with everything** that is told on the topic,
once and in order: what was still to come at first, and what is told
afterwards, but for what is still to come in the end. -/
theorem calls_append_awaited (sound : m.board.registry.Sound)
    (listed : entry ∈ m.board.registry.entries topic) {es : List BoardEvent}
    (active : (m.run es).board.registry.isActive entry.id = true) :
    m.calls entry.id es ++ (m.run es).awaited topic entry.id
      = m.awaited topic entry.id ++ (m.told es).filter (·.topic? = some topic) := by
  induction es generalizing m with
  | nil => exact (List.append_nil _).symm
  | cons e es ih =>
    -- The registration was never ended in between.
    have old : entry.id < m.board.registry.nextId := sound.listed topic entry listed
    have still : (m.step e).board.registry.isActive entry.id = true :=
      ((m.step e).changes_run es).isActive_of_isActive
        (old.trans_le (m.changes_step e).nextId_le) active
    have was := (m.changes_step e).isActive_of_isActive old still
    have first := called?_toList_append_awaited sound listed was e
    have rest := ih ((m.changes_step e).sound sound)
      ((m.changes_step e).mem_entries sound listed still) active
    calc m.calls entry.id (e :: es) ++ (m.run (e :: es)).awaited topic entry.id
        = (m.called? entry.id e).toList
            ++ ((m.step e).calls entry.id es ++ ((m.step e).run es).awaited topic entry.id) :=
          List.append_assoc _ _ _
      _ = (m.called? entry.id e).toList ++ (m.step e).awaited topic entry.id
            ++ ((m.step e).told es).filter (·.topic? = some topic) := by
          rw [rest, List.append_assoc]
      _ = m.awaited topic entry.id ++ (m.told (e :: es)).filter (·.topic? = some topic) := by
          rw [first, Moment.told, List.filter_append, List.append_assoc]

theorem sound_run (policy : BackoffPolicy) (es : List BoardEvent) :
    ((initial policy).run es).board.registry.Sound :=
  ((initial policy).changes_run es).sound Registry.sound_empty

/-! ## What is delivered -/

/-- **What comes about on the channel** in a run of the board. -/
def record (m : Moment) (es : List BoardEvent) : List Incident :=
  m.board.link.record (m.moves es)

/-- The books of a run of the board. -/
theorem books_run (m : Moment) (es : List BoardEvent) :
    m.board.link.status.Books (m.run es).board.link.status (m.record es) (m.told es) := by
  obtain ⟨link, told⟩ := m.link_run es
  rw [link, told]
  exact m.board.link.books_run (m.moves es)

/-- **What is delivered in a run**, whatever the calls, the connections and the
subscribers do:

* the events that are told are the frames that were read and can be read, in
  the order of receipt, numbered from one on over all connections;
* the status counts them and has the last of them, and it counts what cannot
  be read;
* what cannot be read leaves the connection, the state and the numbers as they
  are, and nothing is told of it but a meter;
* a subscriber who stays registered is called with the events of his type that
  are told from then on, each once and in order, apart from what is still to
  come. -/
theorem delivery_run (policy : BackoffPolicy) (pre post : List BoardEvent) :
    (initial policy).dispatched (pre ++ post)
        = (((initial policy).record (pre ++ post)).filterMap Incident.readable?).mapIdx
            (fun k frame => Event.ofFrame frame.1 (k + 1) frame.2) ∧
      (((initial policy).run (pre ++ post)).board.link.status.sequence
          = ((initial policy).dispatched (pre ++ post)).length ∧
        ((initial policy).run (pre ++ post)).board.link.status.received
          = ((initial policy).dispatched (pre ++ post)).length ∧
        ((initial policy).run (pre ++ post)).board.link.status.lastMessage
          = ((initial policy).dispatched (pre ++ post)).getLast? ∧
        ((initial policy).run (pre ++ post)).board.link.status.decodeErrors
          = ((initial policy).record (pre ++ post)).countP (·.isMalformed)) ∧
      (∀ (i : Nat) (d : Driver) (settled : Bool) (item : StreamItem) (now : Int) (draw : Float),
        ((initial policy).run pre).board.link.drivers[i]? = some d →
        d.stage = .reading settled → d.cancelled = false →
        (Incident.ofItem now item).isMalformed = true →
        let turn := ((initial policy).run pre).board.link.handle (.driver i (.item item)) now draw
        (∃ settled', turn.link.drivers[i]? = some { d with stage := .reading settled' }) ∧
          turn.link.status.state = ((initial policy).run pre).board.link.status.state ∧
          turn.link.status.sequence = ((initial policy).run pre).board.link.status.sequence ∧
          turn.notices = [.meter (.count (.decodeErrors "frame"))]) ∧
      ∀ (type : String) (entry : Entry Listener),
        entry ∈ ((initial policy).run pre).board.registry.entries (.events type) →
        ((initial policy).run (pre ++ post)).board.registry.isActive entry.id = true →
        ((initial policy).run pre).calls entry.id post
            ++ ((initial policy).run (pre ++ post)).awaited (.events type) entry.id
          = ((initial policy).run pre).awaited (.events type) entry.id
            ++ ((((initial policy).run pre).dispatched post).filter
              (·.type = type)).map .event := by
  obtain ⟨entered, told⟩ := (initial policy).books_run (pre ++ post)
  have empty : (initial policy).board.link.status.ledger = Ledger.empty := rfl
  rw [empty] at entered told
  have events : (initial policy).dispatched (pre ++ post) = _ := told
  rw [Ledger.foldl_enter_empty, ← events] at entered
  refine ⟨?_, ⟨?_, ?_, ?_, ?_⟩, ?_, ?_⟩
  · rw [events, Ledger.events_eq]
    simp [Ledger.empty]
  · exact congrArg Ledger.sequence entered
  · exact congrArg Ledger.received entered
  · exact congrArg Ledger.lastMessage entered
  · exact congrArg Ledger.decodeErrors entered
  · intro i d settled item now draw found stage running malformed turn
    obtain ⟨settled', failures, link, notices⟩ :=
      Link.handle_malformed found stage running malformed draw
    have inside := (List.getElem?_eq_some_iff.1 found).1
    have after : turn.link = _ := link
    rw [after]
    exact ⟨⟨settled', List.getElem?_set_self inside⟩, rfl, rfl, notices⟩
  · intro type entry listed active
    rw [run_append] at active ⊢
    have calls := calls_append_awaited (sound_run policy pre) listed active
    rwa [ChannelNotice.filter_events] at calls

/-- Someone registers for the events of a type. -/
def subscribed : List BoardEvent := [.subscribe (.events "news") "reader"]

/-- A connection brings a text that is no frame, and then a frame. -/
def twoTexts : List BoardEvent :=
  [.link (.call (.connect "token")) 0, .link (.proceed 0) 0, .tell, .tell,
    .link (.answered 0 (.ok ())) 0, .tell, .tell, .link (.driver 0 .begin) 0,
    .link (.driver 0 (.item (.text "?"))) 0, .tell,
    .link (.driver 0 (.item (.text "\x7b\"type\": \"news\"\x7d"))) 0, .tell, .tell, .tell]

/-- What comes about then. -/
def textsRead : List Incident :=
  [.cleared, .dialled, .opened, .frame "?" 0, .frame "\x7b\"type\": \"news\"\x7d" 0]

/-- Whether a frame has a type, and no data. -/
def isBare (type : String) (f : Frame) : Bool :=
  f.type == type && f.data matches .null

theorem eq_of_isBare {type : String} {f : Frame} (h : isBare type f = true) :
    f = ⟨type, .null⟩ := by
  obtain ⟨type', data⟩ := f
  obtain ⟨same, none⟩ := Bool.and_eq_true_iff.1 h
  cases data with
  | null => exact congrArg (Frame.mk · .null) (beq_iff_eq.1 same)
  | _ => cases none

/-- What cannot be read is dropped, and the subscriber is called with the only
event. -/
theorem delivery_run_dropped :
    ((initial everySecond).run subscribed).board.registry.entries (.events "news")
        = [⟨0, .reader "reader"⟩] ∧
      ((initial everySecond).run (subscribed ++ twoTexts)).board.registry.isActive 0 = true ∧
      (initial everySecond).dispatched (subscribed ++ twoTexts) = [⟨"news", .null, 1, 0⟩] ∧
      ((initial everySecond).run (subscribed ++ twoTexts)).board.link.status.decodeErrors = 1 ∧
      ((initial everySecond).run subscribed).calls 0 twoTexts = [.event ⟨"news", .null, 1, 0⟩] := by
  have entries : ((initial everySecond).run subscribed).board.registry.entries (.events "news")
      = [⟨0, .reader "reader"⟩] := rfl
  have active : ((initial everySecond).run (subscribed ++ twoTexts)).board.registry.isActive 0
      = true := by decide +kernel
  have record : (initial everySecond).record (subscribed ++ twoTexts) = textsRead := rfl
  have readable : textsRead.filterMap Incident.readable? = [(⟨"news", .null⟩, 0)] := by
    have one : (textsRead.filterMap Incident.readable?).length = 1 := by decide +kernel
    have bare : (textsRead.filterMap Incident.readable?).all
        (fun (f, time) => isBare "news" f && time == 0) = true := by decide +kernel
    obtain ⟨⟨f, time⟩, only⟩ := List.length_eq_one_iff.1 one
    rw [only, List.all_cons, List.all_nil, Bool.and_true, Bool.and_eq_true, beq_iff_eq] at bare
    rw [only, eq_of_isBare bare.1, bare.2]
  have malformed : textsRead.countP (·.isMalformed) = 1 := by decide +kernel
  obtain ⟨events, ⟨-, -, -, errors⟩, -, calls⟩ := delivery_run everySecond subscribed twoTexts
  rw [record, readable] at events
  rw [record, malformed] at errors
  have called := calls "news" ⟨0, .reader "reader"⟩ (entries ▸ List.mem_singleton_self _) active
  -- Nothing was told before the subscriber registered, and nothing is still to come.
  have before : (initial everySecond).dispatched subscribed = [] := rfl
  have since : ((initial everySecond).run subscribed).dispatched twoTexts
      = [⟨"news", .null, 1, 0⟩] := by
    rw [dispatched_append, before, List.nil_append] at events
    exact events
  have outstanding : ((initial everySecond).run (subscribed ++ twoTexts)).awaited (.events "news") 0
      = [] := by decide +kernel
  rw [since, outstanding, List.append_nil] at called
  exact ⟨entries, active, events, errors, called⟩

end Moment

end Liveboard
