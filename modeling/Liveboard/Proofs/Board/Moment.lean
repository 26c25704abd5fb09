import Liveboard.Board.Basic
import Liveboard.Proofs.Channel.Exclusive
import Liveboard.Proofs.Engine.Resync

/-!
# The board, one thing at a time

A move of the manager sets off a whole series of calls: what it tells is
delivered to one listener after the other. Here the board is watched between
any two of these calls. A *moment* is a board together with what was told
and is still to be delivered, and in between pulls may land, engines may be
refreshed, started and stopped, and listeners may come and go. Only who
wants to tell something has to wait until everything told before has been
delivered, for whoever tells something delivers it before going on.

Moves that are delivered at once are among the runs of moments
(`Moment.run_move`), so what holds of all runs here holds of the board that
runs. For a single engine each step is at most one occasion, and the engine
goes through a run of its own (`Moment.engine?_run`): what was proved of a
single engine can be said of any engine on the board, with `Moment.feed` in
place of the occasions.

What a step does to a part of the board is always the same argument, that
only a few kinds of step touch that part at all. `Board.Hears` says what a
call can do, and the lemmas about parts are read off it.
-/

namespace Liveboard

/-! ## Moments -/

/-- **What can happen to a board**, one thing at a time. -/
inductive BoardEvent where
  /-- A move of the manager. -/
  | link (event : LinkEvent) (draw : Float)
  /-- The next listener is called, or the next thing told is taken up. -/
  | tell
  /-- Someone, or the clock, asks an engine for a new snapshot. -/
  | refresh (engine : Nat)
  /-- A fetch loop of an engine makes its next pull. -/
  | pull (engine generation : Nat)
  /-- A pull of an engine has landed. -/
  | landed (engine generation : Nat) (result : Except FetchError Snapshot)
  /-- An engine is started. -/
  | startEngine (period : Period) (settings : EngineSettings) (cache : String)
  /-- An engine is torn down. -/
  | stopEngine (engine : Nat)
  /-- A watcher is started. -/
  | startWatcher (entity : String)
  /-- A watcher is stopped. -/
  | stopWatcher (watcher : Nat)
  /-- A watcher is turned to another API. -/
  | setEntity (watcher : Nat) (entity : String)
  /-- Someone registers. -/
  | subscribe (topic : Topic) (label : String)
  /-- A registration is ended. -/
  | unsubscribe (handle : Handle)
  /-- All registrations are ended. -/
  | clear
  /-- Someone else uses a cache. -/
  | useCache (cache : String) (use : CacheUse)
  /-- Time passes. -/
  | wait (now cacheNow : Nat)

/-- **The board between two calls.** -/
structure Moment where
  /-- The board. -/
  board : Board
  /-- What was told and was not taken up yet, the first first. -/
  untold : List ChannelNotice
  /-- The listeners still to be called, each with what it is to be told. -/
  due : List (Entry Listener × ChannelNotice)

/-- What a listener does with what is told. -/
def Board.hear (b : Board) (notice : ChannelNotice) (entry : Entry Listener) : Board :=
  match notice with
  | .meter _ => b
  | .state state => Board.hearState state entry b
  | .event event => Board.hearEvent event entry b

/-- What an engine makes of what is told. -/
def ChannelNotice.engineEvent? : ChannelNotice → Option EngineEvent
  | .meter _ => none
  | .state s => some (.channel s)
  | .event e => some (.delta e)

/-- An engine of a board. -/
def Board.engine? (b : Board) (engine : Nat) : Option Engine :=
  (b.stations[engine]?).map (·.engine)

namespace Moment

/-- A moment at which everything has been delivered. -/
def ofBoard (b : Board) : Moment := ⟨b, [], []⟩

/-- Nothing on the board. -/
def initial (policy : BackoffPolicy) : Moment := ofBoard (.initial policy)

/-- Whether everything told was delivered. -/
def isIdle (m : Moment) : Bool :=
  m.untold.isEmpty && m.due.isEmpty

/-- The next listener is called if it is still registered. When there is
none, the next thing told is taken up. -/
def deliver (m : Moment) : Moment :=
  match m.due, m.untold with
  | (entry, notice) :: due, _ =>
    if m.board.registry.isActive entry.id then
      { m with board := m.board.hear notice entry, due := due }
    else { m with due := due }
  | [], .meter change :: untold => { m with board := m.board.record change, untold := untold }
  | [], .state state :: untold =>
    { m with
      untold := untold
      due := (m.board.registry.entries .states).map fun entry => (entry, .state state) }
  | [], .event event :: untold =>
    { m with
      untold := untold
      due := (m.board.registry.entries (.events event.type)).map fun entry =>
        (entry, .event event) }
  | [], [] => m

/-- What the manager would do and tell. -/
def turn (m : Moment) (event : LinkEvent) (draw : Float) : LinkTurn :=
  m.board.link.handle event m.board.now draw

/-- Whether a move may be made: one that tells something waits until
everything told before has been delivered. -/
def mayMove (m : Moment) (event : LinkEvent) (draw : Float) : Bool :=
  m.isIdle || (m.turn event draw).notices.isEmpty

/-- **What an event does.** -/
def step (m : Moment) : BoardEvent → Moment
  | .link event draw =>
    if m.mayMove event draw then
      { m with
        board := { m.board with link := (m.turn event draw).link }
        untold := m.untold ++ (m.turn event draw).notices }
    else m
  | .tell => m.deliver
  | .refresh engine => { m with board := m.board.engineEvent engine .refresh }
  | .pull engine generation => { m with board := m.board.engineEvent engine (.pull generation) }
  | .landed engine generation result =>
    { m with board := m.board.engineEvent engine (.landed generation result) }
  | .startEngine period settings cache =>
    { m with board := m.board.startEngine period settings cache }
  | .stopEngine engine => { m with board := m.board.stopEngine engine }
  | .startWatcher entity => { m with board := m.board.startWatcher entity }
  | .stopWatcher watcher => { m with board := m.board.stopWatcher watcher }
  | .setEntity watcher entity => { m with board := m.board.setEntity watcher entity }
  | .subscribe topic label =>
    { m with board := (m.board.subscribe topic
        (match topic with | .events _ => .reader label | .states => .journal)).2 }
  | .unsubscribe handle => { m with board := m.board.unsubscribe handle }
  | .clear => { m with board := { m.board with registry := m.board.registry.clear } }
  | .useCache cache use =>
    { m with board := m.board.setCache cache ((m.board.cache cache).use use) }
  | .wait now cacheNow => { m with board := { m.board with now := now, cacheNow := cacheNow } }

/-- **The moment after a list of events.** -/
def run (m : Moment) (es : List BoardEvent) : Moment :=
  es.foldl step m

@[simp] theorem run_nil (m : Moment) : m.run [] = m := rfl

@[simp] theorem run_cons (m : Moment) (e : BoardEvent) (es : List BoardEvent) :
    m.run (e :: es) = (m.step e).run es := rfl

theorem run_append (m : Moment) (es fs : List BoardEvent) :
    m.run (es ++ fs) = (m.run es).run fs :=
  List.foldl_append

theorem run_concat (m : Moment) (es : List BoardEvent) (e : BoardEvent) :
    m.run (es ++ [e]) = (m.run es).step e :=
  m.run_append es [e]

/-! ## Moves that are delivered at once -/

/-- All listeners of a delivery are called in turn. -/
theorem run_due (b : Board) (untold : List ChannelNotice) (notice : ChannelNotice)
    (entries : List (Entry Listener)) :
    (⟨b, untold, entries.map fun entry => (entry, notice)⟩ : Moment).run
        (List.replicate entries.length .tell)
      = ⟨(Registry.deliverTo Board.registry (fun entry b => b.hear notice entry) entries b).2,
          untold, []⟩ := by
  induction entries generalizing b with
  | nil => rfl
  | cons entry entries ih =>
    rw [List.length_cons, List.replicate_succ, run_cons]
    simp only [step, deliver, List.map_cons, Registry.deliverTo]
    by_cases active : b.registry.isActive entry.id = true
    · rw [if_pos active, if_pos active]
      exact ih (b.hear notice entry)
    · rw [if_neg active, if_neg active]
      exact ih b

/-- What was told is delivered. -/
theorem run_notice (b : Board) (notice : ChannelNotice) (untold : List ChannelNotice) :
    ∃ calls, (⟨b, notice :: untold, []⟩ : Moment).run (List.replicate calls .tell)
      = ⟨b.tell notice, untold, []⟩ := by
  cases notice with
  | meter change => exact ⟨1, rfl⟩
  | state state =>
    exact ⟨(b.registry.entries .states).length + 1,
      run_due b untold (.state state) (b.registry.entries .states)⟩
  | event event =>
    exact ⟨(b.registry.entries (.events event.type)).length + 1,
      run_due b untold (.event event) (b.registry.entries (.events event.type))⟩

theorem run_notices (b : Board) (notices : List ChannelNotice) :
    ∃ calls, (⟨b, notices, []⟩ : Moment).run (List.replicate calls .tell)
      = ofBoard (notices.foldl Board.tell b) := by
  induction notices generalizing b with
  | nil => exact ⟨0, rfl⟩
  | cons notice notices ih =>
    obtain ⟨first, h⟩ := run_notice b notice notices
    obtain ⟨rest, h'⟩ := ih (b.tell notice)
    refine ⟨first + rest, ?_⟩
    rw [List.replicate_add, run_append, h, h', List.foldl_cons]

/-- **A move that is delivered at once** is a run of moments. -/
theorem run_move (b : Board) (event : LinkEvent) (draw : Float) :
    ∃ calls, (ofBoard b).run (.link event draw :: List.replicate calls .tell)
      = ofBoard (b.move event draw) := by
  have may : (ofBoard b).mayMove event draw = true := rfl
  obtain ⟨calls, h⟩ := run_notices { b with link := (b.link.handle event b.now draw).link }
    (b.link.handle event b.now draw).notices
  refine ⟨calls, ?_⟩
  rw [run_cons, step, if_pos may]
  exact h

end Moment

/-! ## What does not change -/

namespace Board

variable (b : Board)

theorem frame_takeNotices (engine : Nat) (notices : List EngineNotice) :
    (notices.foldl (takeNotice engine) b).stations = b.stations ∧
      (notices.foldl (takeNotice engine) b).link = b.link := by
  induction notices generalizing b with
  | nil => exact ⟨rfl, rfl⟩
  | cons notice notices ih =>
    rw [List.foldl_cons]
    obtain ⟨stations, link⟩ := ih (takeNotice engine b notice)
    cases notice <;> exact ⟨stations, link⟩

theorem frame_unsubscribes (handles : List Handle) :
    (handles.foldl unsubscribe b).stations = b.stations ∧
      (handles.foldl unsubscribe b).link = b.link := by
  induction handles generalizing b with
  | nil => exact ⟨rfl, rfl⟩
  | cons handle handles ih => exact ih (b.unsubscribe handle)

@[simp] theorem link_engineEvent (engine : Nat) (event : EngineEvent) :
    (b.engineEvent engine event).link = b.link := by
  unfold engineEvent
  split
  · rfl
  · exact (frame_takeNotices _ engine _).2

/-- **What a listener does to the board** when it is called: an engine handles what it is
told, and nobody else changes more than watchers, meters and journal. -/
inductive Hears (b : Board) (notice : ChannelNotice) (entry : Entry Listener) : Board → Prop where
  /-- An engine handles what it is told. -/
  | handles {engine : Nat} {event : EngineEvent} (callback : entry.callback = .engine engine)
      (told : notice.engineEvent? = some event) :
      Hears b notice entry (b.engineEvent engine event)
  /-- There is no engine to handle it. -/
  | notes (watchers : List Watcher) (meters : Meters) (journal : List JournalEntry)
      (other : ∀ engine, entry.callback = .engine engine → notice.engineEvent? = none) :
      Hears b notice entry { b with watchers := watchers, meters := meters, journal := journal }

theorem hears (notice : ChannelNotice) (entry : Entry Listener) :
    b.Hears notice entry (b.hear notice entry) := by
  cases notice with
  | meter change => exact .notes _ _ _ fun _ _ => rfl
  | state state =>
    simp only [hear, hearState]
    cases callback : entry.callback with
    | engine engine => exact .handles callback rfl
    | journal | reader | watcher => exact .notes _ _ _ fun _ engine => by simp [callback] at engine
  | event event =>
    simp only [hear, hearEvent]
    cases callback : entry.callback with
    | engine engine => exact .handles callback rfl
    | journal | reader => exact .notes _ _ _ fun _ engine => by simp [callback] at engine
    | watcher watcher entity =>
      have other : ∀ engine, entry.callback = .engine engine →
          (ChannelNotice.event event).engineEvent? = none := by simp [callback]
      dsimp only
      cases b.watchers[watcher]? with
      | none => exact .notes _ _ _ other
      | some w =>
        dsimp only
        split
        · exact .notes _ _ _ other
        · exact .notes _ _ _ other

@[simp] theorem link_hear (notice : ChannelNotice) (entry : Entry Listener) :
    (b.hear notice entry).link = b.link := by
  have hears := b.hears notice entry
  generalize b.hear notice entry = b' at hears ⊢
  cases hears with
  | handles => exact b.link_engineEvent _ _
  | notes => rfl

@[simp] theorem link_startEngine (period : Period) (settings : EngineSettings) (cache : String) :
    (b.startEngine period settings cache).link = b.link :=
  (frame_takeNotices _ _ _).2

@[simp] theorem link_stopEngine (engine : Nat) : (b.stopEngine engine).link = b.link := by
  unfold stopEngine
  split
  · rfl
  · split
    · rfl
    · exact (frame_unsubscribes _ _).2.trans (b.link_engineEvent engine .stop)

theorem frame_stopWatcher (watcher : Nat) :
    (b.stopWatcher watcher).stations = b.stations ∧ (b.stopWatcher watcher).link = b.link := by
  unfold stopWatcher
  split
  · split
    · exact ⟨rfl, rfl⟩
    · exact ⟨rfl, rfl⟩
  · exact ⟨rfl, rfl⟩

theorem frame_setEntity (watcher : Nat) (entity : String) :
    (b.setEntity watcher entity).stations = b.stations ∧
      (b.setEntity watcher entity).link = b.link := by
  unfold setEntity
  dsimp only
  split
  · exact b.frame_stopWatcher watcher
  · exact b.frame_stopWatcher watcher

/-! ## What happens to an engine -/

/-- The cache that an engine shares. -/
def engineCache (engine : Nat) : SnapshotCache :=
  match b.stations[engine]? with
  | some station => b.cache station.cache
  | none => .empty

theorem engine?_of_stations_eq {b b' : Board} (h : b'.stations = b.stations) (n : Nat) :
    b'.engine? n = b.engine? n := by
  rw [engine?, h, engine?]

theorem engine?_engineEvent (engine : Nat) (event : EngineEvent) (n : Nat) :
    (b.engineEvent engine event).engine? n
      = if engine = n then
          (b.engine? n).map fun e => e.after ⟨event, b.engineCache n, b.cacheNow⟩
        else b.engine? n := by
  unfold engineEvent
  cases found : b.stations[engine]? with
  | none =>
    dsimp only
    split
    · rename_i same
      subst same
      simp [engine?, found]
    · rfl
  | some station =>
    dsimp only
    rw [engine?_of_stations_eq (frame_takeNotices _ engine _).1]
    show (((b.stations.set engine _)[n]?).map Station.engine) = _
    rw [List.getElem?_set]
    split
    · rename_i same
      subst same
      obtain ⟨within, rfl⟩ := List.getElem?_eq_some_iff.1 found
      simp [within, engine?, engineCache, Engine.after]
    · rfl

/-- An engine hears what is told through a registration of its own. -/
theorem engine?_hear (notice : ChannelNotice) (entry : Entry Listener) (n : Nat) :
    (b.hear notice entry).engine? n
      = if entry.callback = .engine n then
          match notice.engineEvent? with
          | some event => (b.engine? n).map fun e => e.after ⟨event, b.engineCache n, b.cacheNow⟩
          | none => b.engine? n
        else b.engine? n := by
  have hears := b.hears notice entry
  generalize b.hear notice entry = b' at hears ⊢
  cases hears with
  | handles callback told => simp [callback, told, engine?_engineEvent]
  | notes _ _ _ other =>
    split
    · rw [other n ‹_›]
      rfl
    · rfl

/-- What an engine finds that is started on the board. -/
def launch (b : Board) (period : Period) (settings : EngineSettings) (cache : String) :
    Launch where
  period := period
  settings := settings
  channel := b.link.status.state
  cache := b.cache cache
  now := b.cacheNow

theorem engine?_startEngine (period : Period) (settings : EngineSettings) (cache : String)
    (n : Nat) :
    (b.startEngine period settings cache).engine? n
      = if n = b.stations.length then some (b.launch period settings cache).engine
        else b.engine? n := by
  rw [startEngine, engine?_of_stations_eq (frame_takeNotices _ _ _).1]
  show (((b.stations ++ [_])[n]?).map Station.engine) = _
  rw [List.getElem?_append, engine?]
  rcases Nat.lt_trichotomy n b.stations.length with before | rfl | after
  · rw [if_pos before, if_neg (Nat.ne_of_lt before)]
  · rw [if_neg (Nat.lt_irrefl _), if_pos rfl, Nat.sub_self]
    rfl
  · have outside : 1 ≤ n - b.stations.length := by omega
    rw [if_neg (by omega), if_neg (by omega), List.getElem?_eq_none (by simpa using outside),
      List.getElem?_eq_none (Nat.le_of_lt after)]

theorem engine?_stopEngine (engine n : Nat) :
    (b.stopEngine engine).engine? n
      = if engine = n ∧ (b.engine? n).any (!·.stopped) then
          (b.engine? n).map fun e => e.after ⟨.stop, b.engineCache n, b.cacheNow⟩
        else b.engine? n := by
  unfold stopEngine
  cases found : b.stations[engine]? with
  | none =>
    by_cases same : engine = n
    · subst same
      simp [engine?, found]
    · simp [same]
  | some station =>
    have known : b.engine? engine = some station.engine := by simp [engine?, found]
    dsimp only
    cases stopped : station.engine.stopped with
    | true =>
      by_cases same : engine = n
      · subst same
        simp [known, stopped]
      · simp [same]
    | false =>
      rw [if_neg (by simp), engine?_of_stations_eq (frame_unsubscribes _ _).1,
        engine?_engineEvent]
      by_cases same : engine = n
      · subst same
        simp [known, stopped]
      · simp [same]

end Board

namespace Moment

/-- **What an engine hears** of an event of the board. -/
def heard? (n : Nat) (m : Moment) : BoardEvent → Option EngineEvent
  | .tell =>
    match m.due with
    | (entry, notice) :: _ =>
      if m.board.registry.isActive entry.id ∧ entry.callback = .engine n then notice.engineEvent?
      else none
    | [] => none
  | .refresh engine => if engine = n then some .refresh else none
  | .pull engine generation => if engine = n then some (.pull generation) else none
  | .landed engine generation result =>
    if engine = n then some (.landed generation result) else none
  | .stopEngine engine =>
    if engine = n ∧ (m.board.engine? n).any (!·.stopped) then some .stop else none
  | _ => none

/-- The occasion that an event of the board is for an engine, if it is one. -/
def occasion? (n : Nat) (m : Moment) (e : BoardEvent) : Option Occasion :=
  (m.heard? n e).map fun event => ⟨event, m.board.engineCache n, m.board.cacheNow⟩

theorem heard?_of_occasion? {n : Nat} {m : Moment} {e : BoardEvent} {o : Occasion}
    (h : m.occasion? n e = some o) : m.heard? n e = some o.event := by
  obtain ⟨event, heard, rfl⟩ := Option.map_eq_some_iff.1 h
  exact heard

/-- **What an engine goes through** in a run of the board. -/
def feed (n : Nat) (m : Moment) : List BoardEvent → List Occasion
  | [] => []
  | e :: es => (m.occasion? n e).toList ++ (m.step e).feed n es

theorem engine?_deliver (n : Nat) (m : Moment) :
    m.deliver.board.engine? n
      = match m.heard? n .tell with
        | some event =>
          (m.board.engine? n).map fun e => e.after ⟨event, m.board.engineCache n, m.board.cacheNow⟩
        | none => m.board.engine? n := by
  obtain ⟨b, untold, due⟩ := m
  cases due with
  | nil =>
    cases untold with
    | nil => rfl
    | cons notice untold => cases notice <;> rfl
  | cons turn due =>
    obtain ⟨entry, notice⟩ := turn
    simp only [deliver, heard?]
    by_cases active : b.registry.isActive entry.id = true
    · rw [if_pos active]
      simp only [active, true_and]
      rw [b.engine?_hear notice entry n]
      split
      · rfl
      · rfl
    · rw [if_neg active]
      simp [active]

/-- **What an event of the board does to an engine** that it does not
start. -/
theorem engine?_step {n : Nat} {m : Moment} {e : BoardEvent}
    (h : ∀ period settings cache, e = .startEngine period settings cache →
      n ≠ m.board.stations.length) :
    (m.step e).board.engine? n
      = (m.board.engine? n).map fun old =>
        match m.occasion? n e with
        | some o => old.after o
        | none => old := by
  have same : ∀ b' : Board, b'.stations = m.board.stations →
      b'.engine? n = (m.board.engine? n).map fun old => old := by
    intro b' stations
    rw [Board.engine?_of_stations_eq stations, Option.map_id']
  have handled : ∀ engine event, (m.board.engineEvent engine event).engine? n
      = (m.board.engine? n).map fun old =>
        match (if engine = n then some event else none).map fun event =>
          (⟨event, m.board.engineCache n, m.board.cacheNow⟩ : Occasion) with
        | some o => old.after o
        | none => old := by
    intro engine event
    rw [Board.engine?_engineEvent]
    by_cases same : engine = n <;> simp [same]
  cases e with
  | link event draw =>
    simp only [step]
    split <;> exact same _ rfl
  | tell =>
    rw [step, engine?_deliver, occasion?]
    cases m.heard? n .tell with
    | none => exact same _ rfl
    | some event => rfl
  | refresh engine => exact handled engine .refresh
  | pull engine generation => exact handled engine (.pull generation)
  | landed engine generation result => exact handled engine (.landed generation result)
  | startEngine period settings cache =>
    rw [step, Board.engine?_startEngine, if_neg (h period settings cache rfl)]
    exact same _ rfl
  | stopEngine engine =>
    rw [step, Board.engine?_stopEngine, occasion?, heard?]
    by_cases stops : engine = n ∧ (m.board.engine? n).any (!·.stopped) = true
    · rw [if_pos stops, if_pos stops]
      rfl
    · rw [if_neg stops, if_neg stops]
      exact same _ rfl
  | startWatcher | subscribe | unsubscribe | clear | useCache | wait => exact same _ rfl
  | stopWatcher watcher => exact same _ (m.board.frame_stopWatcher watcher).1
  | setEntity watcher entity => exact same _ (m.board.frame_setEntity watcher entity).1

/-- **An engine goes through a run of its own.** -/
theorem engine?_run {n : Nat} {m : Moment} {old : Engine} (h : m.board.engine? n = some old)
    (es : List BoardEvent) : (m.run es).board.engine? n = some (old.run (m.feed n es)) := by
  induction es generalizing m old with
  | nil => exact h
  | cons e es ih =>
    have known : n ≠ m.board.stations.length := by
      rintro rfl
      simp [Board.engine?] at h
    have next := engine?_step (m := m) (e := e) fun _ _ _ _ => known
    rw [h] at next
    rw [run_cons, ih next, feed, Engine.run_append]
    cases m.occasion? n e <;> rfl

theorem feed_append (n : Nat) (m : Moment) (es fs : List BoardEvent) :
    m.feed n (es ++ fs) = m.feed n es ++ (m.run es).feed n fs := by
  induction es generalizing m with
  | nil => rfl
  | cons e es ih => rw [List.cons_append, feed, ih, feed, List.append_assoc, run_cons]

/-- **Every occasion of an engine is an event of the board.** -/
theorem exists_of_feed_eq {n : Nat} {m : Moment} {es : List BoardEvent}
    {before after : List Occasion} {o : Occasion} (h : m.feed n es = before ++ o :: after) :
    ∃ earlier e later, es = earlier ++ e :: later ∧ before = m.feed n earlier ∧
      (m.run earlier).occasion? n e = some o ∧
      after = (m.run (earlier ++ [e])).feed n later := by
  induction es generalizing m before with
  | nil => simp [feed] at h
  | cons e es ih =>
    rw [feed] at h
    cases here : m.occasion? n e with
    | none =>
      rw [here] at h
      obtain ⟨earlier, e', later, rfl, rfl, rest⟩ := ih h
      refine ⟨e :: earlier, e', later, rfl, ?_, rest⟩
      simp [feed, here]
    | some o' =>
      rw [here] at h
      cases before with
      | nil =>
        obtain ⟨rfl, rfl⟩ := List.cons.inj h
        exact ⟨[], e, es, rfl, rfl, here, rfl⟩
      | cons b before =>
        obtain ⟨rfl, tail⟩ := List.cons.inj h
        obtain ⟨earlier, e', later, rfl, rfl, rest⟩ := ih tail
        refine ⟨e :: earlier, e', later, rfl, ?_, rest⟩
        simp [feed, here]

/-- **What comes about for an engine** on an event of the board, if anything
does. -/
def deed? (n : Nat) (m : Moment) (e : BoardEvent) : Option Deed :=
  (m.board.engine? n).bind fun engine => (m.occasion? n e).bind engine.workings.deed?

theorem deed?_eq {n : Nat} {m : Moment} {e : BoardEvent} {engine : Engine} {o : Occasion}
    (known : m.board.engine? n = some engine) (occasion : m.occasion? n e = some o) :
    m.deed? n e = engine.workings.deed? o := by
  simp [deed?, known, occasion]

/-- A new engine has the next number, and looks at the board as it is. -/
theorem engine?_step_startEngine (m : Moment) (period : Period) (settings : EngineSettings)
    (cache : String) :
    (m.step (.startEngine period settings cache)).board.engine? m.board.stations.length
      = some (m.board.launch period settings cache).engine :=
  (m.board.engine?_startEngine period settings cache _).trans (if_pos rfl)

/-- **Every engine was started in the run.** -/
theorem exists_start (policy : BackoffPolicy) {es : List BoardEvent} {n : Nat} {e : Engine}
    (known : ((initial policy).run es).board.engine? n = some e) :
    ∃ pre period settings cache post,
      es = pre ++ .startEngine period settings cache :: post ∧
      n = ((initial policy).run pre).board.stations.length := by
  induction es using List.reverseRecOn generalizing e with
  | nil => simp [initial, ofBoard, Board.engine?, Board.initial] at known
  | append_singleton es event ih =>
    -- The last event has started the engine, or the engine was there before.
    by_cases starts : ∃ period settings cache, event = .startEngine period settings cache ∧
        n = ((initial policy).run es).board.stations.length
    · obtain ⟨period, settings, cache, rfl, new⟩ := starts
      exact ⟨es, period, settings, cache, [], rfl, new⟩
    · rw [run_concat, engine?_step fun period settings cache eq new =>
        starts ⟨period, settings, cache, eq, new⟩] at known
      obtain ⟨old, before, -⟩ := Option.map_eq_some_iff.1 known
      obtain ⟨pre, period, settings, cache, post, rfl, new⟩ := ih before
      exact ⟨pre, period, settings, cache, post ++ [event], by simp, new⟩

/-- Every engine has gone through a run of its own since it was started. -/
theorem exists_launch (policy : BackoffPolicy) (es : List BoardEvent) {n : Nat} {e : Engine}
    (h : ((initial policy).run es).board.engine? n = some e) :
    ∃ (l : Launch) (os : List Occasion), e = l.run os := by
  obtain ⟨pre, period, settings, cache, post, rfl, rfl⟩ := exists_start policy h
  have new := ((initial policy).run pre).engine?_step_startEngine period settings cache
  rw [run_append, run_cons, engine?_run new post, Option.some.injEq] at h
  exact ⟨_, _, h.symm⟩

end Moment

end Liveboard
