import Liveboard.Proofs.Board.Files

/-!
# Engines that were torn down

An engine that was torn down does nothing any more. Its registrations are ended,
so it hears neither of deltas nor of states, not even in a delivery that has begun
before. What it can still be asked makes its fetch loops fade. Else it stays as it
was when it was torn down (`Moment.engine?_undergoes`), and the caches change by
the doing of others only.

A run here is any list of happenings after the teardown, so `Moment.teardown_run`
makes no assumption on what was going on when the engine was torn down. That it
is not called needs the registrations to fit the files, and nothing else about the
past.
-/

namespace Liveboard

open FetchLoop

/-! ## What a stopped engine changes -/

namespace Board

variable (b : Board)

theorem cache_setCache (name other : String) (c : SnapshotCache) :
    (b.setCache name c).cache other = if other = name then c else b.cache other := by
  rw [cache, setCache, Registry.lookup_cons_eq_ite, Registry.lookup_filter_ne]
  split <;> rfl

/-- What an engine tells changes no cache. -/
theorem caches_takeNotices (engine : Nat) (notices : List EngineNotice) :
    (notices.foldl (takeNotice engine) b).caches = b.caches := by
  induction notices generalizing b with
  | nil => rfl
  | cons notice notices ih =>
    rw [List.foldl_cons, ih]
    cases notice <;> rfl

/-- No fetch loop is begun if the engine tells of none. -/
theorem begun_takeNotices (engine : Nat) {notices : List EngineNotice}
    (none : ∀ generation, .fetch generation ∉ notices) :
    (notices.foldl (takeNotice engine) b).begun = b.begun := by
  induction notices generalizing b with
  | nil => rfl
  | cons notice notices ih =>
    rw [List.foldl_cons, ih _ fun generation mem => none generation (List.mem_cons_of_mem _ mem)]
    cases notice with
    | meter => rfl
    | fetch generation => exact absurd List.mem_cons_self (none generation)

/-- **A stopped engine changes no cache and begins no fetch loop** when it is
asked. -/
theorem engineEvent_of_stopped {n : Nat} {e : Engine} (known : b.engine? n = some e)
    (stopped : e.stopped = true) (quiet : Quiet e.loops) {event : EngineEvent}
    (own : event.isOwn = true) :
    (b.engineEvent n event).begun = b.begun ∧
      ∀ name, (b.engineEvent n event).cache name = b.cache name := by
  obtain ⟨station, found, rfl⟩ := Option.map_eq_some_iff.1 known
  obtain ⟨-, same, none⟩ :=
    Engine.handle_of_stopped stopped quiet own (b.cache station.cache) b.cacheNow
  unfold engineEvent
  rw [found]
  dsimp only
  refine ⟨begun_takeNotices _ n none, fun name => ?_⟩
  -- It puts back what it has taken.
  rw [cache, caches_takeNotices, ← cache, same, cache_setCache]
  split
  · rename_i shared
    rw [shared]
  · rfl

/-- The files tell whether an engine was stopped. -/
theorem files_of_engine? {n : Nat} {e : Engine} (known : b.engine? n = some e) :
    ∃ handles, b.files[n]? = some (handles, e.stopped) := by
  obtain ⟨station, found, rfl⟩ := Option.map_eq_some_iff.1 known
  exact ⟨station.handles, by rw [files, List.getElem?_map, found]; rfl⟩

end Board

namespace Moment

variable {m : Moment} {n : Nat} {e : Engine}

/-- **A stopped engine is called by nobody.** -/
theorem Filed.isOwn_of_heard? (h : m.Filed) (known : m.board.engine? n = some e)
    (stopped : e.stopped = true) {event : BoardEvent} {heard : EngineEvent}
    (hears : m.heard? n event = some heard) : heard.isOwn = true := by
  cases event with
  | tell =>
    obtain ⟨b, untold, due⟩ := m
    cases due with
    | nil => cases hears
    | cons turn due =>
      obtain ⟨entry, notice⟩ := turn
      simp only [heard?] at hears
      split at hears
      · -- It stands under a handle of the engine, which was ended.
        rename_i called
        obtain ⟨active, calls⟩ := called
        obtain ⟨handle, ⟨file, found, mem⟩, same⟩ :=
          h.due (entry, notice) List.mem_cons_self n calls
        obtain ⟨handles, found'⟩ := b.files_of_engine? known
        rw [stopped] at found'
        obtain rfl := Option.some.inj (found.symm.trans found')
        have ended := h.registry.ended n handles found handle mem
        rw [same, active] at ended
        cases ended
      · cases hears
  | refresh engine | pull engine | landed engine =>
    simp only [heard?, Option.ite_none_right_eq_some, Option.some.injEq] at hears
    obtain ⟨-, rfl⟩ := hears
    rfl
  | stopEngine engine =>
    simp [heard?, known, stopped] at hears
  | _ => cases hears

/-- What an engine is asked concerns nobody else. -/
theorem step_of_isOwn {event : BoardEvent} {heard : EngineEvent}
    (hears : m.heard? n event = some heard) (own : heard.isOwn = true) :
    m.step event = { m with board := m.board.engineEvent n heard } := by
  cases event with
  | tell =>
    obtain ⟨notice, -, same⟩ := mem_outstanding_of_heard? hears
    cases notice <;> cases same <;> cases own
  | refresh engine | pull engine | landed engine =>
    simp only [heard?, Option.ite_none_right_eq_some, Option.some.injEq] at hears
    obtain ⟨rfl, rfl⟩ := hears
    rfl
  | stopEngine engine =>
    simp only [heard?, Option.ite_none_right_eq_some, Option.some.injEq] at hears
    obtain ⟨-, rfl⟩ := hears
    cases own
  | _ => cases hears

/-! ## From one happening to the next -/

/-- No loop of the engine waits if it was stopped. -/
theorem quiet_undergo (quiet : ∀ e, m.board.engine? n = some e → e.stopped = true → Quiet e.loops)
    {happening : Happening} (known : (m.undergo happening).board.engine? n = some e)
    (stopped : e.stopped = true) : Quiet e.loops := by
  cases happening with
  | dispatch notice =>
    rw [board_dispatch] at known
    exact quiet e known stopped
  | event event =>
    change (m.step event).board.engine? n = some e at known
    -- This happening has started the engine, or the engine was there before.
    by_cases starts : ∃ period settings cache, event = .startEngine period settings cache ∧
        n = m.board.stations.length
    · obtain ⟨period, settings, cache, rfl, new⟩ := starts
      rw [step, Board.engine?_startEngine, if_pos new] at known
      have running := congrArg Workings.stopped
        (m.board.launch period settings cache).workings_engine
      rw [← Option.some.inj known] at stopped
      exact Bool.noConfusion (running.symm.trans stopped)
    · rw [engine?_step fun period settings cache same new =>
        starts ⟨period, settings, cache, same, new⟩] at known
      obtain ⟨old, found, rfl⟩ := Option.map_eq_some_iff.1 known
      cases occasion : m.occasion? n event with
      | none =>
        rw [occasion] at stopped
        exact quiet old found stopped
      | some o =>
        rw [occasion] at stopped
        have workings := old.workings_after o
        have before : old.workings.stopped = true → Quiet old.workings.loops := quiet old found
        have after := Workings.quiet_step before o.event
        rw [← workings] at after
        exact after stopped

/-- **No loop of a stopped engine waits for another pull**, in every run. -/
theorem quiet_undergoes (policy : BackoffPolicy) (hs : List Happening)
    (known : ((initial policy).undergoes hs).board.engine? n = some e)
    (stopped : e.stopped = true) : Quiet e.loops := by
  induction hs using List.reverseRecOn generalizing e with
  | nil => cases known
  | append_singleton hs happening ih =>
    rw [undergoes_concat] at known
    exact quiet_undergo (fun _ => ih) known stopped

/-- The loops of a stopped engine fade, and else it stays as it is. -/
theorem Filed.engine?_undergo (h : m.Filed) (known : m.board.engine? n = some e)
    (stopped : e.stopped = true) (quiet : Quiet e.loops) (happening : Happening) :
    ∃ loops, (m.undergo happening).board.engine? n = some { e with loops := loops } ∧
      Fade e.loops loops := by
  have still : m.board.engine? n = some { e with loops := e.loops } := known
  cases happening with
  | dispatch notice =>
    rw [board_dispatch]
    exact ⟨e.loops, still, .refl quiet⟩
  | event event =>
    have old : n ≠ m.board.stations.length := by
      rintro rfl
      simp [Board.engine?] at known
    have next := engine?_step (m := m) (e := event) fun _ _ _ _ => old
    rw [known, Option.map_some] at next
    cases occasion : m.occasion? n event with
    | none =>
      rw [occasion] at next
      exact ⟨e.loops, next, .refl quiet⟩
    | some o =>
      rw [occasion] at next
      have own := h.isOwn_of_heard? known stopped (heard?_of_occasion? occasion)
      obtain ⟨⟨loops, after, fade⟩, -⟩ := Engine.handle_of_stopped stopped quiet own o.cache o.now
      exact ⟨loops, next.trans (congrArg some after), fade⟩

/-- **A stopped engine stays as it is** but for its loops, in every run. -/
theorem engine?_undergoes (policy : BackoffPolicy) (hs hs' : List Happening)
    (known : ((initial policy).undergoes hs).board.engine? n = some e)
    (stopped : e.stopped = true) :
    ∃ loops, ((initial policy).undergoes (hs ++ hs')).board.engine? n
        = some { e with loops := loops } ∧ Fade e.loops loops := by
  have quiet := quiet_undergoes policy hs known stopped
  induction hs' using List.reverseRecOn with
  | nil =>
    rw [List.append_nil]
    exact ⟨e.loops, known, .refl quiet⟩
  | append_singleton hs' happening ih =>
    obtain ⟨loops, before, fade⟩ := ih
    rw [← List.append_assoc, undergoes_concat]
    obtain ⟨loops', after, fade'⟩ := (filed_undergoes policy (hs ++ hs')).engine?_undergo before
      stopped fade.quiet happening
    exact ⟨loops', after, fade.trans fade'⟩

/-! ## Tearing down -/

/-- Who is registered for an engine stands under a handle of it. -/
theorem Filed.holds_of_registered (h : m.Filed) {topic : Topic} {entry : Entry Listener}
    (mem : entry ∈ m.board.registry.registered topic) (calls : entry.callback = .engine n) :
    Registry.Holds m.board.files n ⟨entry.id, topic⟩ :=
  h.registry.listed topic entry (List.mem_filter.1 mem).1 n calls

/-- **Who stays registered** when an engine is torn down: everybody else. -/
theorem Filed.registered_stopEngine (h : m.Filed) (known : m.board.engine? n = some e)
    (topic : Topic) :
    (m.step (.stopEngine n)).board.registry.registered topic
      = (m.board.registry.registered topic).filter (·.callback ≠ .engine n) := by
  obtain ⟨handles, file⟩ := m.board.files_of_engine? known
  rcases m.board.stopEngine_cases n with ⟨same, before⟩ | ⟨handles', file', -, registry⟩
  · -- It was stopped before, so none of its registrations is left.
    have stopped : e.stopped = true := by
      by_contra running
      exact before handles (by rw [file, Bool.of_not_eq_true running])
    rw [stopped] at file
    rw [Moment.step, same]
    refine (List.filter_eq_self.2 fun entry mem => ?_).symm
    rw [decide_eq_true_iff]
    intro calls
    obtain ⟨file', found, held⟩ := h.holds_of_registered mem calls
    obtain rfl := Option.some.inj (file.symm.trans found)
    have ended := h.registry.ended n handles file _ held
    rw [(List.mem_filter.1 mem).2] at ended
    cases ended
  · rw [Moment.step, registry, Registry.registered_unsubscribes]
    refine List.filter_congr fun entry mem => ?_
    have own : (∃ handle ∈ handles', entry.id = handle.id) ↔ entry.callback = .engine n := by
      constructor
      · rintro ⟨handle, held, same⟩
        exact h.registry.own topic entry (List.mem_filter.1 mem).1 n handle
          ⟨_, file', held⟩ same.symm
      · intro calls
        obtain ⟨file'', found, held⟩ := h.holds_of_registered mem calls
        obtain rfl := Option.some.inj (file'.symm.trans found)
        exact ⟨_, held, rfl⟩
    rw [Bool.eq_iff_iff, List.all_eq_true]
    simpa using not_congr own

/-- The engine is torn down, if it was not before. -/
theorem engine?_step_stopEngine (known : m.board.engine? n = some e)
    (quiet : e.stopped = true → Quiet e.loops) :
    (m.step (.stopEngine n)).board.engine? n = some e.stop := by
  rw [step, Board.engine?_stopEngine, known]
  cases stopped : e.stopped with
  | false =>
    rw [if_pos (by simp [stopped])]
    rfl
  | true =>
    have loops : e.loops.filter (·.stage ≠ .resting) = e.loops :=
      List.filter_eq_self.2 fun l mem => decide_eq_true (quiet stopped l mem)
    rw [if_neg (by simp [stopped]), Engine.stop, loops, ← stopped]

/-- **What becomes of an engine that is torn down**, whatever happened before.

* Its registrations are ended, those for the deltas and for the states. Everybody
  else stays registered, in the order of registration.
* Whatever happens afterwards, also if it is torn down again, and even where a
  delivery that has begun before goes on: but for its fetch loops the engine stays
  as it was. Loops that waited for another pull have ended. None is begun, none
  waits for another pull, and those that were pulling land and end.
* What it is still asked begins no fetch loop, and neither stores anything in the
  caches nor forgets anything of them. -/
theorem teardown_run (policy : BackoffPolicy) (pre post : List Happening) {n : Nat} {e : Engine}
    (known : ((initial policy).undergoes pre).board.engine? n = some e) :
    let before := (initial policy).undergoes pre
    let torn := before.step (.stopEngine n)
    let later := torn.undergoes post
    (∀ topic, torn.board.registry.registered topic
        = (before.board.registry.registered topic).filter (·.callback ≠ .engine n)) ∧
      (∀ topic, ∀ entry ∈ before.board.registry.registered topic, entry.callback = .engine n →
        topic = .events usageEvents ∨ topic = .states) ∧
      (∃ loops, later.board.engine? n = some { e with stopped := true, loops := loops } ∧
        Fade (e.loops.filter (·.stage ≠ .resting)) loops) ∧
      ∀ event heard, later.heard? n event = some heard →
        (later.step event).board.begun = later.board.begun ∧
          ∀ name, (later.step event).board.cache name = later.board.cache name := by
  intro before torn later
  have filed : before.Filed := filed_undergoes policy pre
  have run : torn = (initial policy).undergoes (pre ++ [.event (.stopEngine n)]) :=
    (undergoes_concat (initial policy) pre (.event (.stopEngine n))).symm
  have stays : later
      = (initial policy).undergoes (pre ++ [.event (.stopEngine n)] ++ post) := by
    rw [undergoes_append, ← run]
  have stopped : torn.board.engine? n = some e.stop :=
    engine?_step_stopEngine known (quiet_undergoes policy pre known)
  rw [run] at stopped
  obtain ⟨loops, faded, fade⟩ := engine?_undergoes policy (pre ++ [.event (.stopEngine n)]) post
    stopped rfl
  rw [← stays] at faded
  refine ⟨fun topic => filed.registered_stopEngine known topic, fun topic entry mem calls => ?_,
    ⟨loops, faded, fade⟩, fun event heard hears => ?_⟩
  · exact filed.registry.topics n _ (filed.holds_of_registered mem calls)
  · have own : heard.isOwn = true :=
      (stays ▸ filed_undergoes policy _ : later.Filed).isOwn_of_heard? faded rfl hears
    rw [step_of_isOwn hears own]
    exact later.board.engineEvent_of_stopped faded rfl fade.quiet own

/-- The first pull of an engine is under way, and an event is about to be
delivered to the engine and to a reader. -/
def inFlight : List Happening :=
  [.event (.startEngine .standard (Launch.bare 1).settings "shared"), .event (.pull 0 1),
    .event (.subscribe (.events usageEvents) "reader"),
    .dispatch (.event ⟨usageEvents, .null, 1, 0⟩)]

/-- The event is delivered, and someone asks the engine for a new snapshot. -/
def asked : List Happening := [.event .tell, .event .tell, .event (.refresh 0)]

/-- If the engine is torn down meanwhile, the reader is left, and the snapshot
that lands is stored nowhere. -/
theorem teardown_run_inFlight :
    ∃ e, ((initial everySecond).undergoes inFlight).board.engine? 0 = some e ∧
      (((initial everySecond).undergoes inFlight).step (.stopEngine 0)).board.registry.registered
        (.events usageEvents) = [⟨2, .reader "reader"⟩] ∧
      (∃ loops, ((((initial everySecond).undergoes inFlight).step (.stopEngine 0)).undergoes
          asked).board.engine? 0 = some { e with stopped := true, loops := loops } ∧
        Fade (e.loops.filter (·.stage ≠ .resting)) loops) ∧
      (((((initial everySecond).undergoes inFlight).step (.stopEngine 0)).undergoes asked).step
        (.landed 0 1 (.ok (.ofStreams 7)))).board.cache "shared" = .empty := by
  have up : (((initial everySecond).undergoes inFlight).board.engine? 0).map (·.stopped)
      = some false := rfl
  have registered : ((initial everySecond).undergoes inFlight).board.registry.registered
      (.events usageEvents) = [⟨0, .engine 0⟩, ⟨2, .reader "reader"⟩] := rfl
  have empty : ((((initial everySecond).undergoes inFlight).step (.stopEngine 0)).undergoes
      asked).board.cache "shared" = .empty := rfl
  obtain ⟨e, known, -⟩ := Option.map_eq_some_iff.1 up
  obtain ⟨left, -, stays, still⟩ := teardown_run everySecond inFlight asked known
  refine ⟨e, known, ?_, stays, ?_⟩
  · rw [left, registered]
    rfl
  · rw [(still _ _ rfl).2, empty]

end Moment

end Liveboard
