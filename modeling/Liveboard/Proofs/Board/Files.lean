import Liveboard.Proofs.Board.Deliveries
import Liveboard.Proofs.Engine.Stopped

/-!
# Whose registrations they are

An engine that is started registers twice, for the deltas and for the states,
and keeps the two handles. Whatever happens on the board, who calls an engine
stands in the lists under one of its handles, and under its handles stands
nobody else. When it is stopped the two are ended, and they never become active
again. So a stopped engine is called by nobody, not even where a delivery that
has begun before is still going on.

The invariant (`Registry.Filed`) is between the registry and the `Board.files`:
the handles of each engine, and whether it was stopped. It leaves the engines
themselves out, since no event that happens to one touches either.

The manager is not the only one that may dispatch. Here anyone may do so at any
time, also in the middle of a delivery; a `Happening` is an event of the board
or such a dispatch, and `Moment.filed_undergoes` is the invariant for all runs
of them.
-/

namespace Liveboard

/-! ## Anyone may dispatch -/

/-- **What can happen to a board** on which anyone may dispatch. -/
inductive Happening where
  /-- An event of the board. -/
  | event (e : BoardEvent)
  /-- Someone other than the manager dispatches. -/
  | dispatch (notice : ChannelNotice)

namespace Moment

/-- **What a happening does.** If someone dispatches, the listeners in the list are
to be called before those that are still due. -/
def undergo (m : Moment) : Happening → Moment
  | .event e => m.step e
  | .dispatch notice =>
    match notice.topic? with
    | some topic =>
      { m with
        due := (m.board.registry.entries topic).map (fun entry => (entry, notice)) ++ m.due }
    | none => m

/-- **The moment after a list of happenings.** -/
def undergoes (m : Moment) (hs : List Happening) : Moment :=
  hs.foldl undergo m

@[simp] theorem undergoes_nil (m : Moment) : m.undergoes [] = m := rfl

theorem undergoes_concat (m : Moment) (hs : List Happening) (h : Happening) :
    m.undergoes (hs ++ [h]) = (m.undergoes hs).undergo h :=
  List.foldl_concat ..

/-- A run of the board is one in which only the manager dispatches. -/
theorem undergoes_events (m : Moment) (es : List BoardEvent) :
    m.undergoes (es.map .event) = m.run es :=
  List.foldl_map

theorem undergoes_append (m : Moment) (hs hs' : List Happening) :
    m.undergoes (hs ++ hs') = (m.undergoes hs).undergoes hs' :=
  List.foldl_append

/-- Whoever dispatches changes nothing but what is due. -/
theorem board_dispatch (m : Moment) (notice : ChannelNotice) :
    (m.undergo (.dispatch notice)).board = m.board := by
  unfold undergo
  dsimp only
  split <;> rfl

theorem changes_undergo (m : Moment) (h : Happening) :
    m.board.registry.Changes (m.undergo h).board.registry := by
  cases h with
  | event e => exact m.changes_step e
  | dispatch notice =>
    rw [board_dispatch]
    exact .refl

theorem sound_undergoes (policy : BackoffPolicy) (hs : List Happening) :
    ((initial policy).undergoes hs).board.registry.Sound := by
  induction hs using List.reverseRecOn with
  | nil => exact Registry.sound_empty
  | append_singleton hs h ih =>
    rw [undergoes_concat]
    exact (changes_undergo _ h).sound ih

end Moment

/-! ## Registrations and files -/

namespace Registry

/-- An engine has a handle, by the number of the engine. -/
def Holds (files : List (List Handle × Bool)) (n : Nat) (h : Handle) : Prop :=
  ∃ file, files[n]? = some file ∧ h ∈ file.1

/-- **The registrations fit the files.** -/
structure Filed (r : Registry Listener) (files : List (List Handle × Bool)) : Prop where
  /-- Who calls an engine stands under a handle of it. -/
  listed : ∀ topic, ∀ entry ∈ r.entries topic, ∀ n, entry.callback = .engine n →
    Holds files n ⟨entry.id, topic⟩
  /-- Who stands under a handle of an engine calls it. -/
  own : ∀ topic, ∀ entry ∈ r.entries topic, ∀ (n : Nat) (h : Handle), Holds files n h →
    h.id = entry.id → entry.callback = .engine n
  /-- The handles were handed out. -/
  issued : ∀ (n : Nat) (h : Handle), Holds files n h → h.id < r.nextId
  /-- They are for the deltas or for the states. -/
  topics : ∀ (n : Nat) (h : Handle), Holds files n h →
    h.topic = .events usageEvents ∨ h.topic = .states
  /-- Those of an engine that was stopped are not active. -/
  ended : ∀ (n : Nat) (hs : List Handle), files[n]? = some (hs, true) →
    ∀ h ∈ hs, r.isActive h.id = false

/-- There is one more engine. -/
theorem holds_concat {files : List (List Handle × Bool)} {file : List Handle × Bool} {n : Nat}
    {h : Handle} :
    Holds (files ++ [file]) n h ↔ Holds files n h ∨ (n = files.length ∧ h ∈ file.1) := by
  unfold Holds
  rw [List.getElem?_append]
  rcases Nat.lt_trichotomy n files.length with before | rfl | after
  · simp [before, Nat.ne_of_lt before]
  · simp
  · have beyond : n - files.length ≠ 0 := by omega
    simp [Nat.not_lt_of_lt after, Nat.ne_of_gt after, beyond]

/-- It was not stopped. -/
theorem getElem?_of_concat_stopped {files : List (List Handle × Bool)} {hs hs' : List Handle}
    {n : Nat} (found : (files ++ [(hs, false)])[n]? = some (hs', true)) :
    files[n]? = some (hs', true) := by
  rw [List.getElem?_append] at found
  split at found
  · exact found
  · rw [List.getElem?_singleton] at found
    split at found <;> cases found

/-- Whether an engine was stopped does not matter. -/
theorem holds_set {files : List (List Handle × Bool)} {n k : Nat} {hs : List Handle}
    {stopped stopped' : Bool} (file : files[n]? = some (hs, stopped)) {h : Handle} :
    Holds (files.set n (hs, stopped')) k h ↔ Holds files k h := by
  obtain ⟨inside, here⟩ := List.getElem?_eq_some_iff.1 file
  unfold Holds
  rw [List.getElem?_set]
  by_cases same : n = k
  · subst same
    simp [inside, here]
  · simp [same]

theorem mem_entries_subscribe {r : Registry Listener} {topic other : Topic} {callback : Listener}
    {entry : Entry Listener} (mem : entry ∈ (r.subscribe topic callback).2.entries other) :
    entry ∈ r.entries other ∨ (other = topic ∧ entry = ⟨r.nextId, callback⟩) := by
  rw [entries_subscribe] at mem
  split at mem
  · rename_i same
    rcases List.mem_append.1 mem with old | new
    · exact .inl (same ▸ old)
    · exact .inr ⟨same, List.mem_singleton.1 new⟩
  · exact .inl mem

namespace Filed

variable {r r' : Registry Listener} {files : List (List Handle × Bool)}

theorem empty : (empty : Registry Listener).Filed [] where
  listed := by rintro ⟨⟩ entry h <;> cases h
  own := by rintro ⟨⟩ entry h <;> cases h
  issued := by simp [Holds]
  topics := by simp [Holds]
  ended := by simp

/-- Registrations are only ended. -/
theorem of_fewer (h : r.Filed files) (next : r'.nextId = r.nextId)
    (active : ∀ id, r'.isActive id = true → r.isActive id = true)
    (fewer : ∀ topic, ∀ entry ∈ r'.entries topic, entry ∈ r.entries topic) : r'.Filed files where
  listed := fun topic entry mem => h.listed topic entry (fewer topic entry mem)
  own := fun topic entry mem => h.own topic entry (fewer topic entry mem)
  issued := fun n handle held => next ▸ h.issued n handle held
  topics := h.topics
  ended := by
    intro n hs file handle mem
    by_contra going
    have before := active handle.id (by simpa using going)
    rw [h.ended n hs file handle mem] at before
    cases before

theorem unsubscribe (h : r.Filed files) (handle : Handle) : (r.unsubscribe handle).Filed files := by
  refine h.of_fewer (r.nextId_unsubscribe handle) (fun id going => ?_) fun topic entry mem => ?_
  · rw [isActive_unsubscribe] at going
    exact (Bool.and_eq_true _ _ ▸ going).1
  · rw [entries_unsubscribe] at mem
    split at mem
    · exact (List.mem_filter.1 mem).1
    · exact mem

theorem clear (h : r.Filed files) : r.clear.Filed files := by
  refine h.of_fewer rfl (fun id going => ?_) fun topic entry mem => ?_
  · rw [isActive_clear] at going
    exact (Bool.and_eq_true _ _ ▸ going).1
  · rw [entries_clear] at mem
    cases mem

/-- Someone else registers. -/
theorem subscribe (h : r.Filed files) (topic : Topic) {callback : Listener}
    (other : ∀ n, callback ≠ .engine n) : (r.subscribe topic callback).2.Filed files := by
  constructor
  · intro topic' entry mem n calls
    rcases mem_entries_subscribe mem with old | ⟨-, rfl⟩
    · exact h.listed topic' entry old n calls
    · exact absurd calls (other n)
  · intro topic' entry mem n handle held same
    rcases mem_entries_subscribe mem with old | ⟨-, rfl⟩
    · exact h.own topic' entry old n handle held same
    · exact absurd same (Nat.ne_of_lt (h.issued n handle held))
  · intro n handle held
    rw [nextId_subscribe]
    exact Nat.lt_succ_of_lt (h.issued n handle held)
  · exact h.topics
  · intro n hs file handle mem
    have old := h.issued n handle ⟨_, file, mem⟩
    rw [isActive_subscribe, h.ended n hs file handle mem]
    simpa using Nat.ne_of_lt old

/-- There is one more engine, without a handle. -/
theorem enter (h : r.Filed files) : r.Filed (files ++ [([], false)]) := by
  have holds : ∀ n handle, Holds (files ++ [([], false)]) n handle ↔ Holds files n handle := by
    intro n handle
    rw [holds_concat]
    simp
  constructor
  · exact fun topic entry mem n calls => (holds n _).2 (h.listed topic entry mem n calls)
  · exact fun topic entry mem n handle held => h.own topic entry mem n handle ((holds n _).1 held)
  · exact fun n handle held => h.issued n handle ((holds n _).1 held)
  · exact fun n handle held => h.topics n handle ((holds n _).1 held)
  · exact fun n hs found => h.ended n hs (getElem?_of_concat_stopped found)

/-- The last engine registers. -/
theorem enrol {hs : List Handle} (h : r.Filed (files ++ [(hs, false)])) (sound : r.Sound)
    {topic : Topic} (about : topic = .events usageEvents ∨ topic = .states) :
    (r.subscribe topic (.engine files.length)).2.Filed
      (files ++ [(hs ++ [⟨r.nextId, topic⟩], false)]) := by
  have holds : ∀ n handle, Holds (files ++ [(hs ++ [⟨r.nextId, topic⟩], false)]) n handle ↔
      Holds (files ++ [(hs, false)]) n handle ∨
        (n = files.length ∧ handle = ⟨r.nextId, topic⟩) := by
    intro n handle
    rw [holds_concat, holds_concat]
    simp [and_or_left, or_assoc]
  constructor
  · intro topic' entry mem n calls
    rw [holds]
    rcases mem_entries_subscribe mem with old | ⟨rfl, rfl⟩
    · exact .inl (h.listed topic' entry old n calls)
    · exact .inr ⟨(Listener.engine.inj calls).symm, rfl⟩
  · -- What is new, the entry or the handle, differs in its number from what is old.
    intro topic' entry mem n handle held same
    rcases mem_entries_subscribe mem with old | ⟨-, rfl⟩ <;>
      rcases (holds n handle).1 held with before | ⟨last, rfl⟩
    · exact h.own topic' entry old n handle before same
    · exact absurd same.symm (Nat.ne_of_lt (sound.listed topic' entry old))
    · exact absurd same (Nat.ne_of_lt (h.issued n handle before))
    · rw [last]
  · intro n handle held
    rw [nextId_subscribe]
    rcases (holds n handle).1 held with before | ⟨-, rfl⟩
    · exact Nat.lt_succ_of_lt (h.issued n handle before)
    · exact Nat.lt_succ_self _
  · intro n handle held
    rcases (holds n handle).1 held with before | ⟨-, rfl⟩
    · exact h.topics n handle before
    · exact about
  · intro n hs' found handle mem
    have file := getElem?_of_concat_stopped found
    have before : (files ++ [(hs, false)])[n]? = some (hs', true) := by
      rw [List.getElem?_append_left (List.getElem?_eq_some_iff.1 file).1, file]
    have old := h.issued n handle ⟨_, before, mem⟩
    rw [isActive_subscribe, h.ended n hs' before handle mem]
    simpa using Nat.ne_of_lt old

/-- **An engine is started**: it registers twice. -/
theorem start (h : r.Filed files) (sound : r.Sound) :
    ((r.subscribe (.events usageEvents) (.engine files.length)).2.subscribe .states
        (.engine files.length)).2.Filed
      (files ++ [([⟨r.nextId, .events usageEvents⟩, ⟨r.nextId + 1, .states⟩], false)]) := by
  have first := h.enter.enrol sound (.inl rfl)
  have second := first.enrol (sound.subscribe _ _) (.inr rfl)
  rwa [nextId_subscribe] at second

/-- An engine is torn down: its registrations are ended. -/
theorem stop (h : r.Filed files) {n : Nat} {hs : List Handle}
    (file : files[n]? = some (hs, false)) :
    (hs.foldl Registry.unsubscribe r).Filed (files.set n (hs, true)) := by
  have ended : (hs.foldl Registry.unsubscribe r).Filed files := by
    clear file
    induction hs generalizing r with
    | nil => exact h
    | cons handle hs ih => exact ih (h.unsubscribe handle)
  have inside := (List.getElem?_eq_some_iff.1 file).1
  constructor
  · exact fun topic entry mem k calls =>
      (holds_set file).2 (ended.listed topic entry mem k calls)
  · exact fun topic entry mem k handle held =>
      ended.own topic entry mem k handle ((holds_set file).1 held)
  · exact fun k handle held => ended.issued k handle ((holds_set file).1 held)
  · exact fun k handle held => ended.topics k handle ((holds_set file).1 held)
  · -- Only this engine was stopped anew.
    intro k hs' found handle mem
    by_cases same : n = k
    · subst same
      rw [List.getElem?_set_self inside] at found
      cases found
      rw [isActive_unsubscribes]
      simpa using fun _ => ⟨handle, mem, rfl⟩
    · rw [List.getElem?_set_ne same] at found
      exact ended.ended k hs' found handle mem

end Filed

end Registry

/-! ## The files of a board -/

namespace Board

variable (b : Board)

/-- **The files of the engines**: the handles of each, and whether it was
stopped. -/
def files : List (List Handle × Bool) :=
  b.stations.map fun station => (station.handles, station.engine.stopped)

theorem files_eq {b' : Board} (same : b'.stations = b.stations) : b'.files = b.files := by
  rw [files, same, files]

theorem files_engineEvent (engine : Nat) {event : EngineEvent} (other : event ≠ .stop) :
    (b.engineEvent engine event).files = b.files := by
  unfold engineEvent
  cases found : b.stations[engine]? with
  | none => rfl
  | some station =>
    dsimp only
    rw [files_eq _ (frame_takeNotices _ engine _).1]
    obtain ⟨inside, rfl⟩ := List.getElem?_eq_some_iff.1 found
    show (b.stations.set engine _).map _ = _
    rw [List.map_set, Engine.stopped_handle _ other]
    show (b.stations.map _).set engine
        ((fun station => (station.handles, station.engine.stopped)) b.stations[engine]) = _
    rw [← List.map_set, List.set_getElem_self, files]

theorem files_hear (notice : ChannelNotice) (entry : Entry Listener) :
    (b.hear notice entry).files = b.files := by
  have hears := b.hears notice entry
  generalize b.hear notice entry = b' at hears ⊢
  cases hears with
  | handles _ told =>
    refine b.files_engineEvent _ ?_
    rintro rfl
    cases notice <;> cases told
  | notes => rfl

theorem length_files : b.files.length = b.stations.length :=
  List.length_map _

theorem files_startEngine (period : Period) (settings : EngineSettings) (cache : String) :
    (b.startEngine period settings cache).files
      = b.files ++ [([⟨b.registry.nextId, .events usageEvents⟩, ⟨b.registry.nextId + 1, .states⟩],
          false)] := by
  have running : (Engine.start period settings b.link.status.state (b.cache cache)
      b.cacheNow).engine.stopped = false :=
    congrArg Workings.stopped
      (b.launch period settings cache).workings_engine
  have second : (b.registry.subscribe (.events usageEvents)
      (Listener.engine b.stations.length)).2.nextId = b.registry.nextId + 1 :=
    b.registry.nextId_subscribe _ _
  rw [startEngine, files_eq _ (frame_takeNotices _ _ _).1]
  show (b.stations ++ [_]).map _ = _
  rw [List.map_append, List.map_singleton, running, files, ← second]
  rfl

theorem registry_startEngine (period : Period) (settings : EngineSettings) (cache : String) :
    (b.startEngine period settings cache).registry
      = ((b.registry.subscribe (.events usageEvents) (.engine b.files.length)).2.subscribe .states
          (.engine b.files.length)).2 := by
  rw [startEngine, registry_takeNotices, length_files]
  rfl

theorem registry_unsubscribes (handles : List Handle) :
    (handles.foldl unsubscribe b).registry = handles.foldl Registry.unsubscribe b.registry := by
  induction handles generalizing b with
  | nil => rfl
  | cons handle handles ih => exact ih (b.unsubscribe handle)

/-- **Tearing an engine down** ends its registrations, unless it was stopped
before. -/
theorem stopEngine_cases (engine : Nat) :
    (b.stopEngine engine = b ∧ ∀ handles, b.files[engine]? ≠ some (handles, false)) ∨
    ∃ handles, b.files[engine]? = some (handles, false) ∧
      (b.stopEngine engine).files = b.files.set engine (handles, true) ∧
      (b.stopEngine engine).registry = handles.foldl Registry.unsubscribe b.registry := by
  unfold stopEngine
  have file : b.files[engine]?
      = (b.stations[engine]?).map fun station => (station.handles, station.engine.stopped) :=
    List.getElem?_map ..
  rw [file]
  cases found : b.stations[engine]? with
  | none => exact .inl ⟨rfl, by simp⟩
  | some station =>
    dsimp only
    cases stopped : station.engine.stopped with
    | true => exact .inl ⟨rfl, by simp [stopped]⟩
    | false =>
      refine .inr ⟨station.handles, ?_, ?_, ?_⟩
      · rw [← stopped]
        rfl
      · rw [if_neg (by simp), files_eq _ (frame_unsubscribes _ _).1]
        unfold engineEvent
        rw [found]
        dsimp only
        rw [files_eq _ (frame_takeNotices _ engine _).1]
        show (b.stations.set engine _).map _ = _
        rw [List.map_set]
        rfl
      · rw [if_neg (by simp), registry_unsubscribes, registry_engineEvent]

theorem filed_stopWatcher {files : List (List Handle × Bool)} (h : b.registry.Filed files)
    (watcher : Nat) : (b.stopWatcher watcher).registry.Filed files := by
  unfold stopWatcher
  split
  · split
    · exact h.unsubscribe _
    · exact h
  · exact h

theorem filed_setEntity {files : List (List Handle × Bool)} (h : b.registry.Filed files)
    (watcher : Nat) (entity : String) : (b.setEntity watcher entity).registry.Filed files := by
  have stopped := b.filed_stopWatcher h watcher
  unfold setEntity
  dsimp only
  split
  · exact stopped
  · have other : ∀ n, Listener.watcher watcher entity ≠ .engine n := by simp
    exact stopped.subscribe (.events apiEvents) other

end Board

namespace Moment

variable {m m' : Moment}

/-- **The registrations fit the files**, and so do the listeners that are due. -/
structure Filed (m : Moment) : Prop where
  /-- The registrations. -/
  registry : m.board.registry.Filed m.board.files
  /-- A listener that is due and calls an engine has stood under a handle of it. -/
  due : ∀ turn ∈ m.due, ∀ n, turn.1.callback = .engine n →
    ∃ h, Registry.Holds m.board.files n h ∧ h.id = turn.1.id

namespace Filed

/-- No engine loses a handle, and nobody is due who was not in the lists. -/
theorem of_due (h : m.Filed) (registry : m'.board.registry.Filed m'.board.files)
    (holds : ∀ n h, Registry.Holds m.board.files n h → Registry.Holds m'.board.files n h)
    (due : ∀ turn ∈ m'.due, turn ∈ m.due ∨ ∃ topic, turn.1 ∈ m.board.registry.entries topic) :
    m'.Filed := by
  refine ⟨registry, fun turn mem n calls => ?_⟩
  rcases due turn mem with old | ⟨topic, listed⟩
  · obtain ⟨handle, held, same⟩ := h.due turn old n calls
    exact ⟨handle, holds n handle held, same⟩
  · exact ⟨_, holds n _ (h.registry.listed topic turn.1 listed n calls), rfl⟩

/-- Where the files stay, only the registry and the calls still to be made are asked for. -/
theorem of_files (h : m.Filed) (files : m'.board.files = m.board.files)
    (registry : m'.board.registry.Filed m.board.files)
    (due : ∀ turn ∈ m'.due, turn ∈ m.due ∨ ∃ topic, turn.1 ∈ m.board.registry.entries topic) :
    m'.Filed :=
  h.of_due (files ▸ registry) (fun _ _ held => files ▸ held) due

theorem deliver (h : m.Filed) : m.deliver.Filed := by
  obtain ⟨b, untold, due⟩ := m
  cases due with
  | cons turn due =>
    obtain ⟨entry, notice⟩ := turn
    simp only [Moment.deliver]
    split
    · refine h.of_files (b.files_hear notice entry) ?_ fun turn mem => ?_
      · rw [Board.registry_hear]
        exact h.registry
      · exact .inl (List.mem_cons_of_mem _ mem)
    · exact h.of_files rfl h.registry fun turn mem => .inl (List.mem_cons_of_mem _ mem)
  | nil =>
    have listed : ∀ (topic : Topic) (notice : ChannelNotice),
        ∀ turn ∈ (b.registry.entries topic).map fun entry => (entry, notice),
          turn ∈ ([] : List (Entry Listener × ChannelNotice)) ∨
            ∃ topic, turn.1 ∈ b.registry.entries topic := by
      intro topic notice turn mem
      obtain ⟨entry, listed, rfl⟩ := List.mem_map.1 mem
      exact .inr ⟨topic, listed⟩
    cases untold with
    | nil => exact h
    | cons notice untold =>
      cases notice with
      | meter change => exact h.of_files rfl h.registry fun turn mem => .inl mem
      | state state => exact h.of_files rfl h.registry (listed .states (.state state))
      | event event => exact h.of_files rfl h.registry (listed (.events event.type) (.event event))

/-- Handles are still filed when an engine has started: it comes with a file of its own. -/
theorem startEngine (h : m.Filed) (sound : m.board.registry.Sound) (period : Period)
    (settings : EngineSettings) (cache : String) :
    (m.step (.startEngine period settings cache)).Filed := by
  have files := m.board.files_startEngine period settings cache
  refine h.of_due ?_ (fun n handle held => ?_) fun turn mem => .inl mem
  · simp only [Moment.step]
    rw [files, Board.registry_startEngine]
    exact h.registry.start sound
  · simp only [Moment.step]
    rw [files, Registry.holds_concat]
    exact .inl held

/-- Handles are still filed when an engine is torn down: it keeps its file, with the handles
of what it has ended. -/
theorem stopEngine (h : m.Filed) (engine : Nat) : (m.step (.stopEngine engine)).Filed := by
  rcases m.board.stopEngine_cases engine with ⟨same, -⟩ | ⟨handles, file, files, registry⟩
  · simp only [Moment.step, same]
    exact h
  · refine h.of_due ?_ (fun n handle held => ?_) fun turn mem => .inl mem
    · simp only [Moment.step]
      rw [files, registry]
      exact h.registry.stop file
    · simp only [Moment.step]
      rw [files]
      exact (Registry.holds_set file).2 held

/-- **Every event keeps the fit.** -/
theorem step (h : m.Filed) (sound : m.board.registry.Sound) (e : BoardEvent) :
    (m.step e).Filed := by
  have engineEvent : ∀ engine event, event ≠ .stop →
      (⟨m.board.engineEvent engine event, m.untold, m.due⟩ : Moment).Filed := by
    intro engine event other
    refine h.of_files (m.board.files_engineEvent engine other) ?_ fun turn mem => .inl mem
    rw [Board.registry_engineEvent]
    exact h.registry
  have elsewhere : ∀ b : Board, b.stations = m.board.stations →
      b.registry.Filed m.board.files → (⟨b, m.untold, m.due⟩ : Moment).Filed := by
    intro b stations registry
    exact h.of_files (m.board.files_eq stations) registry fun turn mem => .inl mem
  cases e with
  | link event draw =>
    simp only [Moment.step]
    split
    · exact h.of_files rfl h.registry fun turn mem => .inl mem
    · exact h
  | tell => exact h.deliver
  | refresh engine => exact engineEvent engine _ (by simp)
  | pull engine generation => exact engineEvent engine _ (by simp)
  | landed engine generation result => exact engineEvent engine _ (by simp)
  | startEngine period settings cache => exact h.startEngine sound period settings cache
  | stopEngine engine => exact h.stopEngine engine
  | startWatcher entity =>
    have other : ∀ n, Listener.watcher m.board.watchers.length entity ≠ .engine n := by simp
    exact elsewhere _ rfl (h.registry.subscribe (.events apiEvents) other)
  | stopWatcher watcher =>
    exact elsewhere _ (m.board.frame_stopWatcher watcher).1
      (m.board.filed_stopWatcher h.registry watcher)
  | setEntity watcher entity =>
    exact elsewhere _ (m.board.frame_setEntity watcher entity).1
      (m.board.filed_setEntity h.registry watcher entity)
  | subscribe topic label =>
    refine elsewhere _ rfl (h.registry.subscribe topic fun n => ?_)
    cases topic <;> simp
  | unsubscribe handle => exact elsewhere _ rfl (h.registry.unsubscribe handle)
  | clear => exact elsewhere _ rfl h.registry.clear
  | useCache | wait => exact elsewhere _ rfl h.registry

theorem undergo (h : m.Filed) (sound : m.board.registry.Sound) (happening : Happening) :
    (m.undergo happening).Filed := by
  cases happening with
  | event e => exact h.step sound e
  | dispatch notice =>
    unfold Moment.undergo
    dsimp only
    split
    · rename_i topic _
      refine h.of_files rfl h.registry fun turn mem => ?_
      rcases List.mem_append.1 mem with new | old
      · obtain ⟨entry, listed, rfl⟩ := List.mem_map.1 new
        exact .inr ⟨topic, listed⟩
      · exact .inl old
    · exact h

end Filed

/-- **The registrations fit the files** in every run. -/
theorem filed_undergoes (policy : BackoffPolicy) (hs : List Happening) :
    ((initial policy).undergoes hs).Filed := by
  induction hs using List.reverseRecOn with
  | nil =>
    refine ⟨Registry.Filed.empty, fun turn mem => ?_⟩
    cases mem
  | append_singleton hs happening ih =>
    rw [undergoes_concat]
    exact ih.undergo (sound_undergoes policy hs) happening

end Moment

end Liveboard
