import Liveboard.Proofs.Board.Standstill
import Liveboard.Proofs.Board.Teardown
import Liveboard.Proofs.Board.Watchers
import Liveboard.Proofs.Registry.Delivery

/-!
# How an engine hears of the states

An engine that is started registers for the states under a handle that it keeps
to itself. As long as it is not torn down nobody else ends this registration:
who ends one by a handle ends what stands under it, and under the handles of
others, engines or watchers, the engine does not stand. The events by which
someone could end it all the same, by its handle or by ending all, are those
that `BoardEvent.revokes` picks out.

So a running engine hears of every state that is taken up after its start
(`Moment.heard_append_awaited`): what was told and not taken up yet, and all
that is told later, once and in order, but for what is still to be delivered.
The calls still to be made are part of what has to be kept along the way
(`Moment.Addressed`), since a delivery goes on with the list of its beginning.
-/

namespace Liveboard

/-- What an engine hears of the states. -/
def EngineEvent.state? : EngineEvent → Option ChannelState
  | .channel s => some s
  | _ => none

/-- Whether someone ends a registration by its number, or ends all of them. -/
def BoardEvent.revokes (id : Nat) : BoardEvent → Bool
  | .unsubscribe handle => handle.id == id
  | .clear => true
  | _ => false

namespace Board

/-- Who stops a watcher ends no registration of anybody else. -/
theorem isActive_stopWatcher {b : Board}
    (manned : b.registry.Manned b.handles) {topic : Topic} {entry : Entry Listener}
    (listed : entry ∈ b.registry.entries topic) (other : ∀ k, entry.callback.watches k = false)
    (active : b.registry.isActive entry.id = true) (watcher : Nat) :
    (b.stopWatcher watcher).registry.isActive entry.id = true := by
  unfold Board.stopWatcher
  split
  · rename_i w found
    split
    · rename_i handle held
      show (b.registry.unsubscribe handle).isActive entry.id = true
      rw [Registry.isActive_unsubscribe, active, Bool.true_and, bne_iff_ne]
      intro same
      have file : b.handles[watcher]? = some (some handle) := by
        rw [Board.handles, List.getElem?_map, found, Option.map_some, held]
      have own := manned.own watcher handle file topic entry listed same
      rw [other watcher] at own
      cases own
    · exact active
  · exact active

/-- A new engine is registered for the states with the second number that is handed
out. -/
theorem registered_startEngine (b : Board) (period : Period) (settings : EngineSettings)
    (cache : String) :
    ⟨b.registry.nextId + 1, .engine b.stations.length⟩ ∈
        (b.startEngine period settings cache).registry.entries .states ∧
      (b.startEngine period settings cache).registry.isActive (b.registry.nextId + 1) = true := by
  have next := b.registry.nextId_subscribe (.events usageEvents) (Listener.engine b.files.length)
  rw [registry_startEngine]
  constructor
  · rw [Registry.entries_subscribe, if_pos rfl, next, length_files]
    exact List.mem_append_right _ List.mem_cons_self
  · rw [Registry.isActive_subscribe, next, beq_self_eq_true, Bool.true_or]

end Board

namespace Moment

variable {m : Moment} {n : Nat}

/-! ## The handles of an engine -/

/-- The files are as before, unless an engine starts or is torn down. -/
theorem files_step {e : BoardEvent}
    (starts : ∀ period settings cache, e ≠ .startEngine period settings cache)
    (stops : ∀ engine, e ≠ .stopEngine engine) : (m.step e).board.files = m.board.files := by
  cases e with
  | startEngine period settings cache => exact absurd rfl (starts period settings cache)
  | stopEngine engine => exact absurd rfl (stops engine)
  | link event draw =>
    simp only [step]
    split <;> rfl
  | tell =>
    simp only [step]
    unfold deliver
    split
    · split
      · exact m.board.files_hear _ _
      · rfl
    all_goals rfl
  | refresh engine | pull engine | landed engine => exact m.board.files_engineEvent _ (by simp)
  | stopWatcher watcher => exact m.board.files_eq (m.board.frame_stopWatcher watcher).1
  | setEntity watcher entity => exact m.board.files_eq (m.board.frame_setEntity watcher entity).1
  | startWatcher | subscribe | unsubscribe | clear | useCache | wait => rfl

/-- **An engine keeps its handles**, and gets them when it is started. -/
theorem holds_step (m : Moment) (e : BoardEvent) (n : Nat) (handle : Handle) :
    Registry.Holds (m.step e).board.files n handle ↔
      Registry.Holds m.board.files n handle ∨
        ∃ period settings cache, e = .startEngine period settings cache ∧
          n = m.board.files.length ∧
          (handle = ⟨m.board.registry.nextId, .events usageEvents⟩ ∨
            handle = ⟨m.board.registry.nextId + 1, .states⟩) := by
  cases e with
  | startEngine period settings cache =>
    simp only [step]
    rw [Board.files_startEngine, Registry.holds_concat]
    simp
  | stopEngine engine =>
    rcases m.board.stopEngine_cases engine with ⟨still, -⟩ | ⟨handles, file, files, -⟩
    · simp [step, still]
    · simp only [step]
      rw [files, Registry.holds_set file]
      simp
  | _ =>
    rw [files_step (by simp) (by simp)]
    simp

/-- The handles of an engine that was started before. -/
theorem holds_step_of_lt {e : BoardEvent} (old : n < m.board.files.length) (handle : Handle) :
    Registry.Holds (m.step e).board.files n handle ↔ Registry.Holds m.board.files n handle := by
  rw [holds_step, or_iff_left]
  rintro ⟨-, -, -, -, new, -⟩
  omega

/-! ## Calls still to be made -/

/-- **The calls still to be made fit the files.** -/
structure Addressed (m : Moment) : Prop where
  /-- Those who are called were registered. -/
  issued : ∀ turn ∈ m.due, turn.1.id < m.board.registry.nextId
  /-- Who calls an engine has stood under a handle of it, for what is told. -/
  listed : ∀ turn ∈ m.due, ∀ n, turn.1.callback = .engine n →
    ∃ topic, turn.2.topic? = some topic ∧ Registry.Holds m.board.files n ⟨turn.1.id, topic⟩
  /-- Who has stood under a handle of an engine calls it. -/
  own : ∀ turn ∈ m.due, ∀ (n : Nat) (handle : Handle), Registry.Holds m.board.files n handle →
    handle.id = turn.1.id → turn.1.callback = .engine n

/-- What is to be delivered was so before, or has just been taken up. -/
theorem due_step (m : Moment) (e : BoardEvent) :
    ∀ turn ∈ (m.step e).due, turn ∈ m.due ∨
      ∃ topic, turn.2.topic? = some topic ∧ turn.1 ∈ m.board.registry.entries topic := by
  intro turn mem
  cases e with
  | link event draw =>
    simp only [step] at mem
    split at mem <;> exact .inl mem
  | tell =>
    obtain ⟨b, untold, due⟩ := m
    cases due with
    | cons first due =>
      have rest : (step ⟨b, untold, first :: due⟩ .tell).due = due := by
        simp only [step, deliver]
        split <;> rfl
      rw [rest] at mem
      exact .inl (List.mem_cons_of_mem _ mem)
    | nil =>
      cases untold with
      | nil => exact .inl mem
      | cons notice untold =>
        cases notice with
        | meter change => exact .inl mem
        | state state =>
          obtain ⟨entry, listed, rfl⟩ := List.mem_map.1 mem
          exact .inr ⟨.states, rfl, listed⟩
        | event event =>
          obtain ⟨entry, listed, rfl⟩ := List.mem_map.1 mem
          exact .inr ⟨.events event.type, rfl, listed⟩
  | _ => exact .inl mem

theorem Addressed.step (h : m.Addressed) (filed : m.Filed) (sound : m.board.registry.Sound)
    (e : BoardEvent) : (m.step e).Addressed := by
  have next := (m.changes_step e).nextId_le
  have kept : ∀ n handle, Registry.Holds m.board.files n handle →
      Registry.Holds (m.step e).board.files n handle :=
    fun n handle held => (m.holds_step e n handle).2 (.inl held)
  -- Handles that are new have larger numbers than all entries so far.
  have old : ∀ n handle, Registry.Holds (m.step e).board.files n handle →
      handle.id < m.board.registry.nextId → Registry.Holds m.board.files n handle := by
    intro n handle held before
    rcases (m.holds_step e n handle).1 held with held | ⟨-, -, -, -, -, rfl | rfl⟩
    · exact held
    · exact absurd before (lt_irrefl _)
    · exact absurd before (by simp)
  constructor
  · intro turn mem
    rcases m.due_step e turn mem with due | ⟨topic, -, listed⟩
    · exact (h.issued turn due).trans_le next
    · exact (sound.listed topic turn.1 listed).trans_le next
  · intro turn mem n calls
    rcases m.due_step e turn mem with due | ⟨topic, about, listed⟩
    · obtain ⟨topic, about, held⟩ := h.listed turn due n calls
      exact ⟨topic, about, kept n _ held⟩
    · exact ⟨topic, about, kept n _ (filed.registry.listed topic turn.1 listed n calls)⟩
  · intro turn mem n handle held same
    rcases m.due_step e turn mem with due | ⟨topic, -, listed⟩
    · exact h.own turn due n handle (old n handle held (same ▸ h.issued turn due)) same
    · exact filed.registry.own topic turn.1 listed n handle
        (old n handle held (same ▸ sound.listed topic turn.1 listed)) same

theorem filed_run (policy : BackoffPolicy) (es : List BoardEvent) :
    ((initial policy).run es).Filed := by
  rw [← undergoes_events]
  exact filed_undergoes policy _

/-- **The calls still to be made fit the files**, in every run. -/
theorem addressed_run (policy : BackoffPolicy) (es : List BoardEvent) :
    ((initial policy).run es).Addressed := by
  induction es using List.reverseRecOn with
  | nil => constructor <;> intro turn mem <;> cases mem
  | append_singleton es e ih =>
    rw [run_concat]
    exact ih.step (filed_run policy es) (sound_run policy es) e

/-! ## A running engine stays registered -/

/-- **A running engine stays registered** unless someone ends its registration by the
handle, or ends all. -/
theorem isActive_step_of_running (filed : m.Filed)
    (manned : m.board.registry.Manned m.board.handles)
    (reached : Registry.empty.Changes m.board.registry) {handle : Handle}
    (held : Registry.Holds m.board.files n handle)
    (active : m.board.registry.isActive handle.id = true) {e : BoardEvent}
    (kept : e.revokes handle.id = false) {new : Engine}
    (known : (m.step e).board.engine? n = some new) (running : new.stopped = false) :
    (m.step e).board.registry.isActive handle.id = true := by
  obtain ⟨topic, entry, listed, same⟩ := Registry.isListed_of_isActive reached active
  have calls := filed.registry.own topic entry listed n handle held same.symm
  have other : ∀ k, entry.callback.watches k = false := fun k => by rw [calls]; rfl
  rw [← same] at active kept ⊢
  cases e with
  | stopEngine engine =>
    rcases m.board.stopEngine_cases engine with ⟨still, -⟩ | ⟨handles, file, files, registry⟩
    · simp only [step, still]
      exact active
    · simp only [step]
      rw [registry, Registry.isActive_unsubscribes, active, Bool.true_and, List.all_eq_true]
      intro handle' mem
      rw [decide_eq_true_iff]
      intro same'
      -- It would be a handle of this engine, which runs.
      have own := filed.registry.own topic entry listed engine handle' ⟨_, file, mem⟩ same'.symm
      obtain rfl : n = engine := Listener.engine.inj (calls.symm.trans own)
      obtain ⟨handles', after⟩ := (m.step (.stopEngine n)).board.files_of_engine? known
      simp only [step] at after
      rw [files, List.getElem?_set_self (List.getElem?_eq_some_iff.1 file).1, running] at after
      cases after
  | stopWatcher watcher => exact Board.isActive_stopWatcher manned listed other active watcher
  | setEntity watcher entity =>
    have stays := Board.isActive_stopWatcher manned listed other active watcher
    simp only [step, Board.setEntity]
    split
    · exact stays
    · show ((m.board.stopWatcher watcher).registry.subscribe (.events apiEvents)
        (Listener.watcher watcher entity)).2.isActive entry.id = true
      rw [Registry.isActive_subscribe, stays, Bool.or_true]
  | unsubscribe handle' =>
    have differ : handle'.id ≠ entry.id := by simpa [BoardEvent.revokes] using kept
    show (m.board.registry.unsubscribe handle').isActive entry.id = true
    rw [Registry.isActive_unsubscribe, active, Bool.true_and, bne_iff_ne]
    exact differ.symm
  | clear => cases kept
  | _ => exact isActive_step active rfl

theorem reached_run (policy : BackoffPolicy) (es : List BoardEvent) :
    Registry.empty.Changes ((initial policy).run es).board.registry :=
  (initial policy).changes_run es

theorem manned_run (policy : BackoffPolicy) (es : List BoardEvent) :
    ((initial policy).run es).board.registry.Manned ((initial policy).run es).board.handles := by
  rw [← undergoes_events]
  exact manned_undergoes policy _

/-- An engine that runs in the end has run all along. -/
theorem running_of_run {es : List BoardEvent} {old new : Engine}
    (before : m.board.engine? n = some old) (known : (m.run es).board.engine? n = some new)
    (running : new.stopped = false) : old.stopped = false := by
  have after := engine?_run before es
  rw [known] at after
  obtain rfl := Option.some.inj after
  exact Engine.running_of_run running

/-! ## The registration of an engine for the states -/

variable {id : Nat}

/-- **An engine listens** under a number: it has one handle for the states, and this is
the number of the handle. -/
def Listens (n id : Nat) (m : Moment) : Prop :=
  ∀ handle : Handle, handle.topic = .states →
    (Registry.Holds m.board.files n handle ↔ handle.id = id)

/-- The engine keeps its handle. -/
theorem Listens.step (h : m.Listens n id) (e : BoardEvent) : (m.step e).Listens n id := by
  obtain ⟨file, found, -⟩ := (h ⟨id, .states⟩ rfl).2 rfl
  intro handle states
  rw [holds_step_of_lt (List.getElem?_eq_some_iff.1 found).1]
  exact h handle states

/-- A new engine listens under the second number that it is handed out. -/
theorem listens_startEngine (m : Moment) (period : Period) (settings : EngineSettings)
    (cache : String) :
    (m.step (.startEngine period settings cache)).Listens m.board.stations.length
      (m.board.registry.nextId + 1) := by
  intro handle states
  have new : ¬ Registry.Holds m.board.files m.board.stations.length handle := by
    rintro ⟨file, found, -⟩
    have within := (List.getElem?_eq_some_iff.1 found).1
    rw [m.board.length_files] at within
    exact lt_irrefl _ within
  rw [holds_step, or_iff_right new]
  constructor
  · rintro ⟨-, -, -, -, -, rfl | rfl⟩
    · cases states
    · rfl
  · intro same
    obtain ⟨number, topic⟩ := handle
    obtain rfl : topic = .states := states
    obtain rfl : number = m.board.registry.nextId + 1 := same
    exact ⟨period, settings, cache, rfl, m.board.length_files.symm, .inr rfl⟩

/-- **A running engine goes on listening** unless someone ends its registration by the
handle, or ends all. -/
theorem isActive_run_of_running (policy : BackoffPolicy) {pre es : List BoardEvent}
    (listens : ((initial policy).run pre).Listens n id)
    (active : ((initial policy).run pre).board.registry.isActive id = true)
    (kept : ∀ e ∈ es, e.revokes id = false) {old new : Engine}
    (before : ((initial policy).run pre).board.engine? n = some old)
    (known : ((initial policy).run (pre ++ es)).board.engine? n = some new)
    (running : new.stopped = false) :
    ((initial policy).run (pre ++ es)).board.registry.isActive id = true := by
  induction es generalizing pre old with
  | nil => rwa [List.append_nil]
  | cons e es ih =>
    rw [List.append_cons] at known ⊢
    have next := engine?_run before [e]
    rw [← run_append] at next
    have up := running_of_run next (run_append _ _ es ▸ known) running
    refine ih ?_ ?_ (fun e' mem => kept e' (List.mem_cons_of_mem e mem)) next known
    · rw [run_concat]
      exact listens.step e
    · rw [run_concat] at next ⊢
      exact isActive_step_of_running (filed_run policy pre) (manned_run policy pre)
        (reached_run policy pre) ((listens ⟨id, .states⟩ rfl).2 rfl) active
        (kept e List.mem_cons_self) next up

/-! ## What a running engine hears -/

/-- **An engine hears of the states what its registration for them is called with.** -/
theorem state?_heard? (addressed : m.Addressed) (listens : m.Listens n id) (e : BoardEvent) :
    (m.heard? n e).bind EngineEvent.state? = (m.called? id e).bind ChannelNotice.state? := by
  cases e with
  | tell =>
    obtain ⟨b, untold, due⟩ := m
    cases due with
    | nil => rfl
    | cons turn due =>
      obtain ⟨entry, notice⟩ := turn
      simp only [heard?, called?]
      cases notice with
      | meter | event => split <;> split <;> rfl
      | state state =>
        have own : entry.callback = .engine n ↔ entry.id = id := by
          constructor
          · intro calls
            obtain ⟨topic, about, held⟩ := addressed.listed _ List.mem_cons_self n calls
            obtain rfl : Topic.states = topic := Option.some.inj about
            exact (listens _ rfl).1 held
          · intro same
            exact addressed.own _ List.mem_cons_self n ⟨id, .states⟩ ((listens _ rfl).2 rfl)
              same.symm
        have called : (b.registry.isActive entry.id = true ∧ entry.callback = .engine n) ↔
            (entry.id = id ∧ b.registry.isActive id = true) := by
          rw [own]
          constructor
          · rintro ⟨active, rfl⟩
            exact ⟨rfl, active⟩
          · rintro ⟨rfl, active⟩
            exact ⟨active, rfl⟩
        by_cases here : entry.id = id ∧ b.registry.isActive id = true
        · rw [if_pos here, if_pos (called.2 here)]
          rfl
        · rw [if_neg here, if_neg (mt called.1 here)]
          rfl
  | refresh | pull | landed | stopEngine => simp only [heard?, called?]; split <;> rfl
  | _ => rfl

theorem filterMap_toList {α β : Type} (f : α → Option β) (o : Option α) :
    o.toList.filterMap f = (o.bind f).toList := by
  cases o with
  | none => rfl
  | some a => cases here : f a <;> simp [here]

/-- Through all of a run an engine that listens is told the states that its registration
is called with. -/
theorem states_feed (policy : BackoffPolicy) {pre : List BoardEvent}
    (listens : ((initial policy).run pre).Listens n id) (es : List BoardEvent) :
    (((initial policy).run pre).feed n es).filterMap (·.event.state?)
      = (((initial policy).run pre).calls id es).filterMap ChannelNotice.state? := by
  induction es generalizing pre with
  | nil => rfl
  | cons e es ih =>
    have here := state?_heard? (addressed_run policy pre) listens e
    have next : ((initial policy).run (pre ++ [e])).Listens n id := by
      rw [run_concat]
      exact listens.step e
    have rest := ih next
    rw [run_concat] at rest
    have first : (((initial policy).run pre).occasion? n e).toList.filterMap (·.event.state?)
        = (((initial policy).run pre).called? id e).toList.filterMap ChannelNotice.state? := by
      rw [filterMap_toList, filterMap_toList, ← here, occasion?, Option.bind_map]
      rfl
    rw [feed, calls, List.filterMap_append, List.filterMap_append, first, rest]

/-- **What a running engine hears of the states.** As long as it is not torn down, and
nobody ends its registration by the handle or ends all, it hears of all states that
were still to be delivered to it at first, and of every state that is told from then
on, once and in order, but for those that are still to be delivered in the end. -/
theorem heard_append_awaited (policy : BackoffPolicy) {pre post : List BoardEvent}
    (listens : ((initial policy).run pre).Listens n id)
    (listed : ⟨id, .engine n⟩ ∈ ((initial policy).run pre).board.registry.entries .states)
    (active : ((initial policy).run pre).board.registry.isActive id = true)
    {waiting : List ChannelState}
    (awaited : ((initial policy).run pre).awaited .states id = waiting.map .state)
    (kept : ∀ e ∈ post, e.revokes id = false) {old new : Engine}
    (before : ((initial policy).run pre).board.engine? n = some old)
    (known : ((initial policy).run (pre ++ post)).board.engine? n = some new)
    (running : new.stopped = false) :
    ∃ later : List ChannelState,
      ((initial policy).run (pre ++ post)).awaited .states id = later.map .state ∧
      waiting ++ (((initial policy).run pre).told post).filterMap ChannelNotice.state?
        = (((initial policy).run pre).feed n post).filterMap (·.event.state?) ++ later := by
  have last := isActive_run_of_running policy listens active kept before known running
  have calls := calls_append_awaited (sound_run policy pre) listed (run_append _ _ post ▸ last)
  rw [awaited, ChannelNotice.filter_states, ← List.map_append, ← run_append] at calls
  obtain ⟨heard, later, split, called, rest⟩ := List.map_eq_append_iff.1 calls.symm
  have states : (heard.map ChannelNotice.state).filterMap ChannelNotice.state? = heard := by
    rw [List.filterMap_map]
    exact List.filterMap_some
  refine ⟨later, rest.symm, ?_⟩
  rw [split, states_feed policy listens, ← called, states]

/-- To a new engine what was told and not taken up yet is still to be delivered. -/
theorem Addressed.awaited_startEngine (h : m.Addressed) (period : Period)
    (settings : EngineSettings) (cache : String) :
    (m.step (.startEngine period settings cache)).awaited .states (m.board.registry.nextId + 1)
      = (m.untold.filterMap ChannelNotice.state?).map .state := by
  have due : m.due.filter (·.1.id = m.board.registry.nextId + 1) = [] := by
    rw [List.filter_eq_nil_iff]
    intro turn mem same
    have old := h.issued turn mem
    rw [of_decide_eq_true same] at old
    omega
  show (m.due.filter _).map _ ++ m.untold.filter _ = _
  rw [due, ChannelNotice.filter_states]
  rfl

end Moment

end Liveboard
