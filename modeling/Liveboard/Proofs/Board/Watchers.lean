import Liveboard.Proofs.Board.Files

/-!
# Whose registrations the watchers are

A watcher hears of an event through its own registrations, and only through
them: who else is called leaves it as it is (`Board.watcher?_deliverTo`). Every
registration for a watcher is that of one that was started, so a new watcher,
which takes the next number, inherits none. And under the handle of a watcher
stands nobody else, so who stops it ends no other registration.

This is `Registry.Manned`. It speaks of the handles of the watchers alone, so
that what a watcher shows does not matter to it, and it is kept by everything
that can happen on the board (`Moment.manned_undergoes`).
-/

namespace Liveboard

/-! ## What a watcher hears -/

/-- Whether a registration is one of a watcher, by its number. -/
def Listener.watches (n : Nat) : Listener → Bool
  | .watcher k _ => k == n
  | .journal | .reader _ | .engine _ => false

namespace Board

variable {b : Board} {n : Nat}

theorem watchers_takeNotices (b : Board) (engine : Nat) (notices : List EngineNotice) :
    (notices.foldl (takeNotice engine) b).watchers = b.watchers := by
  induction notices generalizing b with
  | nil => rfl
  | cons notice notices ih =>
    rw [List.foldl_cons, ih]
    cases notice <;> rfl

@[simp] theorem watchers_engineEvent (b : Board) (engine : Nat) (event : EngineEvent) :
    (b.engineEvent engine event).watchers = b.watchers := by
  unfold engineEvent
  split
  · rfl
  · exact watchers_takeNotices _ engine _

/-- **What a watcher hears of an event** it hears under a registration of its own. -/
theorem watcher?_hearEvent (event : Event) (entry : Entry Listener) (b : Board) (n : Nat) :
    (hearEvent event entry b).watchers[n]?
      = match entry.callback with
        | .watcher k entity =>
          if k = n then (b.watchers[n]?).map fun w => (w.receive entity event).1
          else b.watchers[n]?
        | _ => b.watchers[n]? := by
  unfold hearEvent
  cases entry.callback with
  | journal => rfl
  | reader label => rfl
  | engine k => rw [watchers_engineEvent]
  | watcher k entity =>
    dsimp only
    cases found : b.watchers[k]? with
    | none =>
      by_cases same : k = n
      · subst same
        rw [if_pos rfl, found]
        rfl
      · rw [if_neg same]
    | some w =>
      have watchers : ∀ faulty change, (if faulty = true then
          ({ b with watchers := b.watchers.set k (w.receive entity event).1 } : Board).record change
          else { b with watchers := b.watchers.set k (w.receive entity event).1 }).watchers
            = b.watchers.set k (w.receive entity event).1 := by
        intro faulty change
        split <;> rfl
      obtain ⟨inside, here⟩ := List.getElem?_eq_some_iff.1 found
      dsimp only
      rw [watchers, List.getElem?_set]
      by_cases same : k = n
      · subst same
        simp [inside, here]
      · rw [if_neg same, if_neg same]

/-- Nobody who is called with an event changes the registrations. -/
theorem registry_deliverTo (event : Event) (es : List (Entry Listener)) (b : Board) :
    (Registry.deliverTo Board.registry (hearEvent event) es b).2.registry = b.registry := by
  induction es generalizing b with
  | nil => rfl
  | cons entry es ih =>
    rw [Registry.deliverTo]
    split
    · exact (ih _).trans (b.registry_hear (.event event) entry)
    · exact ih b

/-- A watcher stays as it is where none of its registrations is called. -/
theorem watcher?_deliverTo (event : Event) {es : List (Entry Listener)}
    (others : ∀ entry ∈ es, entry.callback.watches n = false) (b : Board) :
    (Registry.deliverTo Board.registry (hearEvent event) es b).2.watchers[n]?
      = b.watchers[n]? := by
  induction es generalizing b with
  | nil => rfl
  | cons entry es ih =>
    have rest := ih fun entry mem => others entry (List.mem_cons_of_mem _ mem)
    rw [Registry.deliverTo]
    split
    · refine (rest _).trans ?_
      have other := others entry List.mem_cons_self
      rw [watcher?_hearEvent]
      cases callback : entry.callback with
      | watcher k entity =>
        rw [callback] at other
        exact if_neg (by simpa [Listener.watches] using other)
      | journal | reader | engine => rfl
    · exact rest b

end Board

/-! ## Registrations and watchers -/

namespace Registry

/-- **The registrations fit the watchers**, given by their handles. -/
structure Manned (r : Registry Listener) (handles : List (Option Handle)) : Prop where
  /-- Who is registered for a watcher has the number of one that was started. -/
  started : ∀ topic, ∀ entry ∈ r.entries topic, ∀ k, entry.callback.watches k = true →
    k < handles.length
  /-- Who stands under the handle of a watcher is registered for it. -/
  own : ∀ (k : Nat) (handle : Handle), handles[k]? = some (some handle) →
    ∀ topic, ∀ entry ∈ r.entries topic, entry.id = handle.id → entry.callback.watches k = true
  /-- The handles were handed out. -/
  issued : ∀ (k : Nat) (handle : Handle), handles[k]? = some (some handle) → handle.id < r.nextId

namespace Manned

variable {r r' : Registry Listener} {hs hs' : List (Option Handle)}

theorem empty : (empty : Registry Listener).Manned [] where
  started := by rintro ⟨⟩ entry mem <;> cases mem
  own := by simp
  issued := by simp

/-- No watcher gets a handle, and nobody registers for one. -/
theorem of_fewer (h : r.Manned hs) (length : hs'.length = hs.length)
    (handles : ∀ (k : Nat) (handle : Handle), hs'[k]? = some (some handle) →
      hs[k]? = some (some handle))
    (next : r.nextId ≤ r'.nextId)
    (entries : ∀ topic, ∀ entry ∈ r'.entries topic, entry ∈ r.entries topic ∨
      (entry.id = r.nextId ∧ ∀ k, entry.callback.watches k = false)) : r'.Manned hs' := by
  constructor
  · intro topic entry mem k calls
    rcases entries topic entry mem with old | ⟨-, other⟩
    · exact length ▸ h.started topic entry old k calls
    · rw [other k] at calls
      cases calls
  · intro k handle held topic entry mem same
    have old := handles k handle held
    rcases entries topic entry mem with before | ⟨new, -⟩
    · exact h.own k handle old topic entry before same
    · exact absurd (same.symm.trans new) (Nat.ne_of_lt (h.issued k handle old))
  · exact fun k handle held => (h.issued k handle (handles k handle held)).trans_le next

theorem unsubscribe (h : r.Manned hs) (handle : Handle) : (r.unsubscribe handle).Manned hs := by
  refine h.of_fewer rfl (fun _ _ held => held) (r.nextId_unsubscribe handle).ge
    fun topic entry mem => .inl ?_
  rw [entries_unsubscribe] at mem
  split at mem
  · exact (List.mem_filter.1 mem).1
  · exact mem

theorem clear (h : r.Manned hs) : r.clear.Manned hs := by
  refine h.of_fewer rfl (fun _ _ held => held) le_rfl fun topic entry mem => ?_
  rw [entries_clear] at mem
  cases mem

/-- Someone else registers. -/
theorem subscribe (h : r.Manned hs) (topic : Topic) {callback : Listener}
    (other : ∀ k, callback.watches k = false) : (r.subscribe topic callback).2.Manned hs := by
  refine h.of_fewer rfl (fun _ _ held => held) ?_ fun topic' entry mem => ?_
  · rw [nextId_subscribe]
    exact Nat.le_succ _
  · rcases mem_entries_subscribe mem with old | ⟨-, rfl⟩
    · exact .inl old
    · exact .inr ⟨rfl, other⟩

/-- **A watcher registers** and keeps the handle. -/
theorem enrol (h : r.Manned hs) (sound : r.Sound) (topic : Topic) (entity : String) {n : Nat}
    (length : hs.length ≤ hs'.length) (inside : n < hs'.length)
    (handles : ∀ (k : Nat) (handle : Handle), hs'[k]? = some (some handle) →
      hs[k]? = some (some handle) ∨ (k = n ∧ handle.id = r.nextId)) :
    (r.subscribe topic (.watcher n entity)).2.Manned hs' := by
  constructor
  · intro topic' entry mem k calls
    rcases mem_entries_subscribe mem with old | ⟨-, rfl⟩
    · exact (h.started topic' entry old k calls).trans_le length
    · obtain rfl : n = k := by simpa [Listener.watches] using calls
      exact inside
  · -- What is new, the entry or the handle, differs in its number from what is old.
    intro k handle held topic' entry mem same
    rcases mem_entries_subscribe mem with old | ⟨-, rfl⟩ <;>
      rcases handles k handle held with before | ⟨rfl, new⟩
    · exact h.own k handle before topic' entry old same
    · exact absurd (same.trans new) (Nat.ne_of_lt (sound.listed topic' entry old))
    · exact absurd same.symm (Nat.ne_of_lt (h.issued k handle before))
    · simp [Listener.watches]
  · intro k handle held
    rw [nextId_subscribe]
    rcases handles k handle held with before | ⟨-, new⟩
    · exact Nat.lt_succ_of_lt (h.issued k handle before)
    · omega

end Manned

end Registry

namespace Board

variable {b : Board}

/-- The handles of the watchers. -/
def handles (b : Board) : List (Option Handle) :=
  b.watchers.map (·.handle)

/-- A watcher keeps its handle whatever it hears. -/
theorem handles_hear (b : Board) (notice : ChannelNotice) (entry : Entry Listener) :
    (b.hear notice entry).handles = b.handles := by
  cases notice with
  | meter change => rfl
  | state state =>
    simp only [hear, hearState]
    split
    · rfl
    · rw [handles, watchers_engineEvent, handles]
    · rfl
  | event event =>
    have kept : ∀ (w : Watcher) (entity : String),
        (w.receive entity event).1.handle = w.handle := by
      intro w entity
      unfold Watcher.receive
      split <;> rfl
    refine List.ext_getElem? fun n => ?_
    rw [handles, handles, List.getElem?_map, List.getElem?_map, hear, watcher?_hearEvent]
    split
    · split
      · cases b.watchers[n]? <;> simp [kept]
      · rfl
    · rfl

/-- Who changes no watcher keeps the fit by keeping the registrations to it. -/
theorem manned_of_watchers {b' : Board} (watchers : b'.watchers = b.watchers)
    (h : b'.registry.Manned b.handles) : b'.registry.Manned b'.handles := by
  rwa [handles, watchers]

theorem manned_engineEvent (h : b.registry.Manned b.handles) (engine : Nat) (event : EngineEvent) :
    (b.engineEvent engine event).registry.Manned (b.engineEvent engine event).handles := by
  refine manned_of_watchers (b.watchers_engineEvent engine event) ?_
  rw [registry_engineEvent]
  exact h

theorem manned_unsubscribes (h : b.registry.Manned b.handles) (ended : List Handle) :
    (ended.foldl unsubscribe b).registry.Manned (ended.foldl unsubscribe b).handles := by
  induction ended generalizing b with
  | nil => exact h
  | cons handle ended ih => exact ih (b := b.unsubscribe handle) (h.unsubscribe handle)

/-- An engine registers twice, and never for a watcher. -/
theorem manned_startEngine (h : b.registry.Manned b.handles) (period : Period)
    (settings : EngineSettings) (cache : String) :
    (b.startEngine period settings cache).registry.Manned
      (b.startEngine period settings cache).handles := by
  have other : ∀ k, (Listener.engine b.files.length).watches k = false := fun _ => rfl
  have watchers : (b.startEngine period settings cache).watchers = b.watchers := by
    rw [startEngine, watchers_takeNotices]
    rfl
  refine manned_of_watchers watchers ?_
  rw [registry_startEngine]
  exact (h.subscribe _ other).subscribe _ other

theorem manned_stopEngine (h : b.registry.Manned b.handles) (engine : Nat) :
    (b.stopEngine engine).registry.Manned (b.stopEngine engine).handles := by
  unfold stopEngine
  split
  · exact h
  · rename_i station _
    split
    · exact h
    · exact manned_unsubscribes (manned_engineEvent h engine .stop) station.handles

theorem manned_stopWatcher (h : b.registry.Manned b.handles) (watcher : Nat) :
    (b.stopWatcher watcher).registry.Manned (b.stopWatcher watcher).handles := by
  unfold stopWatcher
  split
  · split
    · refine (h.unsubscribe _).of_fewer (by simp [handles, Board.unsubscribe])
        (fun k handle held => ?_) le_rfl fun _ _ mem => .inl mem
      -- The handle of this watcher is gone, and the others are as before.
      simp only [handles, List.map_set, List.getElem?_set] at held
      split at held
      · split at held <;> cases held
      · exact held
    · exact h
  · exact h

theorem manned_setEntity (h : b.registry.Manned b.handles) (sound : b.registry.Sound)
    (watcher : Nat) (entity : String) :
    (b.setEntity watcher entity).registry.Manned (b.setEntity watcher entity).handles := by
  have stopped := b.manned_stopWatcher h watcher
  have sound' := (b.changes_stopWatcher watcher).sound sound
  unfold setEntity
  dsimp only
  split
  · exact stopped
  · rename_i w found
    have inside := (List.getElem?_eq_some_iff.1 found).1
    refine stopped.enrol sound' (.events apiEvents) entity (by simp [handles, subscribe])
      (n := watcher) (by simpa [handles, subscribe] using inside) fun k handle held => ?_
    simp only [handles, List.map_set, List.getElem?_set] at held
    split at held
    · rename_i same
      split at held
      · cases held
        exact .inr ⟨same.symm, rfl⟩
      · cases held
    · exact .inl held

theorem manned_startWatcher (h : b.registry.Manned b.handles) (sound : b.registry.Sound)
    (entity : String) :
    (b.startWatcher entity).registry.Manned (b.startWatcher entity).handles := by
  refine h.enrol sound (.events apiEvents) entity (by simp [handles, startWatcher, subscribe])
    (by simp [handles, startWatcher, subscribe]) fun k handle held => ?_
  simp only [handles, startWatcher, subscribe, List.map_append, List.map_cons, List.map_nil,
    List.getElem?_append, List.length_map, List.getElem?_singleton] at held
  split at held
  · exact .inl held
  · rename_i beyond
    split at held
    · cases held
      exact .inr ⟨by omega, rfl⟩
    · cases held

end Board

namespace Moment

variable {m : Moment}

/-- **The registrations fit the watchers** after an event where they did before. -/
theorem manned_step (h : m.board.registry.Manned m.board.handles) (sound : m.board.registry.Sound)
    (e : BoardEvent) : (m.step e).board.registry.Manned (m.step e).board.handles := by
  cases e with
  | link event draw =>
    simp only [step]
    split <;> exact h
  | tell =>
    simp only [step]
    unfold deliver
    split
    · split
      · rw [Board.handles_hear, Board.registry_hear]
        exact h
      · exact h
    all_goals exact h
  | refresh engine | pull engine | landed engine => exact Board.manned_engineEvent h engine _
  | startEngine period settings cache =>
    exact Board.manned_startEngine h period settings cache
  | stopEngine engine => exact Board.manned_stopEngine h engine
  | startWatcher entity => exact m.board.manned_startWatcher h sound entity
  | stopWatcher watcher => exact m.board.manned_stopWatcher h watcher
  | setEntity watcher entity => exact m.board.manned_setEntity h sound watcher entity
  | subscribe topic label =>
    refine h.subscribe topic fun k => ?_
    cases topic <;> rfl
  | unsubscribe handle => exact h.unsubscribe handle
  | clear => exact h.clear
  | useCache | wait => exact h

/-- **The registrations fit the watchers** in every run. -/
theorem manned_undergoes (policy : BackoffPolicy) (hs : List Happening) :
    ((initial policy).undergoes hs).board.registry.Manned
      ((initial policy).undergoes hs).board.handles := by
  induction hs using List.reverseRecOn with
  | nil => exact Registry.Manned.empty
  | append_singleton hs happening ih =>
    rw [undergoes_concat]
    cases happening with
    | event e => exact manned_step ih (sound_undergoes policy hs) e
    | dispatch notice =>
      rw [board_dispatch]
      exact ih

end Moment

end Liveboard
