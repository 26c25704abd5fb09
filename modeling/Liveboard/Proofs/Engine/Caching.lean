import Liveboard.Proofs.Engine.Loops
import Liveboard.Proofs.Registry.Registrations

/-!
# What an engine does to the cache

An engine touches the cache that it shares on two occasions only. When a
generation is begun the cached snapshot of its period is forgotten, and when a
pull of the current generation brings a snapshot it is stored, under the period
of the snapshot. What a superseded pull brings is never stored. So the cache
that an occasion leaves can be told from the deed that comes about on it
(`Engine.cache_handle`), and statements about caches are statements about deeds.

A pull of the current generation that is under way was begun in that generation
and has not landed since, so when it lands it brings what was requested then
(`Workings.pulling_of_step`).
-/

namespace Liveboard

/-! ## Looking up -/

namespace SnapshotCache

/-- A period that is forgotten has no snapshot, and the others keep theirs. -/
theorem lookup_invalidate (c : SnapshotCache) (period other : Period) :
    (c.invalidate period).entries.lookup other
      = if other = period then none else c.entries.lookup other :=
  Registry.lookup_filter_ne c.entries period other

/-- A snapshot is stored for its period, and the other periods keep theirs. -/
theorem lookup_store (c : SnapshotCache) (snapshot : Snapshot) (now : Nat) (other : Period) :
    (c.store snapshot now).entries.lookup other
      = if other = snapshot.period then some (snapshot, now) else c.entries.lookup other := by
  rw [store, Registry.lookup_cons_eq_ite, lookup_invalidate]
  split <;> rfl

end SnapshotCache

/-! ## The cache after an occasion -/

/-- **What a deed does to the cache**, where the engine keeps the view of a
period. -/
def Deed.file (period : Period) (c : SnapshotCache) : Deed → SnapshotCache
  | .begun => c.invalidate period
  | .installed snapshot time => c.store snapshot time
  | .pulled _ | .failed _ | .delta _ _ | .lapsed => c

/-- What a deed leaves of a period was there before, or has just been brought. -/
theorem Deed.lookup_file {d : Deed} {c : SnapshotCache} {period other : Period}
    {cached : Snapshot × Nat} (h : (d.file other c).entries.lookup period = some cached) :
    c.entries.lookup period = some cached ∨
      d = .installed cached.1 cached.2 ∧ cached.1.period = period := by
  cases d with
  | begun =>
    rw [Deed.file, SnapshotCache.lookup_invalidate] at h
    split at h
    · cases h
    · exact .inl h
  | installed snapshot time =>
    rw [Deed.file, SnapshotCache.lookup_store] at h
    split at h
    · rename_i same
      cases h
      exact .inr ⟨rfl, same.symm⟩
    · exact .inl h
  | pulled | failed | delta | lapsed => exact .inl h

namespace Engine

/-- A generation that is begun forgets its period, and a stopped engine begins
none. -/
theorem cache_beginFetch (e : Engine) (cache : SnapshotCache) (now : Nat) :
    (e.beginFetch true cache now).cache
      = (if e.stopped then none else some Deed.begun).toList.foldl (Deed.file e.period) cache := by
  cases running : e.stopped with
  | false =>
    have same : e.nextGeneration.period = e.period :=
      congrArg Workings.period e.workings_nextGeneration
    rw [beginFetch, if_neg (by simp [running])]
    exact congrArg cache.invalidate same
  | true =>
    rw [beginFetch, if_pos running]
    rfl

/-- A new engine may be served from the cache, and leaves it as it is. -/
theorem cache_start (period : Period) (settings : EngineSettings) (s : ChannelState)
    (cache : SnapshotCache) (now : Nat) : (start period settings s cache now).cache = cache := by
  unfold start beginFetch
  rw [if_neg (by simp [idle]), if_neg (by simp)]
  dsimp only
  split <;> rfl

/-- A pull that is made leaves the cache as it is. -/
theorem cache_pull (e : Engine) (generation : Nat) (cache : SnapshotCache) (now : Nat) :
    (e.handle (.pull generation) cache now).cache
      = (e.workings.deed? ⟨.pull generation, cache, now⟩).toList.foldl (Deed.file e.period)
        cache := by
  have same : (e.handle (.pull generation) cache now).cache = cache := by
    unfold handle
    dsimp only
    split <;> rfl
  rw [same]
  cases hd : e.workings.deed? ⟨.pull generation, cache, now⟩ with
  | none => rfl
  | some d =>
    cases Workings.does_of_deed? hd with
    | pulled => rfl
    | begun _ event | lapsed event => cases event <;> contradiction
    | failed _ event | installed _ event | delta _ event => contradiction

/-- What a pull brings is stored if it is of the current generation. -/
theorem cache_landed (e : Engine) (generation : Nat) (result : Except FetchError Snapshot)
    (cache : SnapshotCache) (now : Nat) :
    (e.handle (.landed generation result) cache now).cache
      = (e.workings.deed? ⟨.landed generation result, cache, now⟩).toList.foldl
        (Deed.file e.period) cache := by
  by_cases pulling : e.stageOf? generation = some .pulling
  · simp only [handle, pulling, land, Workings.deed?, isCurrent_workings, stageOf?_workings]
    by_cases current : e.isCurrent generation = true
    · cases result <;> simp [current, Deed.file]
    · simp [current]
  · have none : e.workings.deed? ⟨.landed generation result, cache, now⟩ = none := by
      simp [Workings.deed?, pulling]
    rw [none]
    unfold handle
    dsimp only
    split
    · contradiction
    · rfl

/-- **The cache after an occasion** is what its deed makes of it. -/
theorem cache_handle (e : Engine) (o : Occasion) :
    (e.handle o.event o.cache o.now).cache
      = (e.workings.deed? o).toList.foldl (Deed.file e.period) o.cache := by
  obtain ⟨event, cache, now⟩ := o
  cases event with
  | delta event =>
    simp only [handle, Workings.deed?]
    split
    · rfl
    · cases event.usage? <;> rfl
  | channel s =>
    cases s with
    | connected => exact cache_beginFetch { e with liveUpdates := true } cache now
    | connecting | disconnected | error => rfl
  | refresh => exact e.cache_beginFetch cache now
  | pull generation => exact e.cache_pull generation cache now
  | landed generation result => exact e.cache_landed generation result cache now
  | stop => rfl

end Engine

/-! ## Pulls under way -/

/-- A new engine that shows a live view was served from the cache, and makes no
pull. -/
theorem Launch.seed_of_live {l : Launch} (live : l.engine.phase = .live) :
    ∃ snapshot, l.seed? = some snapshot ∧
      l.engine.published = .live (View.ofSnapshot snapshot l.now) ∧ l.engine.loops = [] := by
  have figures := l.figures_engine 0
  have loops := congrArg Workings.loops l.workings_engine
  have phase := congrArg Figures.phase figures
  rw [opening] at figures phase
  cases seed : l.seed? with
  | none =>
    rw [seed] at phase
    cases live.symm.trans phase
  | some snapshot =>
    rw [seed] at figures loops
    exact ⟨snapshot, rfl, congrArg Figures.published figures, loops⟩

/-- A new engine has made no pull. -/
theorem Launch.stageOf?_engine (l : Launch) (generation : Nat) :
    l.engine.stageOf? generation ≠ some .pulling := by
  rw [← Engine.stageOf?_workings, l.workings_engine]
  cases l.seed? with
  | some snapshot => simp [Workings.stageOf?]
  | none =>
    by_cases first : 1 = generation <;> simp [Workings.stageOf?, first]

/-- The loop of the current generation pulls when it is told to go on, unless it
does so already. -/
theorem Workings.exists_pulled {w : Workings} (running : w.stopped = false) {stage : FetchStage}
    (stands : w.stageOf? w.generation = some stage) (idle : stage ≠ .pulling)
    (cache : SnapshotCache) (now : Nat) :
    ∃ again, w.deed? ⟨.pull w.generation, cache, now⟩ = some (.pulled again) := by
  cases stage with
  | queued => exact ⟨false, by simp [deed?, isCurrent, running, stands]⟩
  | resting => exact ⟨true, by simp [deed?, isCurrent, running, stands]⟩
  | pulling => exact absurd rfl idle

/-- **A pull under way** was begun just now, or was under way before in the same
generation and has not landed. -/
theorem Workings.pulling_of_step {w : Workings} (ordered : w.Ordered) {o : Occasion}
    (running : (w.step o.event).stopped = false)
    (pulling : (w.step o.event).stageOf? (w.step o.event).generation = some .pulling) :
    (∃ again, w.deed? o = some (.pulled again)) ∨
    (w.stopped = false ∧ w.stageOf? w.generation = some .pulling ∧
      (w.step o.event).generation = w.generation ∧ w.deed? o ≠ some .begun ∧
      ∀ result, o.event ≠ .landed w.generation result) := by
  have before : w.stopped = false := running_of_step running
  have new : w.begin.stageOf? w.begin.generation = some .queued := stageOf?_begin ordered
  have none : (∀ s, o.event ≠ .channel s) → o.event ≠ .refresh → w.deed? o ≠ some .begun := by
    intro channel refresh begun
    cases does_of_deed? begun with
    | begun _ event => exact event.elim (channel .connected) refresh
  obtain ⟨event, cache, now⟩ := o
  cases event with
  | delta event => exact .inr ⟨before, pulling, rfl, none (by simp) (by simp), by simp⟩
  | channel s =>
    cases s with
    | connected =>
      -- The generation that is begun has made no pull yet.
      simp only [step, before, Bool.false_eq_true, if_false, new] at pulling
      cases pulling
    | connecting | disconnected | error =>
      exact .inr ⟨before, pulling, rfl, by simp [deed?], by simp⟩
  | refresh =>
    simp only [step, before, Bool.false_eq_true, if_false, new] at pulling
    cases pulling
  | pull generation =>
    have same := w.generation_pull generation
    rw [same, stageOf?_pull] at pulling
    by_cases earlier : w.stageOf? w.generation = some .pulling
    · exact .inr ⟨before, earlier, same, none (by simp) (by simp), by simp⟩
    · split at pulling
      · rename_i current
        subst current
        obtain ⟨stage, stands, -⟩ := Option.map_eq_some_iff.1 pulling
        exact .inl (exists_pulled before stands (fun same => earlier (same ▸ stands)) cache now)
      · exact absurd pulling earlier
  | landed generation result =>
    have same := w.generation_landed generation result
    rw [same, stageOf?_landed] at pulling
    split at pulling
    · -- The loop of a generation that has landed rests or has ended.
      split at pulling <;> cases pulling
    · rename_i other
      refine .inr ⟨before, pulling, same, none (by simp) (by simp), ?_⟩
      rintro result' ⟨⟩
      exact other ⟨rfl, pulling⟩
  | stop => cases running

end Liveboard
