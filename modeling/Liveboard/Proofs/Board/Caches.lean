import Liveboard.Proofs.Board.Teardown
import Liveboard.Proofs.Engine.Caching

/-!
# Where cached snapshots come from

An engine that is started may be spared its first pull, if the cache it shares
has a young snapshot of its period. When an engine begins a generation on a
connection or on demand, it forgets that snapshot, for it predates the reason.
Its own pull under way is superseded from then on and stores nothing any more.

So for every snapshot in a cache there is a pull that brought it
(`Moment.brought_run`). The engine that made this pull has begun no generation
between the request and the landing, and since the landing nobody who shares
the cache has, in that period. Both halves are of one form, that something is
so at every event of a stretch of the run, and `Moment.Throughout` is that
form.

The other engines are another matter. Their pulls know nothing of each other,
and a pull that one of them requested before another forgot the snapshot still
stores what it brings. Then the cache has a snapshot again that predates the
reason, and the next engine is seeded with it (`Moment.seeded_run_overtaken`).
`Moment.seeded_run` says when precisely this cannot be: the snapshot that seeds
an engine was requested since anybody forgot the last if and only if no other
engine forgot one while its pull was under way.
-/

namespace Liveboard

/-! ## The caches after an event -/

namespace Board

variable (b : Board)

/-- **What happens to an engine changes its cache only**, as the deed that comes
about changes it. -/
theorem cache_engineEvent {n : Nat} {station : Station} (found : b.stations[n]? = some station)
    (event : EngineEvent) (name : String) :
    (b.engineEvent n event).cache name
      = if name = station.cache then
          (station.engine.workings.deed? ⟨event, b.engineCache n, b.cacheNow⟩).toList.foldl
            (Deed.file station.engine.period) (b.cache name)
        else b.cache name := by
  have shares : b.engineCache n = b.cache station.cache := by simp [engineCache, found]
  unfold engineEvent
  rw [found]
  dsimp only
  rw [cache, caches_takeNotices, ← cache, cache_setCache, shares]
  split
  · rename_i own
    rw [own]
    exact station.engine.cache_handle ⟨event, b.cache station.cache, b.cacheNow⟩
  · rfl

theorem caches_unsubscribes (handles : List Handle) :
    (handles.foldl unsubscribe b).caches = b.caches := by
  induction handles generalizing b with
  | nil => rfl
  | cons handle handles ih => exact ih (b.unsubscribe handle)

theorem caches_stopWatcher (watcher : Nat) : (b.stopWatcher watcher).caches = b.caches := by
  unfold stopWatcher
  split
  · split
    · rfl
    · rfl
  · rfl

theorem caches_setEntity (watcher : Nat) (entity : String) :
    (b.setEntity watcher entity).caches = b.caches := by
  unfold setEntity
  dsimp only
  split
  · exact b.caches_stopWatcher watcher
  · exact b.caches_stopWatcher watcher

/-- An engine that is started leaves the caches as they are. -/
theorem cache_startEngine (period : Period) (settings : EngineSettings) (cache name : String) :
    (b.startEngine period settings cache).cache name = b.cache name := by
  unfold startEngine
  dsimp only
  rw [Board.cache, caches_takeNotices, ← Board.cache, cache_setCache, Engine.cache_start]
  split
  · rename_i own
    rw [own]
  · rfl

/-- Who is no engine leaves the caches as they are when it is called. -/
theorem caches_hear {notice : ChannelNotice} {entry : Entry Listener}
    (other : ∀ n, entry.callback = .engine n → notice.engineEvent? = none) :
    (b.hear notice entry).caches = b.caches := by
  have hears := b.hears notice entry
  generalize b.hear notice entry = b' at hears ⊢
  cases hears with
  | handles callback told =>
    rw [other _ callback] at told
    cases told
  | notes => rfl

end Board

namespace Moment

variable {m : Moment} {n : Nat} {e : BoardEvent}

/-- An engine that hears something changes the caches, and nobody else does. -/
theorem caches_of_heard {event : EngineEvent} (hears : m.heard? n e = some event) :
    (m.step e).board.caches = (m.board.engineEvent n event).caches := by
  cases e with
  | tell =>
    obtain ⟨b, untold, due⟩ := m
    cases due with
    | nil => cases hears
    | cons turn due =>
      obtain ⟨entry, notice⟩ := turn
      simp only [heard?] at hears
      split at hears
      · rename_i called
        simp only [step, deliver]
        rw [if_pos called.1]
        cases notice with
        | meter change => cases hears
        | state state | event event =>
          cases hears
          simp only [Board.hear, Board.hearState, Board.hearEvent, called.2]
      · cases hears
  | refresh engine | pull engine | landed engine =>
    simp only [heard?, Option.ite_none_right_eq_some, Option.some.injEq] at hears
    obtain ⟨rfl, rfl⟩ := hears
    rfl
  | stopEngine engine =>
    simp only [heard?, Option.ite_none_right_eq_some, Option.some.injEq] at hears
    obtain ⟨⟨rfl, running⟩, rfl⟩ := hears
    simp only [step, Board.stopEngine]
    cases found : m.board.stations[engine]? with
    | none => simp [Board.engine?, found] at running
    | some station =>
      dsimp only
      rw [if_neg (by simpa [Board.engine?, found] using running)]
      exact Board.caches_unsubscribes _ _
  | _ => cases hears

/-- **What nobody hears leaves the caches as they are**, as long as nobody else
uses them. -/
theorem cache_of_unheard (unheard : ∀ n, m.heard? n e = none) {name : String}
    (own : ∀ use, e ≠ .useCache name use) :
    (m.step e).board.cache name = m.board.cache name := by
  cases e with
  | link event draw =>
    simp only [step]
    split <;> rfl
  | tell =>
    obtain ⟨b, untold, due⟩ := m
    cases due with
    | nil =>
      cases untold with
      | nil => rfl
      | cons notice untold => cases notice <;> rfl
    | cons turn due =>
      obtain ⟨entry, notice⟩ := turn
      simp only [step, deliver]
      split
      · rename_i active
        refine congrArg (fun caches => (caches.lookup name).getD .empty) (b.caches_hear ?_)
        intro n calls
        simpa [heard?, active, calls] using unheard n
      · rfl
  | refresh engine | pull engine | landed engine => simpa [heard?] using unheard engine
  | startEngine period settings cache => exact m.board.cache_startEngine period settings cache name
  | stopEngine engine =>
    simp only [step, Board.stopEngine]
    cases found : m.board.stations[engine]? with
    | none => rfl
    | some station =>
      have stopped : station.engine.stopped = true := by
        simpa [heard?, Board.engine?, found] using unheard engine
      dsimp only
      rw [if_pos stopped]
  | stopWatcher watcher =>
    exact congrArg (fun caches => (caches.lookup name).getD .empty)
      (m.board.caches_stopWatcher watcher)
  | setEntity watcher entity =>
    exact congrArg (fun caches => (caches.lookup name).getD .empty)
      (m.board.caches_setEntity watcher entity)
  | useCache cache use =>
    have differ : name ≠ cache := fun same => own use (same ▸ rfl)
    rw [step, Board.cache_setCache, if_neg differ]
  | startWatcher | subscribe | unsubscribe | clear | wait => rfl

/-- Something is so **at every event** of a run. -/
def Throughout (p : Moment → BoardEvent → Prop) (m : Moment) : List BoardEvent → Prop
  | [] => True
  | e :: es => p m e ∧ Throughout p (m.step e) es

theorem throughout_append {p : Moment → BoardEvent → Prop} {m : Moment}
    {es fs : List BoardEvent} :
    Throughout p m (es ++ fs) ↔ Throughout p m es ∧ Throughout p (m.run es) fs := by
  induction es generalizing m with
  | nil => simp [Throughout]
  | cons e es ih =>
    rw [List.cons_append, Throughout, Throughout, ih, run_cons, and_assoc]

/-- What comes about for an engine does so on an occasion. -/
theorem exists_of_deed? {d : Deed} (h : m.deed? n e = some d) :
    ∃ engine o, m.board.engine? n = some engine ∧ m.occasion? n e = some o ∧
      engine.workings.deed? o = some d := by
  obtain ⟨engine, known, rest⟩ := Option.bind_eq_some_iff.1 h
  obtain ⟨o, occasion, deed⟩ := Option.bind_eq_some_iff.1 rest
  exact ⟨engine, o, known, occasion, deed⟩

/-- **An engine forces a new snapshot** of a period on those who share a cache:
it is one of them, and begins a generation on a connection or on demand. -/
def Forces (name : String) (period : Period) (n : Nat) (m : Moment) (e : BoardEvent) : Prop :=
  ∃ station, m.board.stations[n]? = some station ∧ station.cache = name ∧
    station.engine.period = period ∧ m.deed? n e = some .begun

/-! ## The snapshot of a period -/

variable {name : String} {period : Period}

/-- What an engine forgets is gone. -/
theorem Forces.lookup_step (forced : m.Forces name period n e) :
    ((m.step e).board.cache name).entries.lookup period = none := by
  obtain ⟨station, found, rfl, rfl, begun⟩ := forced
  have known : m.board.engine? n = some station.engine := by simp [Board.engine?, found]
  cases hears : m.heard? n e with
  | none => simp [deed?, occasion?, hears] at begun
  | some event =>
    have occasion : m.occasion? n e = some ⟨event, m.board.engineCache n, m.board.cacheNow⟩ := by
      simp [occasion?, hears]
    have changes : (m.step e).board.cache station.cache
        = (m.board.engineEvent n event).cache station.cache :=
      congrArg (fun caches => (caches.lookup station.cache).getD .empty) (caches_of_heard hears)
    rw [changes, m.board.cache_engineEvent found, if_pos rfl, ← deed?_eq known occasion, begun]
    exact SnapshotCache.lookup_invalidate_self _ _

/-- **The snapshot of a period** was cached before, or an engine that shares the
cache has just installed it. -/
theorem lookup_step (own : ∀ use, e ≠ .useCache name use) {cached : Snapshot × Nat}
    (h : ((m.step e).board.cache name).entries.lookup period = some cached) :
    (m.board.cache name).entries.lookup period = some cached ∨
      cached.1.period = period ∧ ∃ n station, m.board.stations[n]? = some station ∧
        station.cache = name ∧ m.deed? n e = some (.installed cached.1 cached.2) := by
  by_cases unheard : ∀ n, m.heard? n e = none
  · rw [cache_of_unheard unheard own] at h
    exact .inl h
  · obtain ⟨n, hears⟩ := not_forall.1 unheard
    obtain ⟨event, hears⟩ := Option.ne_none_iff_exists'.1 hears
    have changes : (m.step e).board.cache name = (m.board.engineEvent n event).cache name :=
      congrArg (fun caches => (caches.lookup name).getD .empty) (caches_of_heard hears)
    rw [changes] at h
    cases found : m.board.stations[n]? with
    | none =>
      have same : m.board.engineEvent n event = m.board := by
        unfold Board.engineEvent
        rw [found]
      rw [same] at h
      exact .inl h
    | some station =>
      have known : m.board.engine? n = some station.engine := by simp [Board.engine?, found]
      have occasion : m.occasion? n e = some ⟨event, m.board.engineCache n, m.board.cacheNow⟩ := by
        simp [occasion?, hears]
      rw [m.board.cache_engineEvent found, ← deed?_eq known occasion] at h
      split at h
      · rename_i shared
        cases deed : m.deed? n e with
        | none =>
          rw [deed] at h
          exact .inl h
        | some d =>
          rw [deed] at h
          obtain before | ⟨rfl, same⟩ := Deed.lookup_file h
          · exact .inl before
          · exact .inr ⟨same, n, station, found, shared.symm, deed⟩
      · exact .inl h

/-! ## Pulls -/

/-- **A pull is requested** in a run of the board, and none of its generation lands
until the end of the run. -/
structure Requested (m : Moment) (n generation : Nat) (early late : List BoardEvent) : Prop where
  /-- The pull is made. -/
  made : ∃ again, (m.run early).deed? n (.pull n generation) = some (.pulled again)
  /-- No pull of the generation lands. -/
  pending : ∀ result, BoardEvent.landed n generation result ∉ late

/-- **A pull brings a snapshot to a cache**: it is requested, it is the next of its
generation to land, and what it brings is installed by an engine that shares the
cache. -/
structure Brings (m : Moment) (name : String) (n generation : Nat) (snapshot : Snapshot)
    (early late : List BoardEvent) : Prop extends Requested m n generation early late where
  /-- The snapshot is installed, and stored in the cache. -/
  installed : ∃ station time,
    (m.run (early ++ .pull n generation :: late)).board.stations[n]? = some station ∧
      station.cache = name ∧
      (m.run (early ++ .pull n generation :: late)).deed? n
        (.landed n generation (.ok snapshot)) = some (.installed snapshot time)

/-- An engine **begins no generation** in a run of the board. -/
def Keeps (n : Nat) (m : Moment) (es : List BoardEvent) : Prop :=
  Throughout (fun m e => m.deed? n e ≠ some .begun) m es

/-- Nobody who shares a cache **forces a new snapshot** of a period. -/
def Unforced (name : String) (period : Period) (m : Moment) (es : List BoardEvent) : Prop :=
  Throughout (fun m e => ∀ k, ¬ m.Forces name period k e) m es

/-- **A pull under way** is requested just now, or was under way before in the same
generation. -/
theorem pulling_of_step (ordered : ∀ old, m.board.engine? n = some old → old.workings.Ordered)
    {new : Engine} (known : (m.step e).board.engine? n = some new) (running : new.stopped = false)
    (pulling : new.stageOf? new.generation = some .pulling) :
    (∃ again, e = .pull n new.generation ∧ m.deed? n e = some (.pulled again)) ∨
      ∃ old, m.board.engine? n = some old ∧ old.stopped = false ∧
        old.stageOf? old.generation = some .pulling ∧ new.generation = old.generation ∧
        m.deed? n e ≠ some .begun ∧ ∀ result, e ≠ .landed n old.generation result := by
  by_cases starts : ∃ period settings cache, e = .startEngine period settings cache ∧
      n = m.board.stations.length
  · -- A new engine has made no pull.
    obtain ⟨period, settings, cache, rfl, new⟩ := starts
    rw [step, Board.engine?_startEngine, if_pos new, Option.some.injEq] at known
    subst known
    exact absurd pulling ((m.board.launch period settings cache).stageOf?_engine _)
  · rw [engine?_step fun period settings cache eq new =>
      starts ⟨period, settings, cache, eq, new⟩] at known
    obtain ⟨old, before, after⟩ := Option.map_eq_some_iff.1 known
    cases occasion : m.occasion? n e with
    | none =>
      rw [occasion] at after
      subst after
      refine .inr ⟨old, before, running, pulling, rfl, by simp [deed?, occasion], fun result => ?_⟩
      rintro rfl
      simp [occasion?, heard?] at occasion
    | some o =>
      rw [occasion] at after
      subst after
      have heard := heard?_of_occasion? occasion
      have workings := old.workings_after o
      have generation : (old.after o).generation = (old.workings.step o.event).generation :=
        congrArg Workings.generation workings
      rw [deed?_eq before occasion, generation]
      rcases Workings.pulling_of_step (ordered old before) (o := o)
        (by rw [← workings]; exact running) (by rw [← workings]; exact pulling) with
        ⟨again, pulled⟩ | ⟨ran, pulled, same, none, other⟩
      · obtain ⟨asked, same, -⟩ := Workings.pulling_of_pulled pulled
        rw [same]
        exact .inl ⟨again, eq_pull_of_heard? (asked ▸ heard), pulled⟩
      · refine .inr ⟨old, before, ran, pulled, same, none, fun result => ?_⟩
        rintro rfl
        have landed : o.event = .landed old.generation result := by
          simpa [heard?] using heard.symm
        exact other result landed

/-- **When a pull under way was requested**: it has not landed since, and its
engine has begun no generation. -/
theorem requested_run (policy : BackoffPolicy) {es : List BoardEvent} {n : Nat} {e : Engine}
    (known : ((initial policy).run es).board.engine? n = some e) (running : e.stopped = false)
    (pulling : e.stageOf? e.generation = some .pulling) :
    ∃ early late, es = early ++ .pull n e.generation :: late ∧
      (initial policy).Requested n e.generation early late ∧
      Keeps n ((initial policy).run (early ++ [.pull n e.generation])) late := by
  induction es using List.reverseRecOn generalizing e with
  | nil => cases known
  | append_singleton es event ih =>
    rw [run_append, run_cons, run_nil] at known
    have ordered : ∀ old, ((initial policy).run es).board.engine? n = some old →
        old.workings.Ordered := by
      intro old before
      obtain ⟨l, os, rfl⟩ := exists_launch policy es before
      exact l.ordered_run os
    rcases pulling_of_step ordered known running pulling with
      ⟨again, rfl, pulled⟩ | ⟨old, before, ran, pulled, same, none, other⟩
    · exact ⟨es, [], rfl, ⟨⟨again, pulled⟩, by simp⟩, trivial⟩
    · obtain ⟨early, late, rfl, requested, keeps⟩ := ih before ran pulled
      rw [same]
      refine ⟨early, late ++ [event], by simp, ⟨requested.made, fun result mem => ?_⟩, ?_⟩
      · rcases List.mem_append.1 mem with mem | mem
        · exact requested.pending result mem
        · exact other result (List.mem_singleton.1 mem).symm
      · rw [Keeps, throughout_append, ← run_append, List.append_assoc, List.singleton_append]
        exact ⟨keeps, none, trivial⟩

/-! ## Where a cached snapshot comes from -/

/-- **Every cached snapshot was brought by a pull.** The engine that made it began
no generation meanwhile, and nobody who shares the cache has forced a new snapshot
of the period since. -/
theorem brought_run (policy : BackoffPolicy) {es : List BoardEvent} {name : String}
    (own : ∀ use, BoardEvent.useCache name use ∉ es) {period : Period} {snapshot : Snapshot}
    {time : Nat}
    (cached : (((initial policy).run es).board.cache name).entries.lookup period
      = some (snapshot, time)) :
    snapshot.period = period ∧ ∃ n generation early late rest,
      es = early ++ .pull n generation :: (late ++ .landed n generation (.ok snapshot) :: rest) ∧
      (initial policy).Brings name n generation snapshot early late ∧
      Keeps n ((initial policy).run (early ++ [.pull n generation])) late ∧
      Unforced name period ((initial policy).run (early ++ .pull n generation :: late))
        (.landed n generation (.ok snapshot) :: rest) := by
  induction es using List.reverseRecOn with
  | nil => cases cached
  | append_singleton es event ih =>
    rw [run_append, run_cons, run_nil] at cached
    have others : ∀ use, BoardEvent.useCache name use ∉ es :=
      fun use mem => own use (List.mem_append_left _ mem)
    have this : ∀ use, event ≠ .useCache name use :=
      fun use same => own use (List.mem_append_right _ (List.mem_singleton.2 same.symm))
    -- Had somebody forgotten the snapshot now, it would not be there.
    have unforced : ∀ k, ¬ ((initial policy).run es).Forces name period k event := by
      intro k forced
      rw [forced.lookup_step] at cached
      cases cached
    rcases lookup_step this cached with before | ⟨same, n, station, found, shares, deed⟩
    · obtain ⟨same, n, generation, early, late, rest, rfl, brings, keeps, still⟩ := ih others before
      refine ⟨same, n, generation, early, late, rest ++ [event], by simp, brings, keeps, ?_⟩
      rw [← List.cons_append, Unforced, throughout_append, ← run_append]
      exact ⟨still, by simpa using unforced, trivial⟩
    · have known : ((initial policy).run es).board.engine? n = some station.engine := by
        simp [Board.engine?, found]
      obtain ⟨e, o, known', occasion, deed'⟩ := exists_of_deed? deed
      obtain rfl := Option.some.inj (known.symm.trans known')
      obtain ⟨running, pulling⟩ := Workings.pulling_of_isOutcome deed' rfl
      obtain rfl : event = .landed n station.engine.generation (.ok snapshot) :=
        eq_landed_of_heard? ((Workings.landed_of_installed deed').1 ▸ heard?_of_occasion? occasion)
      obtain ⟨early, late, rfl, requested, keeps⟩ := requested_run policy known running pulling
      exact ⟨same, n, _, early, late, [], by simp, ⟨requested, station, time, found, shares, deed⟩,
        keeps, unforced, trivial⟩

/-- An engine that keeps its generation forces nothing. -/
theorem throughout_of_keeps {es : List BoardEvent} (keeps : Keeps n m es) {name : String}
    {period : Period} :
    Unforced name period m es ↔
      Throughout (fun m e => ∀ k ≠ n, ¬ m.Forces name period k e) m es := by
  induction es generalizing m with
  | nil => exact Iff.rfl
  | cons e es ih =>
    refine and_congr ⟨fun none k _ => none k, fun others k forced => ?_⟩ (ih keeps.2)
    by_cases own : k = n
    · subst own
      obtain ⟨_, -, -, -, begun⟩ := forced
      exact keeps.1 begun
    · exact others k own forced

/-- Nobody forces a new snapshot by a pull. -/
theorem not_forces_pull {name : String} {period : Period} {k generation : Nat} :
    ¬ m.Forces name period k (.pull n generation) := by
  rintro ⟨station, found, -, -, begun⟩
  obtain ⟨_, o, -, occasion, deed⟩ := exists_of_deed? begun
  have heard := heard?_of_occasion? occasion
  cases Workings.does_of_deed? deed with
  | begun _ event => rcases event with event | event <;> simp [event, heard?] at heard

/-- **Where the snapshot comes from that seeds an engine.** Suppose that only the
engines of a board use their caches, and that an engine that is started now shows
a live view at once. Then it makes no pull, and its view is that of a snapshot of its
period that a pull has brought to the cache.

* Between the request of this pull and its landing the engine that made it began
  no generation; and since it landed, nobody who shares the cache has forced a new
  snapshot of the period.
* So the pull was requested since anybody forced the last, exactly if none of the
  other engines did while it was under way. -/
theorem seeded_run (policy : BackoffPolicy) {es : List BoardEvent} {period : Period}
    {settings : EngineSettings} {name : String} (own : ∀ use, BoardEvent.useCache name use ∉ es)
    {e : Engine}
    (started : (((initial policy).run es).step (.startEngine period settings name)).board.engine?
      ((initial policy).run es).board.stations.length = some e)
    (seeded : e.phase = .live) :
    e.loops = [] ∧ ∃ snapshot : Snapshot, snapshot.period = period ∧
      e.published = .live (View.ofSnapshot snapshot ((initial policy).run es).board.cacheNow) ∧
      ∃ n generation early late rest,
        es = early ++ .pull n generation :: (late ++ .landed n generation (.ok snapshot) :: rest) ∧
        (initial policy).Brings name n generation snapshot early late ∧
        Keeps n ((initial policy).run (early ++ [.pull n generation])) late ∧
        Unforced name period ((initial policy).run (early ++ .pull n generation :: late))
          (.landed n generation (.ok snapshot) :: rest) ∧
        (Unforced name period ((initial policy).run early)
            (.pull n generation :: (late ++ .landed n generation (.ok snapshot) :: rest)) ↔
          Throughout (fun m e => ∀ k ≠ n, ¬ m.Forces name period k e)
            ((initial policy).run (early ++ [.pull n generation])) late) := by
  rw [step, Board.engine?_startEngine, if_pos rfl, Option.some.injEq] at started
  subst started
  obtain ⟨snapshot, seed, published, loops⟩ := Launch.seed_of_live seeded
  obtain ⟨⟨snapshot', time⟩, cached, young⟩ := Option.bind_eq_some_iff.1 seed
  obtain rfl : snapshot' = snapshot := by
    simpa using (Option.ite_none_right_eq_some.1 young).2
  obtain ⟨same, n, generation, early, late, rest, split, brings, keeps, unforced⟩ :=
    brought_run policy own cached
  refine ⟨loops, snapshot', same, published, n, generation, early, late, rest, split, brings,
    keeps, unforced, ?_⟩
  have reaches : ((initial policy).run early).step (.pull n generation)
      = (initial policy).run (early ++ [.pull n generation]) := by
    rw [run_append]
    rfl
  have lands : ((initial policy).run (early ++ [.pull n generation])).run late
      = (initial policy).run (early ++ .pull n generation :: late) := by
    rw [← run_append, List.append_assoc, List.singleton_append]
  rw [← throughout_of_keeps keeps, Unforced, Throughout, reaches, throughout_append, lands]
  exact ⟨fun whole => whole.2.1, fun others => ⟨fun _ => not_forces_pull, others, unforced⟩⟩

/-- **A snapshot was requested since anybody forced the last**: a pull has brought it
to a cache, and nobody who shares the cache has forced a new snapshot of the period
since this pull was requested. -/
def Renewed (name : String) (period : Period) (snapshot : Snapshot) (m : Moment)
    (es : List BoardEvent) : Prop :=
  ∃ n generation early late rest,
    es = early ++ .pull n generation :: (late ++ .landed n generation (.ok snapshot) :: rest) ∧
    m.Brings name n generation snapshot early late ∧
    Unforced name period (m.run early)
      (.pull n generation :: (late ++ .landed n generation (.ok snapshot) :: rest))

/-- An engine that shares a cache is started. -/
def sharing : BoardEvent := .startEngine .standard (Launch.bare 1).settings "shared"

/-- The pull of an engine brings a snapshot. -/
def filled : List BoardEvent := [sharing, .pull 0 1, .landed 0 1 (.ok (.ofStreams 100))]

/-- The next engine is seeded with it, and it was requested since anybody forced the
last. -/
theorem seeded_run_filled :
    ∃ e, (((initial everySecond).run filled).step sharing).board.engine? 1 = some e ∧
      e.phase = .live ∧ e.loops = [] ∧ ∃ snapshot,
        e.published = .live (View.ofSnapshot snapshot 0) ∧
        (initial everySecond).Renewed "shared" .standard snapshot filled := by
  have started : ((((initial everySecond).run filled).step sharing).board.engine? 1).map (·.phase)
      = some .live := rfl
  obtain ⟨e, known, live⟩ := Option.map_eq_some_iff.1 started
  have own : ∀ use, BoardEvent.useCache "shared" use ∉ filled := by simp [filled, sharing]
  obtain ⟨loops, snapshot, -, published, n, generation, early, late, rest, split, brings, -, -,
    since⟩ := seeded_run everySecond own known live
  -- Nothing happens between the request and the landing.
  have none : late = [] := by
    rcases early with _ | ⟨_, _ | ⟨_, _ | ⟨_, early⟩⟩⟩ <;>
      rcases late with _ | ⟨_, _ | ⟨_, late⟩⟩ <;>
      simp [filled, sharing] at split ⊢
  subst none
  exact ⟨e, known, live, loops, snapshot, published, n, generation, early, [], rest, split, brings,
    since.2 trivial⟩

/-- While the first pull of an engine is under way, another engine that shares the
cache is asked for a new snapshot. -/
def overtaking : List BoardEvent :=
  [sharing, .pull 0 1, sharing, .refresh 1, .landed 0 1 (.ok (.ofStreams 100))]

/-- **The next engine is seeded with a snapshot that another one has given up.** -/
theorem seeded_run_overtaken :
    ((((initial everySecond).run overtaking).step sharing).board.engine? 2).map
        (fun e => (e.phase, e.published, e.loops))
      = some (.live, .live (View.ofSnapshot (.ofStreams 100) 0), []) ∧
    ¬ (initial everySecond).Renewed "shared" .standard (.ofStreams 100) overtaking := by
  refine ⟨rfl, ?_⟩
  rintro ⟨n, generation, early, late, rest, split, -, unforced⟩
  -- There is one pull only, and the other engine has forced a new snapshot since.
  obtain rfl : early = [sharing] := by
    rcases early with _ | ⟨_, _ | ⟨_, _ | ⟨_, _ | ⟨_, _ | ⟨_, early⟩⟩⟩⟩⟩ <;>
      simp [overtaking, sharing] at split ⊢
    exact split.1.symm
  have rest : overtaking.tail = .pull n generation ::
      (late ++ .landed n generation (.ok (.ofStreams 100)) :: rest) := (List.cons.inj split).2
  rw [← rest] at unforced
  obtain ⟨-, -, none, -⟩ := unforced
  have other : (((initial everySecond).run (overtaking.take 3)).board.stations[1]?).map
      (fun station => (station.cache, station.engine.period)) = some ("shared", .standard) := by
    rfl
  obtain ⟨station, found, shares⟩ := Option.map_eq_some_iff.1 other
  obtain ⟨cache, period⟩ := Prod.mk.inj shares
  exact none 1 ⟨station, found, cache, period, rfl⟩

end Moment

end Liveboard
