import Liveboard.Proofs.Board.Listening
import Liveboard.Proofs.Channel.Verdict

/-!
# Whether live updates can be expected

An engine tells its consumers whether the channel can be expected to bring
deltas. When it is started it looks at the state of the channel; from then
on it goes by what it hears of the states. These are two sources, and one
may be ahead of the other: when an engine is started while a state is still
to be taken up, it has looked at that state and will hear of it too. That
does no harm, for the last verdict among the states that were not taken up
yet is true of the current state (`Moment.verdict_run`).

So the engine of any run says what the last verdict since its start says, and
where there was none, what was true at its start. It lags behind only while it
is still to be told of a state. `Moment.Follows` is what an engine has heard
and makes of it: all that was told since its start is what it has heard
followed by what it is still to hear. From this `Moment.availability_run`
reads off what it says in any run of the board.

That no deltas can be expected keeps no snapshot from being installed.
-/

namespace Liveboard

/-! ## What an engine makes of what it hears -/

namespace Engine

open ChannelState (lastVerdict?)

variable {e : Engine}

@[simp] theorem liveUpdates_publishStale (e : Engine) :
    e.publishStale.liveUpdates = e.liveUpdates := by
  unfold publishStale
  split <;> rfl

@[simp] theorem liveUpdates_install (e : Engine) (generation : Nat) (snapshot : Snapshot)
    (now : Nat) : (e.install generation snapshot now).1.liveUpdates = e.liveUpdates := by
  unfold install
  split <;> rfl

@[simp] theorem liveUpdates_nextGeneration (e : Engine) :
    e.nextGeneration.liveUpdates = e.liveUpdates :=
  liveUpdates_publishStale _

@[simp] theorem liveUpdates_beginFetch (e : Engine) (forced : Bool) (cache : SnapshotCache)
    (now : Nat) : (e.beginFetch forced cache now).engine.liveUpdates = e.liveUpdates := by
  have next := e.liveUpdates_nextGeneration
  unfold beginFetch
  by_cases stopped : e.stopped = true
  · rw [if_pos stopped]
  · rw [if_neg stopped]
    dsimp only
    by_cases forces : forced = true
    · rw [if_pos forces]
      exact next
    · rw [if_neg forces]
      split
      · exact (liveUpdates_install _ _ _ _).trans next
      · exact next

@[simp] theorem liveUpdates_takeEvent (e : Engine) (event : Event) :
    (e.takeEvent event).1.liveUpdates = e.liveUpdates := by
  have taken (d : UsageDelta) : (e.takeDelta d event.receivedAt).1.liveUpdates = e.liveUpdates := by
    unfold takeDelta
    cases e.phase with
    | live => cases e.view <;> rfl
    | seeding | resyncing => rfl
  unfold takeEvent
  split
  · rfl
  · cases event.decode UsageDelta.ofJson with
    | ok d => exact taken d
    | error fault => rfl

@[simp] theorem liveUpdates_land (e : Engine) (generation : Nat)
    (result : Except FetchError Snapshot) (cache : SnapshotCache) (now : Nat) :
    (e.land generation result cache now).engine.liveUpdates = e.liveUpdates := by
  unfold land
  dsimp only
  split
  · rfl
  · split
    · exact liveUpdates_install _ _ _ _
    · show (e.fetchFailed generation _).liveUpdates = _
      unfold fetchFailed
      split
      · rfl
      · exact liveUpdates_publishStale _

/-- **What an engine says changes with verdicts only**, whatever else it goes through. -/
theorem liveUpdates_after (e : Engine) (o : Occasion) :
    (e.after o).liveUpdates = (o.event.state?.bind ChannelState.verdict?).getD e.liveUpdates := by
  obtain ⟨event, cache, now⟩ := o
  cases event with
  | delta event => exact e.liveUpdates_takeEvent event
  | channel s =>
    cases s with
    | connected => exact liveUpdates_beginFetch { e with liveUpdates := true } true cache now
    | error => exact liveUpdates_publishStale { e with liveUpdates := false }
    | disconnected => exact e.liveUpdates_publishStale
    | connecting => rfl
  | refresh => exact e.liveUpdates_beginFetch true cache now
  | pull generation =>
    rw [after_pull]
    split <;> rfl
  | landed generation result =>
    rw [after_landed]
    split
    · exact e.liveUpdates_land generation result cache now
    · rfl
  | stop => rfl

/-- **An engine says what the last verdict says that it has heard.** -/
theorem liveUpdates_run (e : Engine) (os : List Occasion) :
    (e.run os).liveUpdates
      = (lastVerdict? (os.filterMap (·.event.state?))).getD e.liveUpdates := by
  induction os using List.reverseRecOn with
  | nil => rfl
  | append_singleton os o ih =>
    rw [run_concat, liveUpdates_after, ih, List.filterMap_append, ChannelState.lastVerdict?_append]
    have last : lastVerdict? ([o].filterMap (·.event.state?))
        = o.event.state?.bind ChannelState.verdict? := by
      cases said : o.event.state? with
      | none => simp [said]
      | some s => simp [said]
    rw [last]
    cases o.event.state?.bind ChannelState.verdict? <;> rfl

/-- A snapshot that lands while it is due is installed and shown as live. -/
theorem after_landed_ok (running : e.stopped = false)
    (pulling : e.stageOf? e.generation = some .pulling) (snapshot : Snapshot)
    (cache : SnapshotCache) (now : Nat) :
    let e' := e.after ⟨.landed e.generation (.ok snapshot), cache, now⟩
    e'.phase = .live ∧ e'.view = some (e.replay snapshot now) ∧
      e'.published = .live (e.replay snapshot now) := by
  have current : e.isCurrent e.generation = true := isCurrent_iff.2 ⟨running, rfl⟩
  have stays : ¬((e.endLoop e.generation).generation ≠ e.generation ∨
      (e.endLoop e.generation).stopped = true) := by
    rintro (other | stopped)
    · exact other rfl
    · exact Bool.noConfusion (stopped.symm.trans running)
  intro e'
  have landed : e' = ((e.endLoop e.generation).install e.generation snapshot now).1 := by
    show e.after _ = _
    rw [after_landed, if_pos pulling, land, current]
    rfl
  rw [landed, install, if_neg stays]
  exact ⟨rfl, rfl, rfl⟩

end Engine

/-- A new engine looks at the state of the channel. -/
theorem Launch.liveUpdates_engine (l : Launch) :
    l.engine.liveUpdates = decide (l.channel ≠ .error) :=
  (Engine.liveUpdates_beginFetch _ false l.cache l.now)

namespace Moment

open ChannelState (lastVerdict?)

variable {m : Moment} {n : Nat}

/-! ## The state and the states that are told -/

/-- **The state of the channel is the last that was told.** -/
theorem shows_step (m : Moment) (e : BoardEvent) :
    m.board.link.status.Shows (m.step e).board.link.status (m.tells e) := by
  rw [link_step]
  cases e with
  | link event draw =>
    simp only [tells]
    split
    · exact (m.board.link.goes event m.board.now draw).shows
    · rfl
  | _ => rfl

theorem shows_run (m : Moment) (es : List BoardEvent) :
    m.board.link.status.Shows (m.run es).board.link.status (m.told es) := by
  induction es generalizing m with
  | nil => rfl
  | cons e es ih => exact (m.shows_step e).append (ih (m.step e))

/-- **The last verdict told** is true of the state. -/
theorem verdict_step (m : Moment) (e : BoardEvent) {up : Bool}
    (h : lastVerdict? ((m.tells e).filterMap ChannelNotice.state?) = some up) :
    up = decide ((m.step e).state ≠ .error) := by
  rw [state, link_step]
  cases e with
  | link event draw =>
    simp only [tells] at h
    split at h
    · rename_i may
      simp only [if_pos may]
      exact (m.board.link.goes event m.board.now draw).verdict h
    · cases h
  | _ => cases h

/-- What was told and not taken up yet is taken up from the front. -/
theorem exists_untold_step (m : Moment) (e : BoardEvent) :
    ∃ taken, m.untold ++ m.tells e = taken ++ (m.step e).untold := by
  cases e with
  | link event draw =>
    refine ⟨[], ?_⟩
    simp only [tells, step]
    split
    · rfl
    · exact List.append_nil _
  | tell =>
    obtain ⟨b, untold, due⟩ := m
    rw [show tells ⟨b, untold, due⟩ .tell = [] from rfl, List.append_nil]
    cases due with
    | cons turn due =>
      refine ⟨[], ?_⟩
      simp only [step, deliver]
      split <;> rfl
    | nil =>
      cases untold with
      | nil => exact ⟨[], rfl⟩
      | cons notice untold => exact ⟨[notice], by cases notice <;> rfl⟩
  | _ => exact ⟨[], List.append_nil _⟩

/-- **The states that were not taken up yet are in line with the current one**: the last
verdict among them is true of it. -/
theorem verdict_run (policy : BackoffPolicy) (es : List BoardEvent) {up : Bool}
    (h : lastVerdict? (((initial policy).run es).untold.filterMap ChannelNotice.state?)
      = some up) : up = decide (((initial policy).run es).state ≠ .error) := by
  induction es using List.reverseRecOn with
  | nil => cases h
  | append_singleton es e ih =>
    rw [run_concat] at h ⊢
    generalize (initial policy).run es = m at h ih ⊢
    obtain ⟨taken, split⟩ := m.exists_untold_step e
    have all : lastVerdict? ((m.untold ++ m.tells e).filterMap ChannelNotice.state?)
        = some up := by
      rw [split, List.filterMap_append, ChannelState.lastVerdict?_append, h]
      rfl
    by_cases silent : m.tells e = []
    · have same : (m.step e).state = m.state :=
        (m.shows_step e).state_eq (by rw [silent]; rfl)
      rw [silent, List.append_nil] at all
      rw [same]
      exact ih all
    · -- Whoever tells something finds everything taken up.
      have none : m.untold = [] := (List.append_eq_nil_iff.1 (outstanding_eq_nil silent)).2
      rw [none, List.nil_append] at all
      exact m.verdict_step e all

/-- The states that are told in a run of the board. -/
def transitions (m : Moment) (es : List BoardEvent) : List ChannelState :=
  (m.told es).filterMap ChannelNotice.state?

/-! ## What an engine says -/

/-- **An engine follows the channel.** It was started at a moment by the first of some
events, it has heard of some states since, and later ones are still to come. -/
structure Follows (m : Moment) (es : List BoardEvent) (e : Engine)
    (heard later : List ChannelState) : Prop where
  /-- They are the states that were not taken up yet at its start and those told since. -/
  split : m.untold.filterMap ChannelNotice.state? ++ m.transitions es = heard ++ later
  /-- Those that are still to come are still to be delivered to it. -/
  awaited : (m.run es).awaited .states (m.board.registry.nextId + 1) = later.map .state
  /-- It says what the last verdict says that it has heard, and else what was true at its
  start. -/
  liveUpdates : e.liveUpdates = (lastVerdict? heard).getD (decide (m.state ≠ .error))

/-- An engine that was started and not torn down follows the channel if nobody has ended
its registration for the states. -/
theorem exists_follows (policy : BackoffPolicy) {pre post : List BoardEvent}
    {period : Period} {settings : EngineSettings} {cache : String} {e : Engine}
    (known : ((initial policy).run
        (pre ++ .startEngine period settings cache :: post)).board.engine?
      ((initial policy).run pre).board.stations.length = some e)
    (running : e.stopped = false)
    (kept : ∀ event ∈ post,
      event.revokes (((initial policy).run pre).board.registry.nextId + 1) = false) :
    ∃ heard later, ((initial policy).run pre).Follows (.startEngine period settings cache :: post)
      e heard later := by
  obtain ⟨listed, active⟩ :=
    ((initial policy).run pre).board.registered_startEngine period settings cache
  have start := (initial policy).run_concat pre (.startEngine period settings cache)
  have new : ((initial policy).run (pre ++ [.startEngine period settings cache])).board.engine?
      ((initial policy).run pre).board.stations.length
        = some (((initial policy).run pre).board.launch period settings cache).engine := by
    rw [start]
    exact engine?_step_startEngine _ period settings cache
  have awaited := (addressed_run policy pre).awaited_startEngine period settings cache
  have listens := ((initial policy).run pre).listens_startEngine period settings cache
  rw [List.append_cons] at known
  obtain ⟨later, rest, split⟩ := heard_append_awaited policy (start ▸ listens) (start ▸ listed)
    (start ▸ active) (start ▸ awaited) kept new known running
  have flag := engine?_run new post
  rw [← run_append, known, Option.some.injEq] at flag
  rw [run_append, start] at rest
  rw [start] at split flag
  refine ⟨_, later, split, rest, ?_⟩
  rw [flag, Engine.liveUpdates_run, Launch.liveUpdates_engine]
  rfl

/-- The states that were not taken up yet at the start of an engine do not matter. -/
theorem Follows.verdict_eq {policy : BackoffPolicy} {pre post : List BoardEvent} {e : Engine}
    {heard later : List ChannelState}
    (h : ((initial policy).run pre).Follows post e heard later) :
    (lastVerdict? (heard ++ later)).getD (decide (((initial policy).run pre).state ≠ .error))
      = (lastVerdict? (((initial policy).run pre).transitions post)).getD
        (decide (((initial policy).run pre).state ≠ .error)) := by
  rw [← h.split, ChannelState.lastVerdict?_append]
  cases lastVerdict? (((initial policy).run pre).transitions post) with
  | some up => rfl
  | none =>
    cases waiting : lastVerdict?
        (((initial policy).run pre).untold.filterMap ChannelNotice.state?) with
    | none => rfl
    | some up => exact verdict_run policy pre waiting

/-- **When everything was delivered to it** the engine says what the last verdict since
its start says. -/
theorem Follows.liveUpdates_eq {policy : BackoffPolicy} {pre post : List BoardEvent} {e : Engine}
    {heard : List ChannelState} (h : ((initial policy).run pre).Follows post e heard []) :
    e.liveUpdates = (lastVerdict? (((initial policy).run pre).transitions post)).getD
      (decide (((initial policy).run pre).state ≠ .error)) := by
  rw [h.liveUpdates, ← h.verdict_eq, List.append_nil]

/-- **While the channel is in the error state** the engine says that no live updates can be
expected, or is still to be told of an error. -/
theorem Follows.eq_false_or_mem {policy : BackoffPolicy} {pre post : List BoardEvent} {e : Engine}
    {heard later : List ChannelState}
    (h : ((initial policy).run pre).Follows post e heard later)
    (failed : (((initial policy).run pre).run post).state = .error) :
    e.liveUpdates = false ∨ .error ∈ later := by
  have last := ((initial policy).run pre).shows_run post
  have all := h.verdict_eq.trans
    (ChannelState.lastVerdict?_getD_of_error (last.symm.trans failed))
  rw [ChannelState.lastVerdict?_append] at all
  cases verdict : lastVerdict? later with
  | none =>
    rw [verdict, Option.none_or] at all
    exact .inl (h.liveUpdates.trans all)
  | some up =>
    rw [verdict, Option.some_or, Option.getD_some] at all
    subst all
    exact .inr (ChannelState.error_mem_of_lastVerdict? verdict)

/-- At rest everything was delivered. -/
theorem Follows.later_eq_nil {es : List BoardEvent} {e : Engine} {heard later : List ChannelState}
    (h : m.Follows es e heard later) (idle : (m.run es).isIdle = true) : later = [] := by
  have nothing : (m.run es).outstanding = [] := by
    simpa [isIdle, outstanding, and_comm] using idle
  rw [List.eq_nil_iff_forall_not_mem]
  intro state mem
  have waits : .state state ∈ (m.run es).outstanding :=
    mem_outstanding_of_awaited (h.awaited ▸ List.mem_map_of_mem mem)
  rw [nothing] at waits
  cases waits

/-- **Whether live updates can be expected.** Every engine of a run of the board was
started in it. Suppose that it was not torn down, and that nobody has ended its
registration for the states. Then, whatever else has happened on the board since its
start, the engine follows the channel. It has heard of the states in the order in which
they were told; some may still have to be delivered to it, but none at rest. When none
has, it says that live updates can be expected exactly when the last verdict told since
its start was that the channel is connected, or there was none and the channel was not
in the error state at its start. While the channel is in the error state it says that
they cannot be expected, unless an error is among what is still to be delivered to it.

Whatever it says, a snapshot of the current generation that lands is installed with the
deltas held back and is shown as live. -/
theorem availability_run (policy : BackoffPolicy) {es : List BoardEvent} {e : Engine}
    (known : ((initial policy).run es).board.engine? n = some e) (running : e.stopped = false) :
    (∃ pre period settings cache post,
      es = pre ++ .startEngine period settings cache :: post ∧
      n = ((initial policy).run pre).board.stations.length ∧
      ((∀ event ∈ post,
          event.revokes (((initial policy).run pre).board.registry.nextId + 1) = false) →
        ∃ heard later,
          ((initial policy).run pre).Follows (.startEngine period settings cache :: post) e
            heard later ∧
          (((initial policy).run es).isIdle = true → later = []) ∧
          (later = [] →
            (e.liveUpdates = true ↔
              lastVerdict? (((initial policy).run pre).transitions
                  (.startEngine period settings cache :: post)) = some true ∨
                lastVerdict? (((initial policy).run pre).transitions
                  (.startEngine period settings cache :: post)) = none ∧
                ((initial policy).run pre).state ≠ .error)) ∧
          (((initial policy).run es).state = .error →
            e.liveUpdates = false ∨ .error ∈ later))) ∧
    ∀ snapshot, e.stageOf? e.generation = some .pulling →
      ∃ e', ((initial policy).run (es ++ [.landed n e.generation (.ok snapshot)])).board.engine? n
          = some e' ∧
        e'.phase = .live ∧
        e'.view = some (e.replay snapshot ((initial policy).run es).board.cacheNow) ∧
        e'.published = .live (e.replay snapshot ((initial policy).run es).board.cacheNow) ∧
        e'.liveUpdates = e.liveUpdates := by
  constructor
  · obtain ⟨pre, period, settings, cache, post, rfl, rfl⟩ := exists_start policy known
    refine ⟨pre, period, settings, cache, post, rfl, rfl, fun kept => ?_⟩
    obtain ⟨heard, later, follows⟩ := exists_follows policy known running kept
    refine ⟨heard, later, follows, fun idle => ?_, fun delivered => ?_, fun failed => ?_⟩
    · rw [run_append] at idle
      exact follows.later_eq_nil idle
    · subst delivered
      rw [follows.liveUpdates_eq]
      cases lastVerdict? (((initial policy).run pre).transitions
          (.startEngine period settings cache :: post)) with
      | none => simp
      | some up => simp
    · rw [run_append] at failed
      exact follows.eq_false_or_mem failed
  · intro snapshot pulling
    have landed := engine?_run known [.landed n e.generation (.ok snapshot)]
    rw [← run_append] at landed
    refine ⟨_, landed, ?_⟩
    have once : ((initial policy).run es).feed n [.landed n e.generation (.ok snapshot)]
        = [⟨.landed e.generation (.ok snapshot), ((initial policy).run es).board.engineCache n,
            ((initial policy).run es).board.cacheNow⟩] := by
      simp [feed, occasion?, heard?]
    rw [once]
    obtain ⟨phase, view, published⟩ := Engine.after_landed_ok running pulling snapshot
      (((initial policy).run es).board.engineCache n) ((initial policy).run es).board.cacheNow
    exact ⟨phase, view, published, e.liveUpdates_after _⟩

/-- An engine is started while the channel is being opened, and before anyone has heard of
it. Its first pull is under way when the attempt fails. -/
def refused : List BoardEvent :=
  [.link (.call (.connect "token")) 0, .link (.proceed 0) 0,
    .startEngine .standard (Launch.bare 1).settings "shared", .pull 0 1, .tell, .tell, .tell,
    .link (.answered 0 (.error (.transport "offline"))) 0, .tell, .tell, .tell]

/-- Everything was delivered, the channel is in the error state, and the engine says that
no live updates can be expected. Then its pull lands, and the view is shown as live. -/
theorem availability_run_refused :
    ((initial everySecond).run refused).isIdle = true ∧
      ((initial everySecond).run refused).state = .error ∧
      ∃ e e', ((initial everySecond).run refused).board.engine? 0 = some e ∧
        e.stopped = false ∧ e.liveUpdates = false ∧
        e.stageOf? e.generation = some .pulling ∧
        ((initial everySecond).run (refused ++ [.landed 0 1 (.ok (.ofStreams 7))])).board.engine? 0
          = some e' ∧
        e'.published = .live (View.ofSnapshot (.ofStreams 7) 0) ∧ e'.liveUpdates = false := by
  have idle : ((initial everySecond).run refused).isIdle = true := rfl
  have failed : ((initial everySecond).run refused).state = .error := rfl
  have now : ((initial everySecond).run refused).board.cacheNow = 0 := rfl
  have facts : (((initial everySecond).run refused).board.engine? 0).map (fun e =>
      (e.stopped, e.generation, e.stageOf? 1, e.pending))
        = some (false, 1, some .pulling, []) := rfl
  obtain ⟨e, known, facts⟩ := Option.map_eq_some_iff.1 facts
  obtain ⟨running, generation, pulling, pending⟩ :
      e.stopped = false ∧ e.generation = 1 ∧ e.stageOf? 1 = some .pulling ∧ e.pending = [] := by
    simpa using facts
  have lasting : ∀ event ∈ refused, ∀ id, event.revokes id = false := by
    simp [refused, BoardEvent.revokes]
  obtain ⟨⟨pre, period, settings, cache, post, split, -, follows⟩, lands⟩ :=
    availability_run everySecond known running
  obtain ⟨heard, later, -, delivered, -, ends⟩ := follows fun event mem =>
    lasting event (split ▸ List.mem_append_right pre (List.mem_cons_of_mem _ mem)) _
  have flag : e.liveUpdates = false := by simpa [delivered idle] using ends failed
  rw [generation] at lands
  obtain ⟨e', landed, -, -, published, same⟩ := lands (.ofStreams 7) pulling
  refine ⟨idle, failed, e, e', known, running, flag, generation ▸ pulling, landed, ?_,
    same.trans flag⟩
  rw [published, now, Engine.replay, pending]
  rfl

end Moment

end Liveboard
