import Liveboard.Proofs.Board.Moment

/-!
# Reconnecting

When an engine hears that the channel is connected, everything from before
is ruled out. A view that it shows as kept up to date from then on is made
of a snapshot that was pulled afterwards and of events that were told
afterwards, and these have larger numbers than all earlier ones
(`Moment.live_after_connected`). That they are of the new connection as well
is a matter of the manager: where calls do not overlap, no driver has a
connection when a new one is told.

The two halves meet in what is outstanding. While it is still to be
delivered that the channel is connected, no event is, since a move tells one
or the other, and the next move that tells something waits
(`Moment.calm_run`). So nothing that was told before can be delivered after
the connection, although it is delivered one call at a time.
-/

namespace Liveboard

namespace Moment

/-! ## What is told -/

/-- What the manager tells by an event of the board. -/
def tells (m : Moment) : BoardEvent → List ChannelNotice
  | .link event draw => if m.mayMove event draw then (m.turn event draw).notices else []
  | _ => []

/-- **What the manager tells** in a run of the board. -/
def told (m : Moment) : List BoardEvent → List ChannelNotice
  | [] => []
  | e :: es => m.tells e ++ (m.step e).told es

/-- The events told in a run of the board. -/
def dispatched (m : Moment) (es : List BoardEvent) : List Event :=
  (m.told es).filterMap ChannelNotice.event?

/-- What was told and is still to be delivered. -/
def outstanding (m : Moment) : List ChannelNotice :=
  m.due.map (·.2) ++ m.untold

/-- The number of the last event. -/
def sequence (m : Moment) : Nat :=
  m.board.link.status.sequence

theorem told_append (m : Moment) (es fs : List BoardEvent) :
    m.told (es ++ fs) = m.told es ++ (m.run es).told fs := by
  induction es generalizing m with
  | nil => rfl
  | cons e es ih => rw [List.cons_append, told, ih, told, List.append_assoc, run_cons]

theorem dispatched_append (m : Moment) (es fs : List BoardEvent) :
    m.dispatched (es ++ fs) = m.dispatched es ++ (m.run es).dispatched fs := by
  rw [dispatched, told_append, List.filterMap_append, dispatched, dispatched]

/-- Only moves of the manager change it. -/
theorem link_step (m : Moment) (e : BoardEvent) :
    (m.step e).board.link
      = match e with
        | .link event draw =>
          if m.mayMove event draw then (m.turn event draw).link else m.board.link
        | _ => m.board.link := by
  cases e with
  | link event draw =>
    simp only [step]
    split <;> rfl
  | tell =>
    show m.deliver.board.link = m.board.link
    unfold deliver
    split
    · split
      · exact m.board.link_hear _ _
      · rfl
    all_goals rfl
  | refresh | pull | landed => exact m.board.link_engineEvent _ _
  | startEngine period settings cache => exact m.board.link_startEngine period settings cache
  | stopEngine engine => exact m.board.link_stopEngine engine
  | startWatcher | subscribe | unsubscribe | clear | useCache | wait => rfl
  | stopWatcher watcher => exact (m.board.frame_stopWatcher watcher).2
  | setEntity watcher entity => exact (m.board.frame_setEntity watcher entity).2

theorem tells_step (m : Moment) (e : BoardEvent) :
    m.board.link.status.Tells (m.step e).board.link.status (m.tells e) := by
  rw [link_step]
  have none : m.board.link.status.Tells m.board.link.status [] := .quiet (.refl _)
  cases e with
  | link event draw =>
    simp only [tells]
    split
    · exact m.board.link.tells_handle event m.board.now draw
    · exact none
  | _ => exact none

/-- **The numbers of the events that were told** lie between the number of
the last event before and that of the last event after. -/
theorem bounds_dispatched (m : Moment) (es : List BoardEvent) :
    m.sequence ≤ (m.run es).sequence ∧
      ∀ event ∈ m.dispatched es,
        m.sequence < event.sequence ∧ event.sequence ≤ (m.run es).sequence := by
  induction es generalizing m with
  | nil => simp [dispatched, told]
  | cons e es ih =>
    obtain ⟨later, bounds⟩ := ih (m.step e)
    have first : m.dispatched (e :: es)
        = (m.tells e).filterMap ChannelNotice.event? ++ (m.step e).dispatched es :=
      List.filterMap_append
    rw [run_cons, first]
    cases m.tells_step e with
    | quiet h =>
      obtain ⟨none, same⟩ := h
      have same : (m.step e).sequence = m.sequence := same
      rw [none, List.nil_append, ← same]
      exact ⟨later, bounds⟩
    | next told states only number last =>
      have number : told.sequence = m.sequence + 1 := number
      have last : (m.step e).sequence = told.sequence := last
      refine ⟨by omega, fun event h => ?_⟩
      rw [only] at h
      rcases List.mem_append.1 h with h | h
      · obtain rfl := List.mem_singleton.1 h
        omega
      · have := bounds event h
        omega

/-- **Later events have larger numbers.** -/
theorem sequence_lt_sequence {m : Moment} {es fs : List BoardEvent} {old event : Event}
    (before : old ∈ m.dispatched es) (after : event ∈ (m.run es).dispatched fs) :
    old.sequence < event.sequence := by
  obtain ⟨-, told⟩ := m.bounds_dispatched es
  obtain ⟨-, later⟩ := (m.run es).bounds_dispatched fs
  exact (told old before).2.trans_lt (later event after).1

/-! ## What is outstanding -/

/-- What is outstanding was so before or has just been told. -/
theorem mem_outstanding_step {m : Moment} {e : BoardEvent} {notice : ChannelNotice}
    (h : notice ∈ (m.step e).outstanding) : notice ∈ m.outstanding ∨ notice ∈ m.tells e := by
  cases e with
  | link event draw =>
    simp only [step, tells] at h ⊢
    split at h
    · rename_i may
      rw [if_pos may]
      simpa [outstanding, or_assoc] using h
    · exact .inl h
  | tell =>
    refine .inl ?_
    obtain ⟨b, untold, due⟩ := m
    cases due with
    | nil =>
      cases untold with
      | nil => exact h
      | cons first untold =>
        cases first with
        | meter change => exact List.mem_cons_of_mem _ h
        | state | event =>
          simp only [step, deliver, outstanding, List.map_map, List.mem_append, List.mem_map] at h
          rcases h with ⟨_, -, rfl⟩ | h
          · exact List.mem_cons_self
          · exact List.mem_cons_of_mem _ h
    | cons turn due =>
      have rest : (step ⟨b, untold, turn :: due⟩ .tell).outstanding = due.map (·.2) ++ untold := by
        obtain ⟨entry, notice⟩ := turn
        simp only [step, deliver]
        split <;> rfl
      rw [rest] at h
      exact List.mem_cons_of_mem _ h
  | _ => exact .inl h

/-- Who tells something waits until everything told before has been
delivered. -/
theorem outstanding_eq_nil {m : Moment} {e : BoardEvent} (h : m.tells e ≠ []) :
    m.outstanding = [] := by
  cases e with
  | link event draw =>
    simp only [tells] at h
    split at h
    · rename_i may
      have idle : m.isIdle = true := by
        rcases Bool.or_eq_true _ _ ▸ may with idle | none
        · exact idle
        · exact absurd (List.isEmpty_iff.1 none) h
      simpa [isIdle, outstanding, and_comm] using idle
    · exact absurd rfl h
  | _ => exact absurd rfl h

/-- What is outstanding was so before or has been told since. -/
theorem mem_outstanding_run {m : Moment} {es : List BoardEvent} {notice : ChannelNotice}
    (h : notice ∈ (m.run es).outstanding) : notice ∈ m.outstanding ∨ notice ∈ m.told es := by
  induction es generalizing m with
  | nil => exact .inl h
  | cons e es ih =>
    rw [told, List.mem_append]
    rcases ih h with before | since
    · rcases mem_outstanding_step before with before | just
      · exact .inl before
      · exact .inr (.inl just)
    · exact .inr (.inr since)

/-- **Not both states and events** are outstanding. -/
def Calm (m : Moment) : Prop :=
  ∀ state event, .state state ∈ m.outstanding → .event event ∉ m.outstanding

theorem calm_step {m : Moment} (h : m.Calm) (e : BoardEvent) : (m.step e).Calm := by
  intro state event states events
  by_cases silent : m.tells e = []
  · have fewer : ∀ notice ∈ (m.step e).outstanding, notice ∈ m.outstanding := by
      intro notice mem
      simpa [silent] using mem_outstanding_step mem
    exact h state event (fewer _ states) (fewer _ events)
  · have just : ∀ notice ∈ (m.step e).outstanding, notice ∈ m.tells e := by
      intro notice mem
      simpa [outstanding_eq_nil silent] using mem_outstanding_step mem
    cases m.tells_step e with
    | quiet none => cases List.filterMap_eq_nil_iff.1 none.1 _ (just _ events)
    | next _ none => cases List.filterMap_eq_nil_iff.1 none _ (just _ states)

theorem calm_run (policy : BackoffPolicy) (es : List BoardEvent) :
    ((initial policy).run es).Calm := by
  induction es using List.reverseRecOn with
  | nil => exact fun _ _ none => by cases none
  | append_singleton es e ih =>
    rw [run_append]
    exact calm_step ih e

/-- What is outstanding was told by the last move that told anything. -/
theorem exists_told_of_outstanding {policy : BackoffPolicy} {es : List BoardEvent}
    {notice : ChannelNotice} (h : notice ∈ ((initial policy).run es).outstanding) :
    ∃ earlier event draw later, es = earlier ++ .link event draw :: later ∧
      notice ∈ ((initial policy).run earlier).tells (.link event draw) ∧
      ((initial policy).run (earlier ++ [.link event draw])).told later = [] := by
  induction es using List.reverseRecOn with
  | nil => cases h
  | append_singleton es e ih =>
    rw [run_append] at h
    rcases mem_outstanding_step h with before | just
    · obtain ⟨earlier, event, draw, later, rfl, told, none⟩ := ih before
      -- While it is outstanding, nothing else can be told.
      have silent : ((initial policy).run (earlier ++ .link event draw :: later)).tells e = [] := by
        by_contra h
        rw [outstanding_eq_nil h] at before
        cases before
      refine ⟨earlier, event, draw, later ++ [e], by simp, told, ?_⟩
      rw [told_append, none, ← run_append, List.append_assoc, List.singleton_append]
      simp [Moment.told, silent]
    · cases e with
      | link event draw => exact ⟨es, event, draw, [], rfl, just, rfl⟩
      | _ => cases just

/-! ## One driver at a time -/

/-- **Calls do not overlap**: one begins only when no other is under way. -/
def Orderly (m : Moment) : List BoardEvent → Prop
  | [] => True
  | e :: es =>
    (∀ request draw, e = .link (.call request) draw → m.board.link.settled = true) ∧
      (m.step e).Orderly es

theorem Orderly.of_append {m : Moment} {es fs : List BoardEvent} (h : m.Orderly (es ++ fs)) :
    m.Orderly es := by
  induction es generalizing m with
  | nil => trivial
  | cons e es ih => exact ⟨h.1, ih h.2⟩

theorem exclusive_run {m : Moment} (h : m.board.link.Exclusive) {es : List BoardEvent}
    (orderly : m.Orderly es) : (m.run es).board.link.Exclusive := by
  induction es generalizing m with
  | nil => exact h
  | cons e es ih =>
    refine ih ?_ orderly.2
    rw [link_step]
    cases e with
    | link event draw =>
      dsimp only
      split
      · exact h.handle event (fun request eq => orderly.1 request draw (eq ▸ rfl)) _ draw
      · exact h
    | _ => exact h

/-! ## What an engine hears -/

/-- What an engine is told comes from what is outstanding. -/
theorem mem_outstanding_of_heard? {n : Nat} {m : Moment} {event : EngineEvent}
    (h : m.heard? n .tell = some event) :
    ∃ notice ∈ m.outstanding, notice.engineEvent? = some event := by
  obtain ⟨b, untold, due⟩ := m
  cases due with
  | nil => cases h
  | cons turn due =>
    obtain ⟨entry, notice⟩ := turn
    simp only [heard?] at h
    split at h
    · exact ⟨notice, List.mem_cons_self, h⟩
    · cases h

/-- An engine hears of a pull when it makes one. -/
theorem eq_pull_of_heard? {n : Nat} {m : Moment} {e : BoardEvent} {generation : Nat}
    (h : m.heard? n e = some (.pull generation)) : e = .pull n generation := by
  cases e with
  | tell =>
    obtain ⟨notice, -, eq⟩ := mem_outstanding_of_heard? h
    cases notice <;> cases eq
  | pull engine generation' =>
    obtain ⟨rfl, rfl⟩ : engine = n ∧ generation' = generation := by simpa [heard?] using h
    rfl
  | refresh | landed | stopEngine => simp [heard?] at h
  | _ => cases h

/-- An engine hears of a result when a pull of its own lands. -/
theorem eq_landed_of_heard? {n : Nat} {m : Moment} {e : BoardEvent} {generation : Nat}
    {result : Except FetchError Snapshot} (h : m.heard? n e = some (.landed generation result)) :
    e = .landed n generation result := by
  cases e with
  | tell =>
    obtain ⟨notice, -, eq⟩ := mem_outstanding_of_heard? h
    cases notice <;> cases eq
  | landed engine generation' result' =>
    obtain ⟨rfl, rfl, rfl⟩ : engine = n ∧ generation' = generation ∧ result' = result := by
      simpa [heard?] using h
    rfl
  | refresh | pull | stopEngine => simp [heard?] at h
  | _ => cases h

/-- An engine is told of an event that is outstanding. -/
theorem event_mem_outstanding {n : Nat} {m : Moment} {e : BoardEvent} {event : Event}
    (h : m.heard? n e = some (.delta event)) : .event event ∈ m.outstanding := by
  cases e with
  | tell =>
    obtain ⟨notice, mem, eq⟩ := mem_outstanding_of_heard? h
    cases notice with
    | event event' =>
      obtain rfl : event' = event := by simpa [ChannelNotice.engineEvent?] using eq
      exact mem
    | meter | state => cases eq
  | refresh | pull | landed | stopEngine => simp [heard?] at h
  | _ => cases h

/-- An engine is told of a state that is outstanding. -/
theorem state_mem_outstanding {n : Nat} {m : Moment} {state : ChannelState}
    (h : m.heard? n .tell = some (.channel state)) : .state state ∈ m.outstanding := by
  obtain ⟨notice, mem, eq⟩ := mem_outstanding_of_heard? h
  cases notice with
  | state state' =>
    obtain rfl : state' = state := by simpa [ChannelNotice.engineEvent?] using eq
    exact mem
  | meter | event => cases eq

/-- **An engine receives only events** that were outstanding or were told in
the run. -/
theorem mem_told_of_received {n : Nat} {m : Moment} {es : List BoardEvent} {event : Event}
    (h : event ∈ (m.feed n es).filterMap Occasion.received?) :
    .event event ∈ m.outstanding ∨ .event event ∈ m.told es := by
  obtain ⟨o, ho, received⟩ := List.mem_filterMap.1 h
  obtain ⟨before, after, split⟩ := List.append_of_mem ho
  obtain ⟨earlier, e, later, rfl, -, occasion, -⟩ := exists_of_feed_eq split
  have heard := heard?_of_occasion? occasion
  have delta : o.event = .delta event := by
    unfold Occasion.received? at received
    split at received <;> simp_all
  rw [delta] at heard
  rw [told_append, List.mem_append]
  exact (mem_outstanding_run (event_mem_outstanding heard)).imp_right .inl

/-- While it is still to be delivered that the channel has a new state, an
engine receives only events that are told in the run. -/
theorem Calm.dispatched_of_received {m : Moment} (calm : m.Calm) {state : ChannelState}
    (waits : .state state ∈ m.outstanding) {n : Nat} {es : List BoardEvent} {event : Event}
    (h : event ∈ ((m.step .tell).feed n es).filterMap Occasion.received?) :
    event ∈ (m.step .tell).dispatched es := by
  have told : .event event ∈ (m.step .tell).told es := by
    refine (mem_told_of_received h).resolve_left fun outstanding => ?_
    rcases mem_outstanding_step outstanding with before | just
    · exact calm state event waits before
    · cases just
  exact List.mem_filterMap.2 ⟨_, told, rfl⟩

/-! ## What a view is made of -/

/-- **An engine fetched a snapshot** in a run of the board: it made a pull,
the next pull of that generation to land brought the snapshot, and it was
installed then. -/
def Fetched (n : Nat) (m : Moment) (es : List BoardEvent) (snapshot : Snapshot)
    (time : Nat) : Prop :=
  ∃ early generation late rest again,
    es = early ++ .pull n generation ::
      (late ++ .landed n generation (.ok snapshot) :: rest) ∧
    (m.run early).deed? n (.pull n generation) = some (.pulled again) ∧
    (∀ result, BoardEvent.landed n generation result ∉ late) ∧
    (m.run (early ++ .pull n generation :: late)).deed? n
        (.landed n generation (.ok snapshot)) = some (.installed snapshot time)

/-- What an engine fetched in its own run it fetched on the board. -/
theorem fetched_of_feed {n : Nat} {m : Moment} {e : Engine} (known : m.board.engine? n = some e)
    {es : List BoardEvent} {snapshot : Snapshot} {time : Nat}
    (h : e.Fetched (m.feed n es) snapshot time) : m.Fetched n es snapshot time := by
  obtain ⟨early, p, late, i, rest, generation, again, split, pull, pulled, others, landing,
    installed⟩ := h
  obtain ⟨early, x, es, rfl, rfl, occasion, split⟩ := exists_of_feed_eq split
  obtain ⟨late, y, rest, rfl, rfl, occasion', -⟩ := exists_of_feed_eq split.symm
  obtain rfl : x = .pull n generation :=
    eq_pull_of_heard? (pull ▸ heard?_of_occasion? occasion)
  obtain rfl : y = .landed n generation (.ok snapshot) :=
    eq_landed_of_heard? (landing ▸ heard?_of_occasion? occasion')
  have reaches : m.feed n (early ++ .pull n generation :: late)
      = m.feed n early ++ p :: (m.run (early ++ [.pull n generation])).feed n late := by
    rw [feed_append, feed, occasion, run_append]
    rfl
  refine ⟨early, generation, late, rest, again, rfl, ?_, ?_, ?_⟩
  · rw [deed?_eq (engine?_run known early) occasion]
    exact pulled
  · -- A pull that lands on the board lands in the engine's own run too.
    intro result mem
    obtain ⟨before, after, rfl⟩ := List.append_of_mem mem
    obtain ⟨o, here, landed⟩ : ∃ o, ((m.run (early ++ [.pull n generation])).run before).occasion? n
        (.landed n generation result) = some o ∧ o.event = .landed generation result := by
      simp [occasion?, heard?]
    refine others o ?_ result landed
    rw [feed_append, feed, here]
    exact List.mem_append_right _ List.mem_cons_self
  · rw [← run_append, ← List.append_cons] at occasion'
    rw [deed?_eq (engine?_run known _) occasion', reaches]
    exact installed

/-- **When a connection is still to be told of**, it was the last thing told,
and no driver had a connection then. -/
theorem exists_connected {policy : BackoffPolicy} {es : List BoardEvent}
    (orderly : (initial policy).Orderly es)
    (h : .state .connected ∈ ((initial policy).run es).outstanding) :
    ∃ earlier event draw later, es = earlier ++ .link event draw :: later ∧
      .state .connected ∈ ((initial policy).run earlier).tells (.link event draw) ∧
      (∀ d ∈ ((initial policy).run earlier).board.link.drivers, d.hasConnection = false) ∧
      ((initial policy).run (earlier ++ [.link event draw])).told later = [] := by
  obtain ⟨earlier, event, draw, later, rfl, told, silent⟩ := exists_told_of_outstanding h
  refine ⟨earlier, event, draw, later, rfl, told, ?_, silent⟩
  have exclusive := exclusive_run (m := initial policy) (Link.exclusive_initial policy)
    orderly.of_append
  simp only [tells] at told
  split at told
  · exact exclusive.no_connection told
  · cases told

/-- **What a live view is made of after a reconnect.** Suppose that calls did
not overlap and that a running engine now hears that the channel is
connected. Then this is what was told last, and no driver had a connection
when it was. Whatever happens next, consumers of the engine see a live view
only when its snapshot was fetched after that, and the deltas merged into it
are of events that were told after that, with larger numbers than all events
told before. -/
theorem live_after_connected (policy : BackoffPolicy) {pre : List BoardEvent}
    (orderly : (initial policy).Orderly pre) {n : Nat} {e : Engine}
    (known : ((initial policy).run pre).board.engine? n = some e) (running : e.stopped = false)
    (hears : ((initial policy).run pre).heard? n .tell = some (.channel .connected)) :
    (∃ earlier event draw later, pre = earlier ++ .link event draw :: later ∧
      .state .connected ∈ ((initial policy).run earlier).tells (.link event draw) ∧
      (∀ d ∈ ((initial policy).run earlier).board.link.drivers, d.hasConnection = false) ∧
      ((initial policy).run (earlier ++ [.link event draw])).told later = []) ∧
    ∀ (post : List BoardEvent) (v : View),
      (((initial policy).run (pre ++ .tell :: post)).board.engine? n).map (·.published)
          = some (.live v) →
      ∃ snapshot time, ∃ events : List Event,
        ((initial policy).run (pre ++ [.tell])).Fetched n post snapshot time ∧
        (∀ event ∈ events, event ∈ ((initial policy).run (pre ++ [.tell])).dispatched post ∧
          ∀ old ∈ (initial policy).dispatched pre, old.sequence < event.sequence) ∧
        v = (View.ofSnapshot snapshot time).applyAll (events.filterMap Event.delta?) := by
  have connected := state_mem_outstanding hears
  refine ⟨exists_connected orderly connected, fun post v live => ?_⟩
  have calm := calm_run policy pre
  have dispatched : ∀ old ∈ (initial policy).dispatched pre,
      old ∈ (initial policy).dispatched (pre ++ [.tell]) := by
    intro old before
    rw [dispatched_append]
    exact List.mem_append_left _ before
  have later : ∀ old ∈ (initial policy).dispatched pre,
      ∀ event ∈ ((initial policy).run (pre ++ [.tell])).dispatched post,
        old.sequence < event.sequence :=
    fun old before event after => sequence_lt_sequence (dispatched old before) after
  obtain ⟨l, os, rfl⟩ := exists_launch policy pre known
  have next : (initial policy).run (pre ++ [.tell]) = ((initial policy).run pre).step .tell := by
    rw [run_append]
    rfl
  rw [run_append, run_cons] at live
  rw [next] at later ⊢
  generalize (initial policy).run pre = m at *
  -- With the notification the engine has begun a generation.
  obtain ⟨o, occasion, event⟩ : ∃ o, m.occasion? n .tell = some o ∧
      o.event = .channel .connected := by
    simp [occasion?, hears]
  have begun : (l.run os).workings.deed? o = some .begun := by
    have running : (l.run os).workings.stopped = false := running
    simp [Workings.deed?, event, running]
  have after : (m.step .tell).board.engine? n = some ((l.run os).after o) := by
    have h := engine?_run known [.tell]
    simpa [feed, occasion] using h
  rw [engine?_run after post] at live
  obtain ⟨snapshot, time, events, fetched, within, made⟩ :=
    l.live_of_begun os o _ begun (by rw [Launch.run_append, Engine.run_cons]; simpa using live)
  -- What it has received since was told since: no event was outstanding then.
  have told : ∀ event ∈ events, event ∈ (m.step .tell).dispatched post :=
    fun event mem => calm.dispatched_of_received connected (within.subset mem)
  exact ⟨snapshot, time, events, fetched_of_feed after fetched,
    fun event mem => ⟨told event mem, fun old before => later old before event (told event mem)⟩,
    made⟩

/-- An attempt after every second. -/
def everySecond : BackoffPolicy where
  baseDelay := .ofMillis 1000
  maxDelay := .ofMillis 1000
  multiplier := 1
  jitter := 0
  maxFailures := 5

/-- While the first pull of an engine is under way the channel is opened, and
the engine is about to hear of it. -/
def connecting : List BoardEvent :=
  [.startEngine .standard (Launch.bare 1).settings "shared", .pull 0 1,
    .link (.call (.connect "token")) 0, .link (.proceed 0) 0, .tell, .tell, .tell,
    .link (.answered 0 (.ok ())) 0, .tell, .tell]

/-- The pull of the first generation lands after that of the second has
begun. -/
def overtaken : List BoardEvent :=
  [.pull 0 2, .landed 0 1 (.ok (.ofStreams 100)), .landed 0 2 (.ok (.ofStreams 7))]

/-- A snapshot that was on its way when the channel was opened is never
seen. -/
theorem live_after_connected_overtaken :
    (initial everySecond).Orderly connecting ∧
      (∃ e, ((initial everySecond).run connecting).board.engine? 0 = some e ∧
        e.stopped = false) ∧
      ((initial everySecond).run connecting).heard? 0 .tell = some (.channel .connected) ∧
      (((initial everySecond).run (connecting ++ .tell :: overtaken)).board.engine? 0).map
        (·.published) = some (.live (View.ofSnapshot (.ofStreams 7) 0)) ∧
      ∃ snapshot time, ∃ events : List Event,
        ((initial everySecond).run (connecting ++ [.tell])).Fetched 0 overtaken snapshot time ∧
        View.ofSnapshot (.ofStreams 7) 0
          = (View.ofSnapshot snapshot time).applyAll (events.filterMap Event.delta?) := by
  have orderly : (initial everySecond).Orderly connecting := by
    refine ⟨?_, ?_, ?_, ?_, ?_, ?_, ?_, ?_, ?_, ?_, trivial⟩
    all_goals intro request draw h; cases h
    rfl
  have hears : ((initial everySecond).run connecting).heard? 0 .tell
      = some (.channel .connected) := rfl
  have live : (((initial everySecond).run (connecting ++ .tell :: overtaken)).board.engine? 0).map
      (·.published) = some (.live (View.ofSnapshot (.ofStreams 7) 0)) := rfl
  have up : (((initial everySecond).run connecting).board.engine? 0).map (·.stopped)
      = some false := rfl
  obtain ⟨e, known, running⟩ := Option.map_eq_some_iff.1 up
  obtain ⟨-, made⟩ := live_after_connected everySecond orderly known running hears
  obtain ⟨snapshot, time, events, fetched, -, eq⟩ := made overtaken _ live
  exact ⟨orderly, ⟨e, known, running⟩, hears, live, snapshot, time, events, fetched, eq⟩

end Moment

end Liveboard
