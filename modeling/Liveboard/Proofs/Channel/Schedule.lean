import Liveboard.Proofs.Channel.Beats

/-!
# When a driver tries again

The sessions of a manager follow one another, and calls may overlap. A call to
connect clears the failures before it attempts to open a connection, and every
driver there is was told to stop by then. So all sessions but the last were
replaced, and the failures are those of the last one. Its driver is on its
schedule in every run (`Link.schedule_run`).

The beats of a driver are taken from all moves of the manager (`Link.beats`), as
what clears the failures need not come from the session that they belong to.
`Link.Timed` is about all drivers at once for the same reason: one move may replace
all of them.
-/

namespace Liveboard

open Course

namespace Link

/-- A call that clears the failures replaces every session so far. -/
def replaced (l : Link) (i : Nat) (incidents : List Incident) : List Beat :=
  if i < l.drivers.length ∧ .cleared ∈ incidents then [.replaced] else []

/-- **What a move means for the delays of a driver.** -/
def beatsAt (l : Link) (i : Nat) (m : LinkMove) : List Beat :=
  match m.event with
  | .driver j event =>
    if j = i then
      match l.drivers[i]? with
      | some d => d.beats (d.handle event l.status m.now m.draw).driver (d.incident? event m.now)
      | none => []
    else []
  | event => l.replaced i (l.incidents event m.now)

/-- **What matters for the delays of a driver in a run**, the first first. -/
def beats (l : Link) (i : Nat) : List LinkMove → List Beat
  | [] => []
  | m :: ms => l.beatsAt i m ++ (l.after m).beats i ms

theorem beats_concat (l : Link) (i : Nat) (ms : List LinkMove) (m : LinkMove) :
    l.beats i (ms ++ [m]) = l.beats i ms ++ (l.run ms).beatsAt i m := by
  induction ms generalizing l with
  | nil => exact List.append_nil _
  | cons n ms ih => rw [List.cons_append, beats, ih, beats, List.append_assoc, run_cons]

/-- **The drivers of a manager are on their schedules.** Only the session of the last one is
not replaced. -/
structure Timed (policy : BackoffPolicy) (beats : Nat → List Beat) (l : Link) : Prop where
  /-- The policy stays. -/
  given : l.policy = policy
  /-- Every driver has it. -/
  policies : ∀ (i : Nat) (d : Driver), l.drivers[i]? = some d → d.backoff.policy = policy
  /-- A session that has not begun has no beats. -/
  unborn : ∀ i, l.drivers.length ≤ i → beats i = []
  /-- Every session but the last was replaced. -/
  last : ∀ i, i + 1 < l.drivers.length → .replaced ∈ beats i
  /-- While a call attempts to open a connection there are no failures, and every session was
  replaced. -/
  opening : ∀ (call : Nat) (token : String), l.calls[call]? = some ⟨.connect token, .opening⟩ →
    l.status.failures = 0 ∧ ∀ i < l.drivers.length, .replaced ∈ beats i
  /-- Every driver is on its schedule. -/
  driving : ∀ (i : Nat) (d : Driver), l.drivers[i]? = some d → d.Timed l.status (beats i)

variable {l : Link} {policy : BackoffPolicy} {bs : Nat → List Beat} {now : Int} {draw : Float}

theorem after_drive {j : Nat} {d : Driver} (found : l.drivers[j]? = some d) (event : DriverEvent)
    (now : Int) (draw : Float) :
    l.after ⟨.driver j event, now, draw⟩
      = { l with
          status := (d.handle event l.status now draw).status
          drivers := l.drivers.set j (d.handle event l.status now draw).driver } := by
  simp [after, handle, drive, found]

theorem timed_initial (policy : BackoffPolicy) : (initial policy).Timed policy fun _ => [] where
  given := rfl
  policies := by simp [initial]
  unborn := fun _ _ => rfl
  last := by simp [initial]
  opening := by simp [initial]
  driving := by simp [initial]

namespace Timed

/-- A call attempts to open a connection while no driver goes on. -/
theorem beginOpening (h : l.Timed policy bs) (idle : l.Idle) (call : Nat) :
    (l.beginOpening call).link.Timed policy
      fun i => bs i ++ l.replaced i [.cleared, .dialled] where
  given := h.given
  policies := h.policies
  unborn := fun i beyond => by
    show bs i ++ l.replaced i _ = []
    rw [h.unborn i beyond, replaced, if_neg fun inside => absurd inside.1 (Nat.not_lt.2 beyond)]
    rfl
  last := fun i inside => List.mem_append_left _ (h.last i inside)
  opening := fun _ _ _ => by
    refine ⟨l.status.clearFailures.failures_setState .connecting, fun i inside => ?_⟩
    rw [replaced, if_pos ⟨inside, List.mem_cons_self⟩]
    exact List.mem_append_right _ (List.mem_singleton_self _)
  driving := fun i d found => by
    rw [replaced, if_pos ⟨(List.getElem?_eq_some_iff.1 found).1, List.mem_cons_self⟩]
    exact (h.driving i d found).replace (idle i d found) _

/-- A call tells a driver to stop. -/
theorem of_cancel (h : l.Timed policy bs) {driver : Nat} {l' : Link}
    (given : l'.policy = l.policy) (status : l'.status = l.status)
    (drivers : l'.drivers = (l.cancel driver).drivers)
    (opening : ∀ (call : Nat) (token : String), l'.calls[call]? = some ⟨.connect token, .opening⟩ →
      l.calls[call]? = some ⟨.connect token, .opening⟩) : l'.Timed policy bs := by
  have length : l'.drivers.length = l.drivers.length := by
    rw [drivers]
    exact List.length_modify _ _ _
  refine ⟨given.trans h.given, ?_, length ▸ h.unborn, length ▸ h.last, ?_, ?_⟩
  · intro i d found
    obtain ⟨old, before, rfl⟩ := getElem?_cancel_cases (drivers ▸ found)
    exact h.policies i old before
  · intro call token found
    rw [status, length]
    exact h.opening call token (opening call token found)
  · intro i d found
    obtain ⟨old, before, rfl⟩ := getElem?_cancel_cases (drivers ▸ found)
    rw [status]
    exact (h.driving i old before).cancel _

/-- The state changes, or a call returns. -/
theorem of_status (h : l.Timed policy bs) {l' : Link} (given : l'.policy = l.policy)
    (failures : l'.status.failures = l.status.failures) (drivers : l'.drivers = l.drivers)
    (opening : ∀ (call : Nat) (token : String), l'.calls[call]? = some ⟨.connect token, .opening⟩ →
      l.calls[call]? = some ⟨.connect token, .opening⟩) : l'.Timed policy bs where
  given := given.trans h.given
  policies := drivers ▸ h.policies
  unborn := drivers ▸ h.unborn
  last := drivers ▸ h.last
  opening := fun call token found => by
    rw [failures, drivers]
    exact h.opening call token (opening call token found)
  driving := fun i d found => (h.driving i d (drivers ▸ found)).congr failures

/-- A driver starts, and its session replaces all others. -/
theorem startDriver (h : l.Timed policy bs) (guarded : l.Guarded) {call : Nat} {token : String}
    (found : l.calls[call]? = some ⟨.connect token, .opening⟩) {status : ChannelStatus}
    {connected : Bool} (failures : status.failures = if connected then 0 else 1) :
    ((l.withStatus status).startDriver call token connected).Timed policy bs := by
  obtain ⟨-, replaced⟩ := h.opening call token found
  have length : ((l.withStatus status).startDriver call token connected).drivers.length
      = l.drivers.length + 1 := List.length_append
  refine ⟨h.given, ?_, ?_, ?_, ?_, ?_⟩
  · intro i d new
    rcases getElem?_startDriver_cases new with old | ⟨-, rfl⟩
    · exact h.policies i d old
    · exact h.given
  · exact fun i beyond => h.unborn i (by omega)
  · exact fun i inside => replaced i (by omega)
  · intro other token' opening
    obtain ⟨opening, different⟩ := opening_of_setCall (l := l) (by simp) opening
    exact absurd (guarded.eq_of_locked found opening rfl rfl) different
  · intro i d new
    rcases getElem?_startDriver_cases new with old | ⟨rfl, rfl⟩
    · exact (h.driving i d old).of_replaced (replaced i (List.getElem?_eq_some_iff.1 old).1) _
    · rw [h.unborn _ (Nat.le_refl _)]
      exact Driver.timed_fresh _ _ failures

/-- **A move of a call** keeps the drivers on their schedules. -/
theorem of_goes (h : l.Timed policy bs) (guarded : l.Guarded) {event : LinkEvent}
    {incidents : List Incident} {turn : LinkTurn} (goes : l.Goes now draw event incidents turn)
    (ofCall : ∀ driver event', event ≠ .driver driver event') :
    turn.link.Timed policy fun i => bs i ++ l.replaced i incidents := by
  have none : ∀ incidents : List Incident, .cleared ∉ incidents →
      (fun i => bs i ++ l.replaced i incidents) = bs := by
    intro incidents absent
    funext i
    rw [replaced, if_neg fun both => absent both.2, List.append_nil]
  cases goes with
  | calls =>
    rw [none _ List.not_mem_nil]
    exact h.of_status rfl rfl rfl fun _ _ found => getElem?_of_append_locking rfl found
  | @dials call _ found next idle =>
    have seized : (l.seize call).Timed policy bs := h.of_status rfl rfl rfl fun _ _ found => found
    exact seized.beginOpening (guarded.idle idle) call
  | @redials call _ _ found ended => exact h.beginOpening (guarded.idle_of_locked found rfl) call
  | replaces found next busy =>
    rw [none _ List.not_mem_nil]
    exact h.of_cancel rfl rfl rfl fun _ _ opening => (opening_of_setCall (by simp) opening).1
  | stops found next busy =>
    rw [none _ List.not_mem_nil]
    exact h.of_cancel rfl rfl rfl fun _ _ opening => (opening_of_setCall (by simp) opening).1
  | closes found next idle =>
    rw [none _ List.not_mem_nil]
    exact h.of_status rfl (l.status.failures_setState _) rfl fun _ _ opening =>
      (opening_of_setCall (l := l) (by simp) opening).1
  | returns found ended =>
    rw [none _ List.not_mem_nil]
    exact h.of_status rfl (l.status.failures_setState _) rfl fun _ _ opening =>
      (opening_of_setCall (by simp) opening).1
  | @connects call token found =>
    rw [none _ (by simp)]
    exact h.startDriver guarded found
      ((l.status.failures_setState _).trans (h.opening call token found).1)
  | @fails call token error found retryable =>
    rw [none _ (by simp)]
    exact h.startDriver guarded found (by simp [retryable, (h.opening call token found).1])
  | @rejected call token error found final =>
    rw [none _ (by simp)]
    refine h.of_status rfl (by simp [final, unlock, setCall, withStatus]) rfl fun _ _ opening => ?_
    exact (opening_of_setCall (l := l) (by simp) opening).1
  | drives => exact absurd rfl (ofCall _ _)
  | waits =>
    rw [none _ List.not_mem_nil]
    exact h

/-- **A turn of a driver** keeps the drivers on their schedules. -/
theorem drive (h : l.Timed policy bs) (guarded : l.Guarded)
    (small : policy.maxFailures ≤ Backoff.maxAttempt) {j : Nat} {d : Driver} {event : DriverEvent}
    {incident : Option Incident} {turn : DriverTurn} (found : l.drivers[j]? = some d)
    (takes : d.Takes l.status now draw event incident turn) :
    Link.Timed policy (fun i => bs i ++ if j = i then d.beats turn.driver incident else [])
      { l with status := turn.status, drivers := l.drivers.set j turn.driver } := by
  obtain ⟨kept, samePolicy⟩ := takes.frame
  have inside : j < l.drivers.length := (List.getElem?_eq_some_iff.1 found).1
  have limit := h.policies j d found
  have timed := (takes.timed (h.driving j d found) (limit ▸ small)).1
  refine ⟨h.given, ?_, fun i beyond => ?_, fun i before => ?_, ?_, ?_⟩
  · intro i d' found'
    rcases getElem?_set_cases found' with ⟨-, rfl⟩ | ⟨-, before⟩
    · exact samePolicy.trans limit
    · exact h.policies i d' before
  · rw [List.length_set] at beyond
    rw [h.unborn i beyond, if_neg (by omega)]
    rfl
  · rw [List.length_set] at before
    exact List.mem_append_left _ (h.last i before)
  · intro call token opening
    -- The driver was told to stop, and so it leaves the failures alone.
    obtain ⟨zero, replaced⟩ := h.opening call token opening
    have cancelled := guarded.idle_of_locked opening rfl j d found
    refine ⟨(takes.of_cancelled cancelled).2.1.trans zero, fun i inside' => ?_⟩
    rw [List.length_set] at inside'
    exact List.mem_append_left _ (replaced i inside')
  · intro i d' found'
    rcases getElem?_set_cases found' with ⟨rfl, rfl⟩ | ⟨different, before⟩
    · rw [if_pos rfl]
      exact timed
    · rw [if_neg (Ne.symm different), List.append_nil]
      have inside' := (List.getElem?_eq_some_iff.1 before).1
      by_cases last : i + 1 = l.drivers.length
      · have cancelled : d.cancelled = true := (h.driving j d found).told (h.last j (by omega))
        exact (h.driving i d' before).congr (takes.of_cancelled cancelled).2.1
      · exact (h.driving i d' before).of_replaced (h.last i (by omega)) _

/-- **Every move** keeps the drivers on their schedules. -/
theorem after (h : l.Timed policy bs) (guarded : l.Guarded)
    (small : policy.maxFailures ≤ Backoff.maxAttempt) (m : LinkMove) :
    (l.after m).Timed policy fun i => bs i ++ l.beatsAt i m := by
  obtain ⟨event, now, draw⟩ := m
  cases event with
  | call | proceed | answered => exact h.of_goes guarded (goes l _ now draw) nofun
  | driver j event =>
    cases found : l.drivers[j]? with
    | none =>
      have idle : l.after ⟨.driver j event, now, draw⟩ = l := by
        simp [Link.after, handle, Link.drive, found]
      have none : (fun i => bs i ++ l.beatsAt i ⟨.driver j event, now, draw⟩) = bs := by
        funext i
        rw [beatsAt]
        dsimp only
        split
        · rename_i same
          rw [← same, found]
          exact List.append_nil _
        · exact List.append_nil _
      rw [idle, none]
      exact h
    | some d =>
      have one : (fun i => bs i ++ l.beatsAt i ⟨.driver j event, now, draw⟩)
          = fun i => bs i ++ if j = i
              then d.beats (d.handle event l.status now draw).driver (d.incident? event now)
              else [] := by
        funext i
        rw [beatsAt]
        dsimp only
        split
        · rename_i same
          rw [← same, found]
        · rfl
      rw [after_drive found, one]
      exact h.drive guarded small found (d.takes l.status now draw event)

end Timed

theorem timed_run (policy : BackoffPolicy) (small : policy.maxFailures ≤ Backoff.maxAttempt)
    (ms : List LinkMove) :
    ((initial policy).run ms).Timed policy fun i => (initial policy).beats i ms := by
  induction ms using List.reverseRecOn with
  | nil => exact timed_initial policy
  | append_singleton ms m ih =>
    simp only [run_concat, beats_concat]
    exact ih.after (guarded_run policy ms) small m

/-- **A delay that begins** is the one that is due. -/
theorem Timed.delay (h : l.Timed policy bs) (small : policy.maxFailures ≤ Backoff.maxAttempt)
    {i : Nat} {m : LinkMove} (begins : .delay ∈ l.beatsAt i m) :
    ∃ earlier d, bs i ++ l.beatsAt i m = earlier ++ [.delay] ∧
      (l.after m).drivers[i]? = some d ∧ d.backoff.policy = policy ∧
      d.Pauses (l.after m).status m.draw earlier := by
  obtain ⟨event, now, draw⟩ := m
  cases event with
  | call | proceed | answered =>
    have other : ∀ incidents, .delay ∉ l.replaced i incidents := by
      intro incidents mem
      unfold replaced at mem
      split at mem <;> simp at mem
    exact absurd begins (other _)
  | driver j event =>
    rw [beatsAt] at begins ⊢
    dsimp only at begins ⊢
    by_cases same : j = i
    · subst same
      rw [if_pos rfl] at begins ⊢
      cases found : l.drivers[j]? with
      | none =>
        rw [found] at begins
        exact absurd begins List.not_mem_nil
      | some d =>
        rw [found] at begins
        dsimp only at begins ⊢
        have takes := d.takes l.status now draw event
        have limit := h.policies j d found
        obtain ⟨earlier, split, pauses⟩ :=
          (takes.timed (h.driving j d found) (limit ▸ small)).2 begins
        rw [after_drive found]
        exact ⟨earlier, _, split, List.getElem?_set_self (List.getElem?_eq_some_iff.1 found).1,
          takes.frame.2.trans limit, pauses⟩
    · rw [if_neg same] at begins
      exact absurd begins List.not_mem_nil

/-- **When a driver tries again.** The bound of the failures is a number of 32 bits, like the
count of the attempts. In every run, whatever the attempts and the connections
bring, a driver that has not ended has made as many attempts as there were delays since a
settled connection was lost, or since its session began; no other loss makes them begin
anew. The failures are those of its session, as long as it was not told to stop, and
afterwards until another call clears them. Whenever a delay begins,

* it is the delay of this attempt, the first one if a settled connection was just lost;
* the attempt is below the bound of the failures;
* it is as many as the failures if a settled connection was lost in the session, and one less
  if none was. -/
theorem schedule_run (policy : BackoffPolicy) (small : policy.maxFailures ≤ Backoff.maxAttempt)
    (ms : List LinkMove) :
    (∀ (i : Nat) (d : Driver), ((initial policy).run ms).drivers[i]? = some d →
      (d.stage ≠ .ended → d.backoff.attempt = Beat.delays ((initial policy).beats i ms)) ∧
      (d.cancelled = false → .replaced ∉ (initial policy).beats i ms)) ∧
    ∀ (i : Nat) (m : LinkMove), .delay ∈ ((initial policy).run ms).beatsAt i m →
      ∃ earlier d delay, (initial policy).beats i (ms ++ [m]) = earlier ++ [.delay] ∧
        ((initial policy).run (ms ++ [m])).drivers[i]? = some d ∧ d.stage = .pausing delay ∧
        policy.delay? (Beat.delays earlier) m.draw = some delay ∧
        (earlier.getLast? = some .lapse → Beat.delays earlier = 0) ∧
        Beat.delays earlier < policy.maxFailures ∧
        (.replaced ∉ earlier → ((initial policy).run (ms ++ [m])).status.failures
          = Beat.delays earlier + if .lapse ∈ earlier then 0 else 1) := by
  have timed := timed_run policy small ms
  refine ⟨fun i d found => ?_, fun i m begins => ?_⟩
  · have own := timed.driving i d found
    refine ⟨own.attempt, fun running replaced => ?_⟩
    rw [own.told replaced] at running
    cases running
  · obtain ⟨earlier, d, split, found, limit, pauses⟩ := timed.delay small begins
    obtain ⟨delay, stage, due⟩ := pauses.delay
    rw [beats_concat, run_concat]
    refine ⟨earlier, d, delay, split, found, stage, limit ▸ due, fun lapse => ?_,
      limit ▸ pauses.below, pauses.failures⟩
    obtain ⟨before, rfl⟩ := List.getLast?_eq_some_iff.1 lapse
    exact Beat.delays_concat_lapse before

/-- A connection settles and is lost, and the attempt after it is refused. -/
def lostThenRefused : List LinkMove :=
  lostAtOnce ++ [⟨.driver 0 .rested, 0, 0⟩, ⟨.driver 0 (.opened (.ok ())), 0, 0⟩,
    ⟨.driver 0 .outlived, 0, 0⟩, ⟨.driver 0 .closed, 0, 0⟩, ⟨.driver 0 .rested, 0, 0⟩]

/-- Three delays begin: one after a connection that did not settle, one after the connection
that did, and one after an attempt that was refused. The last of them is the second of its
row, although there is only one failure. -/
theorem schedule_run_refused :
    onceMore.maxFailures ≤ Backoff.maxAttempt ∧
      .delay ∈ ((initial onceMore).run lostThenRefused).beatsAt 0
        ⟨.driver 0 (.opened (.error (.transport "refused"))), 0, 0⟩ ∧
      ∃ d, ((initial onceMore).run (lostThenRefused ++
          [⟨.driver 0 (.opened (.error (.transport "refused"))), 0, 0⟩])).drivers[0]? = some d ∧
        d.stage = .pausing (.ofSecs 1) ∧
        ((initial onceMore).run (lostThenRefused ++
          [⟨.driver 0 (.opened (.error (.transport "refused"))), 0, 0⟩])).status.failures = 1 := by
  have small : onceMore.maxFailures ≤ Backoff.maxAttempt := by decide
  have begins : .delay ∈ ((initial onceMore).run lostThenRefused).beatsAt 0
      ⟨.driver 0 (.opened (.error (.transport "refused"))), 0, 0⟩ := by decide +kernel
  have beats : (initial onceMore).beats 0 (lostThenRefused ++
      [⟨.driver 0 (.opened (.error (.transport "refused"))), 0, 0⟩])
        = [.delay, .lapse, .delay] ++ [.delay] := by decide +kernel
  obtain ⟨earlier, d, delay, split, found, stage, due, -, -, failures⟩ :=
    (schedule_run onceMore small lostThenRefused).2 0 _ begins
  obtain rfl : [.delay, .lapse, .delay] = earlier :=
    (List.append_inj' (beats.symm.trans split) rfl).1
  have second : onceMore.delay? 1 0 = some (.ofSecs 1) := by decide +kernel
  have same : delay = .ofSecs 1 := Option.some.inj (due.symm.trans second)
  exact ⟨small, begins, d, found, same ▸ stage, failures (by decide)⟩

end Link

end Liveboard
