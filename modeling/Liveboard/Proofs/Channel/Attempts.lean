import Liveboard.Proofs.Channel.Guarded
import Liveboard.Proofs.Channel.Standing

/-!
# Attempts to connect

The failures that a manager counts are those of its record: the attempts that
have failed since a call has cleared them or a connection has settled. Calls
may overlap, but one acts at a time, and so each attempt is counted once,
whether it was refused or its connection was lost before it settled.

A driver goes on as long as there are fewer of them than the policy allows,
and gives up when there are as many. What it may do next can be read off the
record together with what it waits for (`Driver.Paced`), and so can what a
call may do that attempts to open a connection (`Link.Budget`).

Between two attempts there is a delay. Since a driver asks for fewer delays in
a row than attempts may fail, only the first delays of a policy matter. Where
one of them is longer than any span the driver ends with attempts left, and
`BackoffPolicy.Stalls` says of which policies this is so. `Link.attempts_run`
is about all others.
-/

namespace Liveboard

open Course

/-! ## Operations that count -/

namespace ChannelStatus

variable (c : ChannelStatus)

@[simp] theorem failures_setState (state : ChannelState) :
    (c.setState state).1.failures = c.failures := by
  unfold setState
  split <;> rfl

@[simp] theorem exhausted_setState (state : ChannelState) :
    (c.setState state).1.exhausted = c.exhausted := by
  unfold setState
  split <;> rfl

@[simp] theorem failures_receive (frame : String) (now : Int) :
    (c.receive frame now).1.failures = c.failures := by
  unfold receive
  split <;> rfl

@[simp] theorem failures_attemptFailed (error : ChannelError) :
    (c.attemptFailed error).1.failures
      = c.failures + if error.isRetryable = true then 1 else 0 := by
  unfold attemptFailed
  dsimp only
  rw [failures_setState]
  split <;> rfl

@[simp] theorem failures_giveUp : c.giveUp.1.failures = c.failures :=
  failures_setState _ _

@[simp] theorem exhausted_giveUp : c.giveUp.1.exhausted = true :=
  exhausted_setState _ _

end ChannelStatus

/-! ## The driver that goes on -/

/-- **A delay is longer than any span**: one that a driver may ask for before as
many attempts have failed as the policy allows, at some draw of the moves. -/
def BackoffPolicy.Stalls (policy : BackoffPolicy) (moves : List LinkMove) : Prop :=
  ∃ m ∈ moves, ∃ attempt < policy.maxFailures, policy.delay? attempt m.draw = none

/-- Another attempt may follow: all that were made have failed, but for those
that are pending. -/
structure Course.Standing.Allows (t : Standing) (limit pending delays : Nat) : Prop where
  /-- The token was not rejected. -/
  accepted : t.rejected = false
  /-- The attempts that have failed are fewer than the bound. -/
  below : t.strikes < limit
  /-- The attempts that were made have failed or are pending. -/
  dials : t.dials ≤ t.strikes + pending
  /-- There was at most one delay more than attempts have failed. -/
  delays : delays ≤ t.strikes + 1

/-- Why a driver has ended that was not told to stop. -/
inductive Course.Standing.Ends (t : Standing) (limit : Nat) (exhausted : Bool) (stalled : Prop) :
    Prop where
  /-- The token was rejected. -/
  | rejected (final : t.rejected = true) (below : t.strikes < limit)
  /-- It was out of attempts. -/
  | spent (accepted : t.rejected = false) (all : t.strikes = limit) (given : exhausted = true)
  /-- There was no delay. -/
  | stalled (accepted : t.rejected = false) (below : t.strikes < limit) (h : stalled)

namespace Driver

/-- **What a driver waits for fits the record**, as long as it was not told to
stop. Once a connection has settled, the delays there were do not matter any
more. -/
def Fits (t : Standing) (limit : Nat) (exhausted : Bool) (stalled : Prop) (delays : Nat) :
    DriverStage → Prop
  | .fresh true => t.settled = false ∧ t.Allows limit 1 delays
  | .fresh false =>
    t.rejected = false ∧ t.strikes ≤ limit ∧ t.dials ≤ t.strikes ∧ delays ≤ t.strikes
  | .reading true => t.settled = true ∧ t.Allows limit 0 0
  | .reading false => t.settled = false ∧ t.Allows limit 1 delays
  | .pausing _ => t.Allows limit 0 delays
  | .opening => t.Allows limit 1 delays
  | .ended => t.Ends limit exhausted stalled

/-- **The driver that goes on**, with the status of the channel and what can
be read off the record. -/
structure Paced (d : Driver) (c : ChannelStatus) (t : Standing) (stalled : Prop) : Prop where
  /-- The failures are counted. -/
  count : c.failures = t.strikes
  /-- There are at most as many failures as the policy allows. -/
  bound : t.strikes ≤ d.backoff.policy.maxFailures
  /-- There are at most as many attempts as the policy allows. -/
  dials : t.dials ≤ d.backoff.policy.maxFailures
  /-- What the driver waits for fits. -/
  fits : Fits t d.backoff.policy.maxFailures c.exhausted stalled d.backoff.attempt d.stage

variable {d : Driver} {c : ChannelStatus} {t : Standing} {stalled : Prop} {now : Int} {draw : Float}

/-- A driver without a connection goes on. -/
theorem Resumes.paced {turn : DriverTurn} (h : d.Resumes c draw turn)
    (count : c.failures = t.strikes) (accepted : t.rejected = false)
    (bound : t.strikes ≤ d.backoff.policy.maxFailures) (dials : t.dials ≤ t.strikes)
    (delays : d.backoff.attempt ≤ t.strikes)
    (stalls : ∀ attempt < d.backoff.policy.maxFailures,
      d.backoff.policy.delay? attempt draw = none → stalled) :
    turn.driver.Paced turn.status t stalled := by
  have room : t.dials ≤ d.backoff.policy.maxFailures := dials.trans bound
  cases h with
  | givesUp spent =>
    have all : t.strikes = d.backoff.policy.maxFailures := by omega
    exact ⟨by simpa using count, bound, room, .spent accepted all (by simp)⟩
  | pauses left after =>
    have more : d.backoff.advance.attempt ≤ t.strikes + 1 :=
      (Nat.min_le_left _ _).trans (Nat.succ_le_succ delays)
    exact ⟨count, bound, room, accepted, count ▸ left, dials, more⟩
  | stalls left after =>
    have below : t.strikes < d.backoff.policy.maxFailures := count ▸ left
    exact ⟨count, bound, room, .stalled accepted below (stalls _ (delays.trans_lt below) after)⟩

/-- A driver that goes on ends only out of attempts or for want of a delay. -/
theorem Resumes.state_of_ended {turn : DriverTurn} (h : d.Resumes c draw turn)
    (ended : turn.driver.isEnded = true) :
    turn.status.state = .error ∨ turn.status.failures < d.backoff.policy.maxFailures := by
  cases h with
  | givesUp spent => exact .inl (by simp)
  | pauses left after => cases ended
  | stalls left after => exact .inr left

/-- With the first sign of a connection the counts start anew. -/
theorem paced_of_sign {i : Incident} (sign : i.isSign = true) (unsettled : t.settled = false)
    (accepted : t.rejected = false) (room : 1 ≤ d.backoff.policy.maxFailures)
    (failures : c.failures = 0) :
    Paced { d with stage := .reading true } c (t.note i) stalled := by
  rw [Standing.note_sign sign unsettled]
  exact ⟨failures, Nat.zero_le _, Nat.zero_le _, rfl, accepted, room, Nat.zero_le _,
    Nat.zero_le _⟩

/-- A driver that loses its connection goes on without one. -/
theorem Paced.loses {settled : Bool} {error : ChannelError} {turn : DriverTurn}
    (h : d.Paced c t stalled) (stage : d.stage = .reading settled)
    (stalls : ∀ attempt < d.backoff.policy.maxFailures,
      d.backoff.policy.delay? attempt draw = none → stalled)
    (resumes : (if settled then { d with backoff := d.backoff.reset } else d).Resumes
      ((if settled then c.recordError error
        else (c.recordError error).countFailure).setState .disconnected).1 draw turn) :
    turn.driver.Paced turn.status (t.note .lost) stalled := by
  obtain ⟨count, bound, -, fits⟩ := h
  rw [stage] at fits
  cases settled with
  | true =>
    -- The delays start anew.
    obtain ⟨same, accepted, below, made, -⟩ := fits
    rw [Standing.note_lost_of_settled same]
    exact resumes.paced ((c.recordError error).failures_setState _ |>.trans count) accepted
      bound made (Nat.zero_le _) stalls
  | false =>
    -- It is lost before it has settled, and so one more attempt has failed.
    obtain ⟨same, accepted, below, made, drawn⟩ := fits
    rw [Standing.note_lost same]
    refine resumes.paced ?_ accepted below made drawn stalls
    simpa [ChannelStatus.countFailure, ChannelStatus.recordError] using count

/-- **What happens to a driver keeps its pace.** -/
theorem Paced.takes {event : DriverEvent} {incident : Option Incident} {turn : DriverTurn}
    (h : d.Paced c t stalled) (running : d.cancelled = false)
    (room : 1 ≤ d.backoff.policy.maxFailures)
    (stalls : ∀ attempt < d.backoff.policy.maxFailures,
      d.backoff.policy.delay? attempt draw = none → stalled)
    (takes : d.Takes c now draw event incident turn) :
    turn.driver.Paced turn.status (incident.toList.foldl Standing.note t) stalled := by
  obtain ⟨count, bound, dials, fits⟩ := h
  cases takes with
  | begins stage =>
    rw [stage] at fits
    exact ⟨count, bound, dials, fits⟩
  | seeks stage resumes =>
    rw [stage] at fits
    obtain ⟨accepted, -, made, drawn⟩ := fits
    exact resumes.paced count accepted bound made drawn stalls
  | outlives stage =>
    rw [stage] at fits
    obtain ⟨unsettled, accepted, -⟩ := fits
    exact paced_of_sign (i := .outlived) (c := c.settle) rfl unsettled accepted room rfl
  | @reads settled text stage =>
    rw [stage] at fits
    cases settled with
    | true =>
      obtain ⟨same, allows⟩ := fits
      rw [Option.toList_some, List.foldl_cons, Standing.note_sign_of_settled rfl same]
      exact ⟨by simpa using count, bound, dials, same, allows⟩
    | false =>
      obtain ⟨unsettled, accepted, -⟩ := fits
      have none : (c.settle.receive text now).1.failures = 0 := by simp
      exact paced_of_sign (i := .frame text now) rfl unsettled accepted room none
  | drops stage => exact ⟨count, bound, dials, fits⟩
  | loses stage _ resumes =>
    have lost := Paced.loses ⟨count, bound, dials, fits⟩ stage stalls resumes
    exact lost
  | dials stage =>
    rw [stage] at fits
    obtain ⟨accepted, below, made, drawn⟩ := fits
    have room : t.dials + 1 ≤ d.backoff.policy.maxFailures := by omega
    exact ⟨(c.failures_setState _).trans count, bound, room, accepted, below,
      Nat.succ_le_succ made, drawn⟩
  | connects stage =>
    rw [stage] at fits
    exact ⟨(c.failures_setState _).trans count, bound, dials, rfl, fits.accepted, fits.below,
      fits.dials, fits.delays⟩
  | @fails error _ stage _ retryable resumes =>
    rw [stage] at fits
    rw [Option.toList_some, List.foldl_cons, Standing.note_refused retryable]
    exact resumes.paced (by simpa [retryable] using count) fits.accepted fits.below fits.dials
      fits.delays stalls
  | @rejected error stage _ final =>
    rw [stage] at fits
    rw [Option.toList_some, List.foldl_cons, Standing.note_rejected final]
    exact ⟨by simpa [final] using count, bound, dials, .rejected rfl fits.below⟩
  | stops cancelled =>
    rw [running] at cancelled
    cases cancelled
  | waits => exact ⟨count, bound, dials, fits⟩

/-- A driver that goes on ends in the error state, unless it could go on. -/
theorem Takes.state_of_ended {event : DriverEvent} {incident : Option Incident} {turn : DriverTurn}
    (takes : d.Takes c now draw event incident turn) (running : d.cancelled = false)
    (going : d.isEnded = false) (ended : turn.driver.isEnded = true) :
    turn.status.state = .error ∨ turn.status.failures < d.backoff.policy.maxFailures := by
  cases takes with
  | seeks _ resumes | fails _ _ _ resumes => exact resumes.state_of_ended ended
  | @loses settled _ _ _ _ _ resumes => cases settled <;> exact resumes.state_of_ended ended
  | rejected => exact .inl (by simp)
  | stops cancelled =>
    rw [running] at cancelled
    cases cancelled
  | drops | waits =>
    rw [going] at ended
    cases ended
  | begins | outlives | reads | dials | connects => cases ended

/-- A driver that was told to stop counts nothing and makes no attempt, but it
may give up. -/
theorem Takes.of_cancelled {event : DriverEvent} {incident : Option Incident} {turn : DriverTurn}
    (takes : d.Takes c now draw event incident turn) (cancelled : d.cancelled = true) :
    incident = none ∧ turn.status.failures = c.failures ∧
      (c.exhausted = true → turn.status.exhausted = true) := by
  cases takes with
  | begins | stops | waits => exact ⟨rfl, rfl, id⟩
  | seeks _ resumes =>
    cases resumes with
    | givesUp => exact ⟨rfl, by simp, fun _ => by simp⟩
    | pauses | stalls => exact ⟨rfl, rfl, id⟩
  | outlives _ running | reads _ running | drops _ running | loses _ running | dials _ running
  | connects _ running | fails _ running | rejected _ running =>
    rw [cancelled] at running
    cases running

/-- Giving up and the want of a delay are never taken back. -/
theorem Fits.mono {limit delays : Nat} {exhausted exhausted' : Bool} {stalled' : Prop}
    {stage : DriverStage} (h : Fits t limit exhausted stalled delays stage)
    (given : exhausted = true → exhausted' = true) (stalls : stalled → stalled') :
    Fits t limit exhausted' stalled' delays stage := by
  cases stage with
  | fresh connected => cases connected <;> exact h
  | reading settled => cases settled <;> exact h
  | ended =>
    cases h with
    | rejected final below => exact .rejected final below
    | spent accepted all before => exact .spent accepted all (given before)
    | stalled accepted below before => exact .stalled accepted below (stalls before)
  | pausing | opening => exact h

/-- While a driver that has begun goes on, fewer attempts have failed than the
policy allows. -/
theorem Fits.below {limit delays : Nat} {exhausted : Bool} {stage : DriverStage}
    (h : Fits t limit exhausted stalled delays stage) (begun : stage ≠ .fresh false)
    (going : stage ≠ .ended) : t.strikes < limit := by
  cases stage with
  | fresh connected =>
    cases connected with
    | true => exact h.2.below
    | false => exact absurd rfl begun
  | reading settled => cases settled <;> exact h.2.below
  | pausing | opening => exact Standing.Allows.below h
  | ended => exact absurd rfl going

end Driver

/-! ## The manager -/

namespace Link

variable {l : Link} {policy : BackoffPolicy} {t : Standing} {stalled : Prop}

/-- **The manager**, with what can be read off the record. -/
structure Budget (policy : BackoffPolicy) (t : Standing) (stalled : Prop) (l : Link) : Prop where
  /-- The policy stays. -/
  given : l.policy = policy
  /-- Every driver has it. -/
  policies : ∀ (i : Nat) (d : Driver), l.drivers[i]? = some d → d.backoff.policy = policy
  /-- The failures are counted. -/
  count : l.status.failures = t.strikes
  /-- There are at most as many failures as the policy allows. -/
  bound : t.strikes ≤ policy.maxFailures
  /-- There are at most as many attempts as the policy allows. -/
  dials : t.dials ≤ policy.maxFailures
  /-- A call makes the first attempt. -/
  calling : ∀ (call : Nat) (token : String), l.calls[call]? = some ⟨.connect token, .opening⟩ →
    t.rejected = false ∧ t.strikes = 0 ∧ t.dials = 1
  /-- The driver of the session makes the others. -/
  driving : ∀ (i : Nat) (d : Driver), l.drivers[i]? = some d → d.cancelled = false →
    Driver.Fits t policy.maxFailures l.status.exhausted stalled d.backoff.attempt d.stage

theorem budget_initial (policy : BackoffPolicy) (stalled : Prop) :
    (initial policy).Budget policy (standing []) stalled where
  given := rfl
  policies := by simp [initial]
  count := rfl
  bound := Nat.zero_le _
  dials := Nat.zero_le _
  calling := by simp [initial]
  driving := by simp [initial]

namespace Budget

/-- The want of a delay is never taken back. -/
theorem mono (h : l.Budget policy t stalled) {stalled' : Prop} (more : stalled → stalled') :
    l.Budget policy t stalled' :=
  { h with driving := fun i d found running => (h.driving i d found running).mono id more }

/-- A call attempts to open a connection while no driver goes on. -/
theorem beginOpening (h : l.Budget policy t stalled) (room : 1 ≤ policy.maxFailures)
    (idle : l.Idle) (call : Nat) :
    (l.beginOpening call).link.Budget policy ((t.note .cleared).note .dialled) stalled where
  given := h.given
  policies := h.policies
  count := l.status.clearFailures.failures_setState .connecting
  bound := Nat.zero_le _
  dials := room
  calling := fun _ _ _ => ⟨rfl, rfl, rfl⟩
  driving := fun _ _ found running => idle.elim found running

/-- A call ends the session, and its driver was told to stop. -/
theorem of_cancel (h : l.Budget policy t stalled) {driver : Nat} {l' : Link}
    (given : l'.policy = l.policy) (status : l'.status = l.status)
    (drivers : l'.drivers = (l.cancel driver).drivers)
    (idle : l'.Idle)
    (calling : ∀ (call : Nat) (token : String),
      l'.calls[call]? = some ⟨.connect token, .opening⟩ →
      l.calls[call]? = some ⟨.connect token, .opening⟩) :
    l'.Budget policy t stalled where
  given := given.trans h.given
  policies := by
    intro i d found
    obtain ⟨old, before, rfl⟩ := getElem?_cancel_cases (drivers ▸ found)
    exact h.policies i old before
  count := status ▸ h.count
  bound := h.bound
  dials := h.dials
  calling := fun call token found => h.calling call token (calling call token found)
  driving := fun _ _ found running => idle.elim found running

/-- A driver starts, and what it waits for fits the record. -/
theorem startDriver (h : l.Budget policy t stalled) {u : Standing} {status : ChannelStatus}
    {call : Nat} {token : String} {connected : Bool}
    (guarded : l.Guarded) (found : l.calls[call]? = some ⟨.connect token, .opening⟩)
    (count : status.failures = u.strikes) (bound : u.strikes ≤ policy.maxFailures)
    (dials : u.dials ≤ policy.maxFailures)
    (fits : Driver.Fits u policy.maxFailures status.exhausted stalled 0 (.fresh connected)) :
    ((l.withStatus status).startDriver call token connected).Budget policy u stalled := by
  have idle := guarded.idle_of_locked found rfl
  have new : ∀ (i : Nat) (d : Driver),
      ((l.withStatus status).startDriver call token connected).drivers[i]? = some d →
      l.drivers[i]? = some d ∨ d = .fresh policy token connected :=
    fun i d found => (getElem?_startDriver_cases found).imp_right fun new => h.given ▸ new.2
  refine ⟨h.given, ?_, count, bound, dials, ?_, ?_⟩
  · intro i d found
    rcases new i d found with old | rfl
    · exact h.policies i d old
    · rfl
  · intro other token' opening
    obtain ⟨opening, different⟩ := opening_of_setCall (l := l) (by simp) opening
    exact absurd (guarded.eq_of_locked found opening rfl rfl) different
  · intro i d found running
    rcases new i d found with old | rfl
    · exact idle.elim old running
    · exact fits

/-- A driver takes its turn. -/
theorem drive (h : l.Budget policy t stalled) (guarded : l.Guarded)
    (room : 1 ≤ policy.maxFailures) {now : Int} {draw : Float}
    (stalls : ∀ attempt < policy.maxFailures, policy.delay? attempt draw = none → stalled)
    {driver : Nat} {d : Driver}
    {event : DriverEvent} {incident : Option Incident} {turn : DriverTurn}
    (found : l.drivers[driver]? = some d) (takes : d.Takes l.status now draw event incident turn) :
    Budget policy (incident.toList.foldl Standing.note t) stalled
      { l with status := turn.status, drivers := l.drivers.set driver turn.driver } := by
  obtain ⟨kept, samePolicy⟩ := takes.frame
  have policies : ∀ (i : Nat) (d' : Driver), (l.drivers.set driver turn.driver)[i]? = some d' →
      d'.backoff.policy = policy := by
    intro i d' found'
    rcases getElem?_set_cases found' with ⟨-, rfl⟩ | ⟨-, before⟩
    · exact samePolicy.trans (h.policies driver d found)
    · exact h.policies i d' before
  cases running : d.cancelled with
  | true =>
    obtain ⟨rfl, same, given⟩ := takes.of_cancelled running
    refine ⟨h.given, policies, same.trans h.count, h.bound, h.dials, h.calling, ?_⟩
    intro i d' found' running'
    rcases getElem?_set_cases found' with ⟨-, rfl⟩ | ⟨-, before⟩
    · rw [kept, running] at running'
      cases running'
    · exact (h.driving i d' before running').mono given id
  | false =>
    have limit := h.policies driver d found
    have paced : d.Paced l.status t stalled := by
      refine ⟨h.count, ?_, ?_, ?_⟩ <;> rw [limit]
      · exact h.bound
      · exact h.dials
      · exact h.driving driver d found running
    have after := paced.takes running (limit ▸ room) (limit ▸ stalls) takes
    have limit' : turn.driver.backoff.policy = policy := samePolicy.trans limit
    refine ⟨h.given, policies, after.count, limit' ▸ after.bound, limit' ▸ after.dials, ?_, ?_⟩
    · -- A call would have the lock, and the driver would have been told to stop.
      exact fun call token opening => (guarded.idle_of_locked opening rfl).elim found running
    · intro i d' found' running'
      rcases getElem?_set_cases found' with ⟨-, rfl⟩ | ⟨different, before⟩
      · exact limit' ▸ after.fits
      · have owner := guarded.alone i d' before running'
        rw [guarded.alone driver d found running, Option.some.injEq] at owner
        exact absurd owner.symm different

/-- **Every move keeps it.** -/
theorem of_goes (h : l.Budget policy t stalled) (guarded : l.Guarded)
    (room : 1 ≤ policy.maxFailures) {now : Int} {draw : Float}
    (stalls : ∀ attempt < policy.maxFailures, policy.delay? attempt draw = none → stalled)
    {event : LinkEvent} {incidents : List Incident} {turn : LinkTurn}
    (goes : l.Goes now draw event incidents turn) :
    turn.link.Budget policy (incidents.foldl Standing.note t) stalled := by
  cases goes with
  | calls =>
    exact { h with
      calling := fun call token found =>
        h.calling call token (getElem?_of_append_locking rfl found) }
  | @dials call _ found next idle =>
    have seized : (l.seize call).Budget policy t stalled := { h with }
    exact seized.beginOpening room (guarded.idle idle) call
  | replaces found next busy =>
    refine h.of_cancel rfl rfl rfl (guarded.idle_cancel busy rfl) ?_
    exact fun _ _ opening => (opening_of_setCall (by simp) opening).1
  | @redials call _ _ found ended =>
    exact h.beginOpening room (guarded.idle_of_locked found rfl) call
  | closes found next idle =>
    refine ⟨h.given, h.policies, ?_, h.bound, h.dials, ?_, ?_⟩
    · exact (l.status.failures_setState _).trans h.count
    · exact fun call token opening =>
        h.calling call token (opening_of_setCall (l := l) (by simp) opening).1
    · exact fun _ _ before running => (guarded.idle idle).elim before running
  | stops found next busy =>
    refine h.of_cancel rfl rfl rfl (guarded.idle_cancel busy rfl) ?_
    exact fun _ _ opening => (opening_of_setCall (by simp) opening).1
  | returns found _ =>
    refine ⟨h.given, h.policies, ?_, h.bound, h.dials, ?_, ?_⟩
    · exact (l.status.failures_setState _).trans h.count
    · exact fun call token opening => h.calling call token (opening_of_setCall (by simp) opening).1
    · intro i d before running
      have fits := h.driving i d before running
      exact fits.mono (fun given => (l.status.exhausted_setState _).trans given) id
  | @connects call token found =>
    obtain ⟨accepted, none, first⟩ := h.calling call token found
    have below : t.strikes < policy.maxFailures := by omega
    have made : t.dials ≤ t.strikes + 1 := by omega
    have counted : (l.status.setState .connected).1.failures = t.strikes :=
      (l.status.failures_setState _).trans h.count
    exact h.startDriver guarded found counted h.bound h.dials
      ⟨rfl, accepted, below, made, Nat.zero_le _⟩
  | @fails call token error found retryable =>
    obtain ⟨accepted, none, first⟩ := h.calling call token found
    have counted : (l.status.attemptFailed error).1.failures = t.strikes + 1 := by
      simp [retryable, h.count]
    have bound : t.strikes + 1 ≤ policy.maxFailures := by omega
    rw [List.foldl_cons, Standing.note_refused retryable]
    exact h.startDriver guarded found counted bound h.dials
      ⟨accepted, bound, by simp; omega, Nat.zero_le _⟩
  | @rejected call token error found final =>
    have counted : (l.status.attemptFailed error).1.failures = t.strikes := by
      simp [final, h.count]
    rw [List.foldl_cons, Standing.note_rejected final]
    refine ⟨h.given, h.policies, counted, h.bound, h.dials, ?_, ?_⟩
    · intro other token' opening
      obtain ⟨opening, different⟩ := opening_of_setCall (l := l) (by simp) opening
      exact absurd (guarded.eq_of_locked found opening rfl rfl) different
    · exact fun _ _ before running => (guarded.idle_of_locked found rfl).elim before running
  | drives found takes => exact h.drive guarded room stalls found takes
  | waits => exact h

end Budget

theorem budget_run (policy : BackoffPolicy) (room : 1 ≤ policy.maxFailures)
    (ms : List LinkMove) :
    ((initial policy).run ms).Budget policy (standing ((initial policy).record ms))
      (policy.Stalls ms) := by
  induction ms using List.reverseRecOn with
  | nil => exact budget_initial policy _
  | append_singleton ms m ih =>
    have stalls : ∀ attempt < policy.maxFailures, policy.delay? attempt m.draw = none →
        policy.Stalls (ms ++ [m]) :=
      fun attempt below none => ⟨m, by simp, attempt, below, none⟩
    have more : policy.Stalls ms → policy.Stalls (ms ++ [m]) := by
      rintro ⟨m', mem, attempt, below, none⟩
      exact ⟨m', List.mem_append_left _ mem, attempt, below, none⟩
    rw [run_concat, record_concat, standing_append]
    exact (ih.mono more).of_goes (guarded_run policy ms) room stalls (goes _ m.event m.now m.draw)

/-- A driver attempts to open a connection at the end of a delay. -/
theorem dialled_mem_incidents_iff {i : Nat} {event : DriverEvent} {now : Int} :
    .dialled ∈ l.incidents (.driver i event) now ↔
      event = .rested ∧ ∃ d delay, l.drivers[i]? = some d ∧ d.cancelled = false ∧
        d.stage = .pausing delay := by
  constructor
  · intro made
    obtain ⟨d, found, made⟩ :
        ∃ d, l.drivers[i]? = some d ∧ d.incident? event now = some .dialled := by
      simpa [incidents, Option.bind_eq_some_iff] using made
    have takes := d.takes l.status now 0 event
    rw [made] at takes
    generalize d.handle event l.status now 0 = turn at takes
    cases takes with
    | dials stage running => exact ⟨rfl, d, _, found, running, stage⟩
  · rintro ⟨rfl, d, delay, found, running, stage⟩
    simp [incidents, found, Driver.incident?, stage, running]

/-- A driver that goes on ends in the error state, unless it could go on. -/
theorem Goes.state_of_ended {now : Int} {draw : Float} {event : LinkEvent}
    {incidents : List Incident} {turn : LinkTurn} (goes : l.Goes now draw event incidents turn)
    {i : Nat} {d d' : Driver} (before : l.drivers[i]? = some d) (going : d.isEnded = false)
    (after : turn.link.drivers[i]? = some d') (running : d'.cancelled = false)
    (ended : d'.isEnded = true) :
    turn.link.status.state = .error ∨ turn.link.status.failures < d.backoff.policy.maxFailures := by
  rcases goes.driver before with ⟨event, incident, own, takes, kept, status⟩ | ⟨cancelled, kept⟩
  · obtain rfl := Option.some.inj (after.symm.trans kept)
    rw [status]
    exact takes.state_of_ended (takes.frame.1 ▸ running) going ended
  · obtain rfl := Option.some.inj (after.symm.trans kept)
    rw [show d.isEnded = true from ended] at going
    cases going

/-- **How often a manager attempts to connect.** In every run, whatever the
attempts and the connections bring:

* the failures are the attempts that have failed since a call has cleared them
  or a connection has settled, and at most as many as the policy allows;
* a driver attempts to open a connection only when it was not told to stop, the
  token was not rejected, and fewer attempts have failed than the policy
  allows;
* and then it does so, as long as there is a delay whenever it asks for one: it
  has not ended, and when a delay is over it makes the attempt;
* when as many have failed, the driver ends in the error state, and the
  manager has given up;
* from a call until a connection settles there are at most as many attempts as
  the policy allows. -/
theorem attempts_run (policy : BackoffPolicy) (room : 1 ≤ policy.maxFailures)
    (ms : List LinkMove) :
    (((initial policy).run ms).status.failures = strikes ((initial policy).record ms) ∧
      strikes ((initial policy).record ms) ≤ policy.maxFailures) ∧
    (∀ i event now, .dialled ∈ ((initial policy).run ms).incidents (.driver i event) now →
      (∃ d, ((initial policy).run ms).drivers[i]? = some d ∧ d.cancelled = false) ∧
        rejected ((initial policy).record ms) = false ∧
        strikes ((initial policy).record ms) < policy.maxFailures) ∧
    (∀ (i : Nat) (d : Driver), ((initial policy).run ms).drivers[i]? = some d →
      d.cancelled = false → rejected ((initial policy).record ms) = false →
      strikes ((initial policy).record ms) < policy.maxFailures → ¬policy.Stalls ms →
      d.isEnded = false ∧ ∀ delay, d.stage = .pausing delay → ∀ now,
        ((initial policy).run ms).incidents (.driver i .rested) now = [.dialled]) ∧
    (∀ (i : Nat) (d : Driver), ((initial policy).run ms).drivers[i]? = some d →
      d.cancelled = false → strikes ((initial policy).record ms) = policy.maxFailures →
      d.stage ≠ .fresh false →
      d.isEnded = true ∧ ((initial policy).run ms).status.exhausted = true ∧
        ∀ (earlier : List LinkMove) (m : LinkMove) (d' : Driver), ms = earlier ++ [m] →
          ((initial policy).run earlier).drivers[i]? = some d' → d'.isEnded = false →
          ((initial policy).run ms).status.state = .error) ∧
    ∀ before after, (initial policy).record ms = before ++ .cleared :: after →
      (∀ i ∈ after, i.isSign = false) → .cleared ∉ after →
      after.countP (· = .dialled) ≤ policy.maxFailures := by
  have budget := budget_run policy room ms
  have fits := budget.driving
  refine ⟨⟨budget.count, budget.bound⟩, ?_, ?_, ?_, ?_⟩
  · intro i event now made
    obtain ⟨-, d, delay, found, running, stage⟩ := dialled_mem_incidents_iff.1 made
    have allows : Standing.Allows _ _ 0 _ := stage ▸ fits i d found running
    exact ⟨⟨d, found, running⟩, allows.accepted, allows.below⟩
  · intro i d found running accepted below flowing
    have goes_on : d.isEnded = false := by
      by_contra ended
      have stage : d.stage = .ended := by simpa [Driver.isEnded] using ended
      have ends : Standing.Ends _ _ _ _ := stage ▸ fits i d found running
      cases ends with
      | rejected final _ => exact absurd (final.symm.trans accepted) (by simp)
      | spent _ all _ => exact absurd all (Nat.ne_of_lt below)
      | stalled _ _ h => exact flowing h
    refine ⟨goes_on, fun delay stage now => ?_⟩
    simp [incidents, found, Driver.incident?, stage, running]
  · intro i d found running all begun
    have spent : d.stage = .ended ∧ ((initial policy).run ms).status.exhausted = true := by
      have fit := fits i d found running
      have stage : d.stage = .ended := by
        by_contra going
        exact absurd all (Nat.ne_of_lt (fit.below begun going))
      rw [stage] at fit
      cases fit with
      | rejected _ below | stalled _ below => exact absurd all (Nat.ne_of_lt below)
      | spent _ _ given => exact ⟨stage, given⟩
    have ended : d.isEnded = true := by simp [Driver.isEnded, spent.1]
    refine ⟨ended, spent.2, ?_⟩
    rintro earlier m d' rfl before going
    rw [run_concat] at found ⊢
    rcases (goes _ m.event m.now m.draw).state_of_ended before going found running ended with
      error | below
    · exact error
    · -- It could not go on: as many attempts have failed as the policy allows.
      rw [(budget_run policy room earlier).policies i d' before] at below
      have counted := run_concat _ earlier m ▸ budget.count
      exact absurd (counted.trans all) (Nat.ne_of_lt below)
  · intro before after record unsettled alone
    rw [← dials_append_cleared before unsettled alone, ← record]
    exact budget.dials

/-- A policy that allows one failure to be followed by an attempt. -/
def onceMore : BackoffPolicy :=
  { BackoffPolicy.standard with jitter := 0.0, maxFailures := 2 }

/-- A connection is opened, and lost before it has settled. -/
def lostAtOnce : List LinkMove :=
  [⟨.call (.connect "token"), 0, 0⟩, ⟨.proceed 0, 0, 0⟩, ⟨.answered 0 (.ok ()), 0, 0⟩,
    ⟨.driver 0 .begin, 0, 0⟩, ⟨.driver 0 .closed, 0, 0⟩]

/-- The connection of the next attempt is lost at once, too. -/
def lostAgain : List LinkMove :=
  lostAtOnce ++ [⟨.driver 0 .rested, 0, 0⟩, ⟨.driver 0 (.opened (.ok ())), 0, 0⟩,
    ⟨.driver 0 .closed, 0, 0⟩]

/-- When a connection was lost at once, another attempt is made. When its
connection is lost too, it was the last. -/
theorem attempts_run_lost :
    1 ≤ onceMore.maxFailures ∧ ¬onceMore.Stalls lostAtOnce ∧
      ((initial onceMore).run lostAtOnce).incidents (.driver 0 .rested) 0 = [.dialled] ∧
      ((initial onceMore).run lostAgain).status.failures = 2 ∧
      (∃ d, ((initial onceMore).run lostAgain).drivers[0]? = some d ∧ d.isEnded = true) ∧
      ((initial onceMore).run lostAgain).status.exhausted = true ∧
      ((initial onceMore).run lostAgain).status.state = .error ∧
      ((initial onceMore).record lostAgain).countP (· = .dialled) ≤ 2 := by
  have room : 1 ≤ onceMore.maxFailures := by decide
  have flowing : ¬onceMore.Stalls lostAtOnce := by
    have delays : ∀ m ∈ lostAtOnce, ∀ attempt < onceMore.maxFailures,
        onceMore.delay? attempt m.draw ≠ none := by decide +kernel
    rintro ⟨m, mem, attempt, below, lacking⟩
    exact delays m mem attempt below lacking
  have once : (initial onceMore).record lostAtOnce = [.cleared, .dialled, .opened, .lost] := by
    decide +kernel
  have twice : (initial onceMore).record lostAgain
      = [.cleared, .dialled, .opened, .lost, .dialled, .opened, .lost] := by decide +kernel
  -- The driver that waits after the first loss, and as it is before and after the second.
  obtain ⟨d, found, waits⟩ : ∃ d, ((initial onceMore).run lostAtOnce).drivers[0]? = some d ∧
      (!d.cancelled && d.stage = .pausing (.ofMillis 500)) = true :=
    (Option.any_eq_true _ _).1 (by decide +kernel)
  obtain ⟨reader, before, reads⟩ :
      ∃ d, ((initial onceMore).run (lostAgain.take 7)).drivers[0]? = some d ∧
        (!d.isEnded) = true :=
    (Option.any_eq_true _ _).1 (by decide +kernel)
  obtain ⟨last, after, running⟩ : ∃ d, ((initial onceMore).run lostAgain).drivers[0]? = some d ∧
      (!d.cancelled && d.stage ≠ .fresh false) = true :=
    (Option.any_eq_true _ _).1 (by decide +kernel)
  simp only [Bool.and_eq_true, Bool.not_eq_true', decide_eq_true_eq] at waits reads running
  obtain ⟨-, -, goes_on, -⟩ := attempts_run onceMore room lostAtOnce
  rw [once] at goes_on
  obtain ⟨-, dials⟩ := goes_on 0 d found waits.1 (by decide) (by decide) flowing
  obtain ⟨⟨counted, -⟩, -, -, stops, made⟩ := attempts_run onceMore room lostAgain
  rw [twice] at counted stops
  have all : strikes [.cleared, .dialled, .opened, .lost, .dialled, .opened, .lost]
      = onceMore.maxFailures := by decide
  obtain ⟨ended, given, error⟩ := stops 0 last after running.1 all running.2
  refine ⟨room, flowing, dials _ waits.2 0, counted.trans all, ⟨last, after, ended⟩, given,
    error (lostAgain.take 7) _ reader rfl before reads, ?_⟩
  rw [twice]
  exact made [] [.dialled, .opened, .lost, .dialled, .opened, .lost] twice (by decide) (by decide)

/-- A policy with delays of almost `2 ^ 64` seconds. -/
def endless : BackoffPolicy :=
  { BackoffPolicy.standard with
    baseDelay := .ofSecs (2 ^ 64 - 1), maxDelay := .ofSecs (2 ^ 64 - 1), jitter := 0.0 }

/-- The first attempt is refused. -/
def refusedAtOnce : List LinkMove :=
  [⟨.call (.connect "token"), 0, 0⟩, ⟨.proceed 0, 0, 0⟩,
    ⟨.answered 0 (.error (.transport "refused")), 0, 0⟩, ⟨.driver 0 .begin, 0, 0⟩]

/-- **Without a delay there is no other attempt**: as a double the delay is
rounded up to what no span can hold. The driver has ended, although it was not
told to stop, the token was not rejected and only one attempt has failed, and
the manager has not given up. -/
theorem ended_endless :
    1 ≤ endless.maxFailures ∧
      rejected ((initial endless).record refusedAtOnce) = false ∧
      strikes ((initial endless).record refusedAtOnce) < endless.maxFailures ∧
      (∃ d, ((initial endless).run refusedAtOnce).drivers[0]? = some d ∧
        d.cancelled = false ∧ d.isEnded = true) ∧
      ((initial endless).run refusedAtOnce).status.exhausted = false ∧
      ∀ event now,
        .dialled ∉ ((initial endless).run refusedAtOnce).incidents (.driver 0 event) now := by
  have record : (initial endless).record refusedAtOnce
      = [.cleared, .dialled, .refused (.transport "refused")] := by decide +kernel
  obtain ⟨d, found, stalled⟩ : ∃ d, ((initial endless).run refusedAtOnce).drivers[0]? = some d ∧
      (!d.cancelled && d.isEnded) = true :=
    (Option.any_eq_true _ _).1 (by decide +kernel)
  simp only [Bool.and_eq_true, Bool.not_eq_true'] at stalled
  refine ⟨by decide, record ▸ by decide, record ▸ by decide, ⟨d, found, stalled⟩,
    by decide +kernel, fun event now made => ?_⟩
  obtain ⟨-, d', delay, found', -, stage⟩ := dialled_mem_incidents_iff.1 made
  obtain rfl := Option.some.inj (found.symm.trans found')
  have ended : d.stage = .ended := by simpa [Driver.isEnded] using stalled.2
  rw [ended] at stage
  cases stage

end Link

end Liveboard
