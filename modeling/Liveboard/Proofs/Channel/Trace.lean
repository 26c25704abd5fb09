import Liveboard.Proofs.Channel.Exclusive
import Liveboard.Proofs.Channel.Guarded
import Liveboard.Proofs.Channel.Ledger

/-!
# The states in turn

Where calls do not overlap, the state of the channel fits what the owner of
the channel waits for: while an attempt is under way the channel is connecting,
while a driver reads it is connected, and while a driver waits for the next
attempt it is disconnected or in the error state. So of all the changes of
state only nine come about, and each is told.

A change of state need not be one move: a driver that loses its connection for
the last time tells of two. So what is kept is that the states told by a move
are a path from the state before it to the state after it (`Link.Goes.aligned`),
of changes that `ChannelState.leadsTo` allows, and `Link.Aligned`. Events are read
while the channel is connected, and so they are told then.
-/

namespace Liveboard

namespace ChannelState

/-- **The changes of state.** -/
def leadsTo : ChannelState → ChannelState → Bool
  | .disconnected, .connecting | .disconnected, .error => true
  | .connecting, .connected | .connecting, .error | .connecting, .disconnected => true
  | .connected, .disconnected | .connected, .connecting => true
  | .error, .connecting | .error, .disconnected => true
  | _, _ => false

/-- Every other state leads to connecting. -/
theorem leadsTo_connecting {s : ChannelState} (h : s ≠ .connecting) :
    s.leadsTo .connecting = true := by
  cases s <;> first | rfl | exact absurd rfl h

/-- Every other state leads to disconnected. -/
theorem leadsTo_disconnected {s : ChannelState} (h : s ≠ .disconnected) :
    s.leadsTo .disconnected = true := by
  cases s <;> first | rfl | exact absurd rfl h

/-- No state changes to itself. -/
theorem ne_of_leadsTo {s t : ChannelState} (h : s.leadsTo t = true) : s ≠ t := by
  rintro rfl
  cases s <;> cases h

/-- **A path**: the states that are told one after the other on the way from a
state to another. -/
def Path : ChannelState → List ChannelState → ChannelState → Prop
  | s, [], u => s = u
  | s, t :: told, u => s.leadsTo t = true ∧ Path t told u

namespace Path

variable {s t u : ChannelState} {told more : List ChannelState}

theorem refl (s : ChannelState) : s.Path [] s := rfl

theorem append (h : s.Path told t) (h' : t.Path more u) : s.Path (told ++ more) u := by
  induction told generalizing s with
  | nil => exact h ▸ h'
  | cons first told ih => exact ⟨h.1, ih h.2⟩

/-- A path is a chain of changes that ends in its last state. -/
theorem isChain (h : s.Path told u) :
    (s :: told).IsChain (fun a b => a.leadsTo b = true) ∧ (s :: told).getLast? = some u := by
  induction told generalizing s with
  | nil => exact ⟨.singleton s, congrArg some h⟩
  | cons t told ih =>
    obtain ⟨chain, last⟩ := ih h.2
    exact ⟨List.isChain_cons_cons.2 ⟨h.1, chain⟩, by rw [List.getLast?_cons_cons, last]⟩

end Path

end ChannelState

namespace ChannelStatus

/-- A change of state is told. -/
theorem path_setState (c : ChannelStatus) (state : ChannelState)
    (h : c.state ≠ state → c.state.leadsTo state = true) :
    c.state.Path ((c.setState state).2.filterMap ChannelNotice.state?) state := by
  unfold setState
  split
  · assumption
  · rename_i other
    exact ⟨h other, rfl⟩

/-- It is told that an attempt has failed. -/
theorem path_attemptFailed (c : ChannelStatus) (error : ChannelError)
    (opening : c.state = .connecting) :
    c.state.Path ((c.attemptFailed error).2.filterMap ChannelNotice.state?) .error := by
  have same : (if error.isRetryable then (c.recordError error).countFailure
      else c.recordError error).state = c.state := by split <;> rfl
  have path := path_setState (if error.isRetryable then (c.recordError error).countFailure
    else c.recordError error) .error fun _ => by rw [same, opening]; rfl
  rwa [same] at path

end ChannelStatus

namespace DriverStage

/-- **The state of the channel fits** what its owner waits for. -/
def Fits (state : ChannelState) : DriverStage → Prop
  | .fresh true | .reading _ => state = .connected
  | .fresh false => state = .error
  | .pausing _ => state = .disconnected ∨ state = .error
  | .opening => state = .connecting
  | .ended => True

end DriverStage

namespace Driver

variable {d : Driver} {c : ChannelStatus} {now : Int} {draw : Float}

/-- A driver that has lost its connection or failed goes on. -/
theorem Resumes.aligned {turn : DriverTurn} (h : d.Resumes c draw turn)
    (down : c.state = .disconnected ∨ c.state = .error) :
    c.state.Path (turn.notices.filterMap ChannelNotice.state?) turn.status.state ∧
      turn.driver.stage.Fits turn.status.state := by
  cases h with
  | givesUp =>
    have path := ChannelStatus.path_setState { c with exhausted := true } .error fun other => by
      rcases down with down | down
      · exact down ▸ rfl
      · exact absurd down other
    refine ⟨?_, trivial⟩
    simpa [ChannelStatus.giveUp] using path
  | pauses => exact ⟨rfl, down⟩
  | stalls => exact ⟨rfl, trivial⟩

/-- **What happens to the owner** tells a path, and the state fits again. -/
theorem Takes.aligned {event : DriverEvent} {incident : Option Incident} {turn : DriverTurn}
    (takes : d.Takes c now draw event incident turn) (fits : d.stage.Fits c.state) :
    c.state.Path (turn.notices.filterMap ChannelNotice.state?) turn.status.state ∧
      turn.driver.stage.Fits turn.status.state := by
  cases takes with
  | begins stage | outlives stage =>
    rw [stage] at fits
    exact ⟨rfl, fits⟩
  | seeks stage resumes =>
    rw [stage] at fits
    exact resumes.aligned (.inr fits)
  | @reads settled text stage =>
    rw [stage] at fits
    have same : (if settled then c else c.settle).state = c.state := by split <;> rfl
    have none : ((if settled then c else c.settle).receive text now).2.filterMap
        ChannelNotice.state? = [] := by
      unfold ChannelStatus.receive
      split <;> rfl
    rw [none, ChannelStatus.state_receive, same]
    exact ⟨rfl, fits⟩
  | drops => exact ⟨rfl, fits⟩
  | @loses settled error _ turn stage _ resumes =>
    rw [stage] at fits
    -- First it is told that the channel is disconnected, then what the driver goes on to.
    have same : (if settled then c.recordError error
        else (c.recordError error).countFailure).state = c.state := by split <;> rfl
    have lost := ChannelStatus.path_setState (if settled then c.recordError error
      else (c.recordError error).countFailure) .disconnected fun _ => by rw [same, fits]; rfl
    obtain ⟨path, fits'⟩ := resumes.aligned (.inl (ChannelStatus.state_setState _ _))
    rw [ChannelStatus.state_setState] at path
    rw [same] at lost
    exact ⟨List.filterMap_append ▸ lost.append path, fits'⟩
  | dials stage =>
    rw [stage] at fits
    have path := c.path_setState .connecting fun _ => by
      rcases fits with fits | fits <;> exact fits ▸ rfl
    rw [List.filterMap_cons_none rfl, ChannelStatus.state_setState]
    exact ⟨path, rfl⟩
  | connects stage =>
    rw [stage] at fits
    have path := c.path_setState .connected fun _ => by rw [fits]; rfl
    rw [ChannelStatus.state_setState]
    exact ⟨path, rfl⟩
  | @fails error turn stage _ retryable resumes =>
    rw [stage] at fits
    have failed := c.path_attemptFailed error fits
    obtain ⟨path, fits'⟩ := resumes.aligned (.inr (c.state_attemptFailed error))
    rw [ChannelStatus.state_attemptFailed] at path
    exact ⟨List.filterMap_append ▸ failed.append path, fits'⟩
  | @rejected error stage =>
    rw [stage] at fits
    rw [ChannelStatus.state_attemptFailed]
    exact ⟨c.path_attemptFailed error fits, trivial⟩
  | stops => exact ⟨rfl, trivial⟩
  | waits => exact ⟨rfl, fits⟩

/-- **To a driver that has ended nothing happens.** -/
theorem Takes.of_ended {event : DriverEvent} {incident : Option Incident} {turn : DriverTurn}
    (takes : d.Takes c now draw event incident turn) (ended : d.stage = .ended) :
    incident = none ∧ turn = ⟨c, d, []⟩ := by
  cases takes with
  | waits => exact ⟨rfl, rfl⟩
  | stops =>
    obtain ⟨token, backoff, stage, cancelled⟩ := d
    cases ended
    exact ⟨rfl, rfl⟩
  | drops stage | begins stage | seeks stage | outlives stage | reads stage | loses stage
  | dials stage | connects stage | fails stage | rejected stage =>
    exact absurd (ended.symm.trans stage) (by simp)

/-- An event is told of a frame that was read. -/
theorem Takes.reading_of_told {event : DriverEvent} {incident : Option Incident}
    {turn : DriverTurn} (takes : d.Takes c now draw event incident turn)
    (told : turn.notices.filterMap ChannelNotice.event? ≠ []) :
    ∃ settled, d.stage = .reading settled := by
  rw [takes.books.told] at told
  cases takes with
  | reads stage => exact ⟨_, stage⟩
  | _ => exact absurd rfl told

end Driver

namespace Link

variable {l : Link}

namespace Exclusive

/-- While a call is under way every driver has ended but the one whose end it
waits for. -/
theorem hasEnded_of_going (h : l.Exclusive) {call : Nat} {c : Call}
    (found : l.calls[call]? = some c) (going : c.isDone = false)
    (owner : ∀ driver, stageOwner? l.session c.stage = some driver → l.hasEnded driver = true)
    (driver : Nat) : l.hasEnded driver = true := by
  obtain ⟨earlier, calls, -⟩ := h.eq_last found going
  cases ended : l.hasEnded driver with
  | true => rfl
  | false => exact ended ▸ owner driver (owner?_of_concat calls ▸ h.ended driver ended)

/-- A call that has the lock while there is no session has nothing to stop. -/
theorem hasEnded_of_idle (h : l.Exclusive) {call : Nat} {request : Request}
    (found : l.calls[call]? = some ⟨request, .locking⟩) (idle : l.session = none)
    (driver : Nat) : l.hasEnded driver = true :=
  h.hasEnded_of_going found rfl (fun other owner => by
    rw [show stageOwner? l.session .locking = none from idle] at owner
    cases owner) driver

/-- A call has nothing else to stop than the driver whose end it waits for. -/
theorem hasEnded_of_stopped (h : l.Exclusive) {call driver : Nat} {request : Request}
    (found : l.calls[call]? = some ⟨request, .stopping driver⟩)
    (stopped : l.hasEnded driver = true) (other : Nat) : l.hasEnded other = true :=
  h.hasEnded_of_going found rfl (fun _ owner => Option.some.inj owner ▸ stopped) other

/-- A call that attempts to open a connection has stopped every driver. -/
theorem hasEnded_of_opening (h : l.Exclusive) {call : Nat} {request : Request}
    (found : l.calls[call]? = some ⟨request, .opening⟩) (driver : Nat) :
    l.hasEnded driver = true :=
  h.hasEnded_of_going found rfl (fun _ owner => by cases owner) driver

/-- One call is under way. -/
theorem eq_of_going (h : l.Exclusive) {call other : Nat} {c c' : Call}
    (found : l.calls[call]? = some c) (found' : l.calls[other]? = some c')
    (going : c.isDone = false) (going' : c'.isDone = false) : call = other := by
  obtain ⟨earlier, calls, rfl⟩ := h.eq_last found going
  obtain ⟨earlier', calls', rfl⟩ := h.eq_last found' going'
  have lengths := congrArg List.length (calls.symm.trans calls')
  simpa using lengths

/-- While a call is under way that makes no attempt to open a connection, none does. -/
theorem ne_opening (h : l.Exclusive) {call : Nat} {c : Call} (found : l.calls[call]? = some c)
    (going : c.isDone = false) (waits : c.stage ≠ .opening) (other : Nat) (token : String) :
    l.calls[other]? ≠ some ⟨.connect token, .opening⟩ := by
  intro opening
  obtain rfl := h.eq_of_going found opening going rfl
  rw [found] at opening
  cases opening
  exact waits rfl

/-- One driver has not ended. -/
theorem eq_of_not_ended (h : l.Exclusive) {i j : Nat} (going : l.hasEnded i = false)
    (going' : l.hasEnded j = false) : i = j :=
  Option.some.inj ((h.ended i going).symm.trans (h.ended j going'))

end Exclusive

theorem hasEnded_of_getElem? {i : Nat} {d : Driver} (found : l.drivers[i]? = some d) :
    l.hasEnded i = d.isEnded := by
  simp [hasEnded, found]

/-- **The state of the channel fits** what the owner of the channel waits
for. -/
structure Aligned (l : Link) : Prop where
  /-- A call that attempts to open a connection. -/
  calling : ∀ (call : Nat) (token : String), l.calls[call]? = some ⟨.connect token, .opening⟩ →
    l.status.state = .connecting
  /-- A driver. -/
  driving : ∀ (i : Nat) (d : Driver), l.drivers[i]? = some d → d.stage.Fits l.status.state

theorem aligned_initial (policy : BackoffPolicy) : (initial policy).Aligned where
  calling := by simp [initial]
  driving := by simp [initial]

/-- Where every driver has ended, any state fits. -/
theorem fits_of_ended {state : ChannelState} (ended : ∀ driver, l.hasEnded driver = true) {i : Nat}
    {d : Driver} (found : l.drivers[i]? = some d) : d.stage.Fits state := by
  have stage : d.stage = .ended := by
    have := ended i
    rw [hasEnded_of_getElem? found] at this
    simpa [Driver.isEnded] using this
  rw [stage]
  trivial

/-- A call attempts to open a connection once every driver has ended. -/
theorem aligned_beginOpening (ended : ∀ driver, l.hasEnded driver = true) (call : Nat) :
    l.status.state.Path ((l.beginOpening call).notices.filterMap ChannelNotice.state?)
        (l.beginOpening call).link.status.state ∧
      (l.beginOpening call).link.Aligned := by
  have after : (l.beginOpening call).link.status.state = .connecting :=
    ChannelStatus.state_setState _ _
  rw [after]
  refine ⟨l.status.clearFailures.path_setState .connecting ChannelState.leadsTo_connecting, ?_⟩
  exact ⟨fun _ _ _ => after, fun _ _ found => fits_of_ended ended found⟩

/-- A call to disconnect returns once every driver has ended. -/
theorem aligned_finishClosing (ended : ∀ driver, l.hasEnded driver = true) {call : Nat}
    (alone : ∀ (other : Nat) (token : String),
      l.calls[other]? ≠ some ⟨.connect token, .opening⟩) :
    l.status.state.Path ((l.finishClosing call).notices.filterMap ChannelNotice.state?)
        (l.finishClosing call).link.status.state ∧
      (l.finishClosing call).link.Aligned := by
  have after : (l.finishClosing call).link.status.state = .disconnected :=
    ChannelStatus.state_setState _ _
  rw [after]
  refine ⟨l.status.path_setState .disconnected ChannelState.leadsTo_disconnected, ?_⟩
  refine ⟨fun other token opening => ?_, fun _ _ found => fits_of_ended ended found⟩
  exact absurd (opening_of_setCall (l := l) (by simp) opening).1 (alone other token)

/-- A driver that is told to stop waits for what it has waited for. -/
theorem Aligned.cancel (h : l.Aligned) {driver : Nat} {l' : Link}
    (status : l'.status = l.status) (drivers : l'.drivers = (l.cancel driver).drivers)
    (calling : ∀ (call : Nat) (token : String),
      l'.calls[call]? = some ⟨.connect token, .opening⟩ →
      l.calls[call]? = some ⟨.connect token, .opening⟩) : l'.Aligned where
  calling := fun call token opening => status ▸ h.calling call token (calling call token opening)
  driving := by
    intro i d found
    obtain ⟨old, before, rfl⟩ := getElem?_cancel_cases (drivers ▸ found)
    exact status ▸ h.driving i old before

/-- A driver starts while every other has ended. -/
theorem aligned_startDriver (ended : ∀ driver, l.hasEnded driver = true) {call : Nat}
    (alone : ∀ (other : Nat) (token : String),
      l.calls[other]? = some ⟨.connect token, .opening⟩ → call = other)
    {status : ChannelStatus} {token : String} {connected : Bool}
    (fits : (DriverStage.fresh connected).Fits status.state) :
    ((l.withStatus status).startDriver call token connected).Aligned where
  calling := by
    intro other token' opening
    obtain ⟨before, different⟩ := opening_of_setCall (l := l) (by simp) opening
    exact absurd (alone other token' before) different
  driving := by
    intro i d found
    rcases getElem?_startDriver_cases found with old | ⟨-, rfl⟩
    · exact fits_of_ended ended old
    · exact fits

/-- **What a driver tells is a path.** It is the owner, or it has ended and tells
nothing. -/
theorem Exclusive.aligned_drive (exclusive : l.Exclusive) (h : l.Aligned) {now : Int}
    {draw : Float} {driver : Nat} {d : Driver} {event : DriverEvent} {incident : Option Incident}
    {turn : DriverTurn} (found : l.drivers[driver]? = some d)
    (takes : d.Takes l.status now draw event incident turn) :
    l.status.state.Path (turn.notices.filterMap ChannelNotice.state?) turn.status.state ∧
      Aligned { l with status := turn.status, drivers := l.drivers.set driver turn.driver } := by
  obtain ⟨path, fits⟩ := takes.aligned (h.driving driver d found)
  refine ⟨path, ?_⟩
  cases ended : d.isEnded with
  | true =>
    obtain ⟨-, none⟩ := takes.of_ended (by simpa [Driver.isEnded] using ended)
    have same := congrArg DriverTurn.status none
    refine ⟨fun call token opening => ?_, fun i d' found' => ?_⟩
    · exact same.symm ▸ h.calling call token opening
    · rcases getElem?_set_cases found' with ⟨-, rfl⟩ | ⟨-, before⟩
      · exact fits
      · exact same.symm ▸ h.driving i d' before
  | false =>
    -- The driver is the owner: no call makes an attempt, and the other drivers have ended.
    have going : l.hasEnded driver = false := hasEnded_of_getElem? found ▸ ended
    refine ⟨fun call token opening => ?_, fun i d' found' => ?_⟩
    · rw [exclusive.hasEnded_of_opening opening driver] at going
      cases going
    · rcases getElem?_set_cases found' with ⟨-, rfl⟩ | ⟨other, before⟩
      · exact fits
      · have stage : d'.stage = .ended := by
          by_contra h
          have open' : l.hasEnded i = false := by
            simpa [hasEnded_of_getElem? before, Driver.isEnded] using h
          exact other (exclusive.eq_of_not_ended open' going)
        rw [stage]
        trivial

/-- **What is told in a move is a path**, and the state fits again. -/
theorem Goes.aligned {now : Int} {draw : Float} {event : LinkEvent} {incidents : List Incident}
    {turn : LinkTurn} (goes : l.Goes now draw event incidents turn) (exclusive : l.Exclusive)
    (h : l.Aligned) :
    l.status.state.Path (turn.notices.filterMap ChannelNotice.state?) turn.link.status.state ∧
      turn.link.Aligned := by
  -- No call but the one under way attempts to open a connection.
  have alone : ∀ {call : Nat} {token : String}, l.calls[call]? = some ⟨.connect token, .opening⟩ →
      ∀ (other : Nat) (token : String), l.calls[other]? = some ⟨.connect token, .opening⟩ →
        call = other :=
    fun found other token opening => exclusive.eq_of_going found opening rfl rfl
  cases goes with
  | calls =>
    exact ⟨rfl, fun call token opening =>
      h.calling call token (getElem?_of_append_locking rfl opening), h.driving⟩
  | @dials call token found next idle =>
    exact aligned_beginOpening (l := l.seize call) (exclusive.hasEnded_of_idle found idle) call
  | @redials call driver token found stopped =>
    exact aligned_beginOpening (exclusive.hasEnded_of_stopped found stopped) call
  | @closes call found next idle =>
    exact aligned_finishClosing (l := (l.seize call).unlock)
      (exclusive.hasEnded_of_idle found idle) (exclusive.ne_opening found rfl nofun)
  | @returns call driver found stopped =>
    exact aligned_finishClosing (exclusive.hasEnded_of_stopped found stopped)
      (exclusive.ne_opening found rfl nofun)
  | replaces | stops =>
    exact ⟨rfl, h.cancel rfl rfl fun _ _ opening => (opening_of_setCall (by simp) opening).1⟩
  | @connects call token found =>
    have opening := h.calling call token found
    have path := l.status.path_setState .connected fun _ => by rw [opening]; rfl
    have after : (l.status.setState .connected).1.state = .connected :=
      ChannelStatus.state_setState _ _
    exact ⟨after.symm ▸ path,
      aligned_startDriver (exclusive.hasEnded_of_opening found) (alone found) after⟩
  | @fails call token error found retryable =>
    have path := l.status.path_attemptFailed error (h.calling call token found)
    have after := l.status.state_attemptFailed error
    exact ⟨after.symm ▸ path,
      aligned_startDriver (exclusive.hasEnded_of_opening found) (alone found) after⟩
  | @rejected call token error found final =>
    have path := l.status.path_attemptFailed error (h.calling call token found)
    have after := l.status.state_attemptFailed error
    refine ⟨after.symm ▸ path, fun other token' opening => ?_, fun _ _ before =>
      fits_of_ended (exclusive.hasEnded_of_opening found) before⟩
    obtain ⟨before, different⟩ := opening_of_setCall (l := l) (by simp) opening
    exact absurd (alone found other token' before) different
  | drives found takes => exact exclusive.aligned_drive h found takes
  | waits => exact ⟨rfl, h⟩

/-- **Events are told while the channel is connected.** -/
theorem Goes.connected_of_told {now : Int} {draw : Float} {event : LinkEvent}
    {incidents : List Incident} {turn : LinkTurn} (goes : l.Goes now draw event incidents turn)
    (h : l.Aligned) (told : turn.notices.filterMap ChannelNotice.event? ≠ []) :
    l.status.state = .connected := by
  cases goes with
  | drives found takes =>
    obtain ⟨settled, stage⟩ := takes.reading_of_told told
    have fits := h.driving _ _ found
    rwa [stage] at fits
  | calls | replaces | stops | waits => exact absurd rfl told
  | dials | redials => exact absurd (l.status.clearFailures.events_setState _) told
  | closes | returns | connects => exact absurd (l.status.events_setState _) told
  | fails | rejected => exact absurd (l.status.events_attemptFailed _) told

end Link

end Liveboard
