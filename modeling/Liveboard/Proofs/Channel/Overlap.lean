import Liveboard.Proofs.Channel.Guarded
import Liveboard.Proofs.Channel.Trace

/-!
# Where calls overlap

A call to disconnect gives the lock back before its driver has ended, and tells
that the channel is disconnected once it has. In between another call may have
opened a connection and started a driver of its own. So may a driver that was
told to stop before its first turn give up late. What these tell then says
nothing of the driver that is at work. Until the next state is told the state
of the channel is *disturbed* (`Link.isDisturbed`).

As long as it is not, the state fits what the driver of the session waits for,
whatever the calls do and however they overlap (`Link.coupled_run`). Drivers of
earlier sessions may linger, but once all calls have returned they have ended,
for every driver that was told to stop has a call that waits for its end
(`Link.ended_of_settled`). The second needs nothing of the first, and holds in
disturbed runs as well.
-/

namespace Liveboard

/-! ## The last state told -/

namespace ChannelStatus

/-- **The state is the last that was told**, and the old one where none was. -/
def Shows (c c' : ChannelStatus) (notices : List ChannelNotice) : Prop :=
  c'.state = (notices.filterMap ChannelNotice.state?).getLastD c.state

variable {c c' c'' : ChannelStatus} {notices more : List ChannelNotice}

/-- Where no state is told it stays. -/
theorem Shows.state_eq (h : c.Shows c' notices)
    (silent : notices.filterMap ChannelNotice.state? = []) : c'.state = c.state := by
  rw [Shows, silent] at h
  exact h

theorem Shows.append (h : c.Shows c' notices) (h' : c'.Shows c'' more) :
    c.Shows c'' (notices ++ more) := by
  rw [Shows, h, List.getLastD_eq_getLast?, List.getLastD_eq_getLast?] at h'
  rw [Shows, h', List.filterMap_append, List.getLastD_eq_getLast?, List.getLast?_append]
  cases (more.filterMap ChannelNotice.state?).getLast? <;> rfl

theorem shows_setState (c : ChannelStatus) (state : ChannelState) :
    c.Shows (c.setState state).1 (c.setState state).2 := by
  unfold setState
  split <;> rfl

theorem shows_attemptFailed (c : ChannelStatus) (error : ChannelError) :
    c.Shows (c.attemptFailed error).1 (c.attemptFailed error).2 := by
  have same : (if error.isRetryable then (c.recordError error).countFailure
      else c.recordError error).state = c.state := by split <;> rfl
  have shows' := shows_setState (if error.isRetryable then (c.recordError error).countFailure
    else c.recordError error) .error
  rwa [Shows, same] at shows'

theorem shows_receive (c : ChannelStatus) (text : String) (now : Int) :
    c.Shows (c.receive text now).1 (c.receive text now).2 := by
  unfold receive
  split <;> rfl

end ChannelStatus

namespace Driver

variable {d : Driver} {c : ChannelStatus} {now : Int} {draw : Float} {event : DriverEvent}
  {incident : Option Incident} {turn : DriverTurn}

theorem Resumes.shows (h : d.Resumes c draw turn) : c.Shows turn.status turn.notices := by
  cases h with
  | givesUp => exact ChannelStatus.shows_setState { c with exhausted := true } .error
  | pauses | stalls => rfl

theorem Takes.shows (takes : d.Takes c now draw event incident turn) :
    c.Shows turn.status turn.notices := by
  cases takes with
  | begins | outlives | drops | stops | waits => rfl
  | seeks _ resumes => exact resumes.shows
  | @reads settled text =>
    cases settled with
    | true => exact c.shows_receive text now
    | false => exact c.settle.shows_receive text now
  | @loses settled error _ turn _ _ resumes =>
    cases settled with
    | true => exact ((c.recordError error).shows_setState .disconnected).append resumes.shows
    | false =>
      exact ((c.recordError error).countFailure.shows_setState .disconnected).append resumes.shows
  | dials => exact c.shows_setState .connecting
  | connects => exact c.shows_setState .connected
  | @fails error _ _ _ _ resumes => exact (c.shows_attemptFailed error).append resumes.shows
  | @rejected error => exact c.shows_attemptFailed error

/-- An event is told by a driver that was not told to stop. -/
theorem Takes.running_of_told (takes : d.Takes c now draw event incident turn)
    (told : turn.notices.filterMap ChannelNotice.event? ≠ []) : d.cancelled = false := by
  rw [takes.books.told] at told
  cases takes with
  | reads _ running => exact running
  | _ => exact absurd rfl told

end Driver

/-- Whether a driver has nothing to do before its next attempt, if there is
one. -/
def DriverStage.isIdle : DriverStage → Bool
  | .pausing _ | .ended => true
  | .fresh _ | .reading _ | .opening => false

/-- While the channel is disconnected only such a driver fits. -/
theorem DriverStage.Fits.isIdle {stage : DriverStage} (h : stage.Fits .disconnected) :
    stage = .ended ∨ ∃ delay, stage = .pausing delay := by
  cases stage with
  | pausing delay => exact .inr ⟨delay, rfl⟩
  | ended => exact .inl rfl
  | fresh connected => cases connected <;> cases h
  | reading | opening => cases h

/-- Whether it is the turn of a driver in a move. -/
def LinkEvent.isTurnOf (i : Nat) : LinkEvent → Bool
  | .driver j _ => decide (j = i)
  | .call _ | .proceed _ | .answered _ _ => false

namespace Link

variable {l : Link} {now : Int} {draw : Float} {event : LinkEvent} {incidents : List Incident}
  {turn : LinkTurn}

/-- **The state of the channel is the last that was told.** -/
theorem Goes.shows (goes : l.Goes now draw event incidents turn) :
    l.status.Shows turn.link.status turn.notices := by
  cases goes with
  | calls | replaces | stops | waits => rfl
  | dials | redials => exact l.status.clearFailures.shows_setState .connecting
  | closes | returns => exact l.status.shows_setState .disconnected
  | connects => exact l.status.shows_setState .connected
  | fails | rejected => exact l.status.shows_attemptFailed _
  | drives _ takes => exact takes.shows

/-! ## Disturbances -/

/-- **Whether a move interferes** with the driver of the session: someone else
makes it while this driver is at work. -/
def interferes (l : Link) (event : LinkEvent) : Bool :=
  match l.session with
  | some i => !event.isTurnOf i && (l.drivers[i]?).any (!·.stage.isIdle)
  | none => false

/-- **Whether the last state told was told in a move that interferes**; `before`
says so of what was told before the run. -/
def isDisturbed (l : Link) (before : Bool) : List LinkMove → Bool
  | [] => before
  | m :: ms =>
    (l.after m).isDisturbed
      (if (l.handle m.event m.now m.draw).notices.filterMap ChannelNotice.state? = [] then before
        else l.interferes m.event) ms

/-- **The state fits what the driver of the session waits for.** Every other
driver was told to stop. -/
def Coupled (l : Link) : Prop :=
  ∀ (i : Nat) (d : Driver), l.drivers[i]? = some d → d.cancelled = false →
    d.stage.Fits l.status.state

/-- **Events are told while the channel is connected**, unless the state is
disturbed. -/
theorem Coupled.connected_of_told (h : l.Coupled) (goes : l.Goes now draw event incidents turn)
    (told : turn.notices.filterMap ChannelNotice.event? ≠ []) : l.status.state = .connected := by
  cases goes with
  | drives found takes =>
    obtain ⟨settled, stage⟩ := takes.reading_of_told told
    have fits := h _ _ found (takes.running_of_told told)
    rwa [stage] at fits
  | calls | replaces | stops | waits => exact absurd rfl told
  | dials | redials => exact absurd (l.status.clearFailures.events_setState _) told
  | closes | returns | connects => exact absurd (l.status.events_setState _) told
  | fails | rejected => exact absurd (l.status.events_attemptFailed _) told

/-! ## Drivers of earlier sessions -/

/-- Whether a call waits for the end of a driver. -/
def Awaits (l : Link) (i : Nat) : Prop :=
  ∃ (call : Nat) (request : Request), l.calls[call]? = some ⟨request, .stopping i⟩

/-- **A driver that was told to stop** has ended, or a call waits for its
end. -/
def Awaited (l : Link) : Prop :=
  ∀ (i : Nat) (d : Driver), l.drivers[i]? = some d → d.cancelled = true →
    d.stage = .ended ∨ l.Awaits i

/-- A call comes to another stage. Whoever waited for a driver still does, unless
it was this call. -/
theorem Awaits.of_setCall {i : Nat} (h : l.Awaits i) {l' : Link} {call : Nat} {stage : CallStage}
    (calls : l'.calls = (l.setCall call stage).calls) {c : Call} (found : l.calls[call]? = some c)
    (other : c.stage ≠ .stopping i) : l'.Awaits i := by
  obtain ⟨waiting, request, before⟩ := h
  refine ⟨waiting, request, ?_⟩
  rw [calls, getElem?_setCall, if_neg ?_]
  · exact before
  · rintro rfl
    obtain rfl := Option.some.inj (found.symm.trans before)
    exact other rfl

/-- A call that does not wait for a driver comes to another stage, or one that
waits for a driver that has ended. -/
theorem Awaited.setCall (h : l.Awaited) {l' : Link} {call : Nat} {stage : CallStage}
    (drivers : l'.drivers = l.drivers) (calls : l'.calls = (l.setCall call stage).calls) {c : Call}
    (found : l.calls[call]? = some c)
    (done : ∀ i, c.stage = .stopping i → l.hasEnded i = true) : l'.Awaited := by
  intro i d found' cancelled
  rw [drivers] at found'
  rcases h i d found' cancelled with ended | awaits
  · exact .inl ended
  · by_cases here : c.stage = .stopping i
    · have ended := done i here
      rw [hasEnded_of_getElem? found'] at ended
      exact .inl (by simpa [Driver.isEnded] using ended)
    · exact .inr (awaits.of_setCall calls found here)

/-- A call tells a driver to stop and waits for its end. -/
theorem Awaited.cancel (h : l.Awaited) {l' : Link} {call driver : Nat} {request : Request}
    (drivers : l'.drivers = (l.cancel driver).drivers)
    (calls : l'.calls = (l.setCall call (.stopping driver)).calls)
    (found : l.calls[call]? = some ⟨request, .locking⟩) : l'.Awaited := by
  intro i d found' cancelled
  obtain ⟨old, before, rfl⟩ := getElem?_cancel_cases (drivers ▸ found')
  by_cases this : driver = i
  · subst this
    refine .inr ⟨call, request, ?_⟩
    rw [calls, getElem?_setCall, if_pos rfl, found]
    rfl
  · rcases h i old before (by simpa [this] using cancelled) with ended | awaits
    · exact .inl ended
    · exact .inr (awaits.of_setCall calls found (by simp))

/-- A call starts a driver. -/
theorem Awaited.startDriver (h : l.Awaited) {status : ChannelStatus} {call : Nat} {token : String}
    {connected : Bool} (found : l.calls[call]? = some ⟨.connect token, .opening⟩) :
    ((l.withStatus status).startDriver call token connected).Awaited := by
  intro i d found' cancelled
  rcases getElem?_startDriver_cases found' with old | ⟨-, rfl⟩
  · rcases h i d old cancelled with ended | awaits
    · exact .inl ended
    · have calls : ((l.withStatus status).startDriver call token connected).calls
          = (l.setCall call (.done none)).calls := rfl
      exact .inr (awaits.of_setCall calls found (by simp))
  · cases cancelled

/-- **Every move keeps it.** -/
theorem Awaited.of_goes (h : l.Awaited) (goes : l.Goes now draw event incidents turn) :
    turn.link.Awaited := by
  cases goes with
  | waits => exact h
  | calls =>
    intro i d found cancelled
    rcases h i d found cancelled with ended | ⟨call, request, before⟩
    · exact .inl ended
    · have inside := (List.getElem?_eq_some_iff.1 before).1
      exact .inr ⟨call, request, List.getElem?_append_left inside ▸ before⟩
  | dials found | closes found => exact h.setCall rfl rfl found fun _ other => by cases other
  | replaces found | stops found => exact h.cancel rfl rfl found
  | redials found ended | returns found ended =>
    exact h.setCall rfl rfl found fun _ this => CallStage.stopping.inj this ▸ ended
  | connects found | fails found => exact h.startDriver found
  | rejected found => exact h.setCall rfl rfl found fun _ other => by cases other
  | @drives driver d name incident own found takes =>
    intro i d' found' cancelled
    rcases getElem?_set_cases found' with ⟨rfl, rfl⟩ | ⟨-, before⟩
    · rcases h i d found (takes.frame.1 ▸ cancelled) with ended | awaits
      · exact .inl ((takes.of_ended ended).2 ▸ ended)
      · exact .inr awaits
    · exact h i d' before cancelled

end Link

end Liveboard
