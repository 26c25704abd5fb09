import Liveboard.Proofs.Channel.Attempts
import Liveboard.Proofs.Channel.Trace

/-!
# The manager at rest

Where calls do not overlap, three things bring the manager to rest: a call to
disconnect returns, an attempt is rejected, or a driver gives up. Whatever the
driver was doing, it has ended by then, and so have all others
(`Link.Halts.rests`). Until a call begins or goes on nothing can happen any more
(`Link.Rests.run`): timers, answers and frames come to drivers that have ended,
and these do not even notice.

Calls that are under way when the manager comes to rest may go on. None of them
waits for the answer to an attempt, since the state would be another then, so
each is waiting for the lock or for the end of a driver; such a manager is
*dormant*. `Link.Dormant.run` says what comes of it as long as no further call
begins. Calls to disconnect do nothing but return, and at most change the state.
A call to connect gets as far as its attempt, and what it does after that is no
longer a matter of rest.
-/

namespace Liveboard

namespace ChannelStatus

variable (c : ChannelStatus)

@[simp] theorem exhausted_receive (text : String) (now : Int) :
    (c.receive text now).1.exhausted = c.exhausted := by
  unfold receive
  split <;> rfl

@[simp] theorem exhausted_attemptFailed (error : ChannelError) :
    (c.attemptFailed error).1.exhausted = c.exhausted := by
  unfold attemptFailed
  dsimp only
  rw [exhausted_setState]
  split <;> rfl

/-- **What a call to disconnect may still do to the status**: nothing, or the channel
becomes disconnected, which is told. -/
inductive Quits (c : ChannelStatus) : ChannelStatus → List ChannelNotice → Prop where
  /-- Nothing. -/
  | stays : Quits c c []
  /-- The channel becomes disconnected. -/
  | closes : Quits c (c.setState .disconnected).1 (c.setState .disconnected).2

variable {c} {c' c'' : ChannelStatus} {told more : List ChannelNotice}

/-- A channel that is disconnected does not change by it. -/
theorem Quits.eq_of_disconnected (h : c.Quits c' told) (down : c.state = .disconnected) :
    c' = c ∧ told = [] := by
  cases h with
  | stays => exact ⟨rfl, rfl⟩
  | closes =>
    rw [show c.setState .disconnected = (c, []) from if_pos down]
    exact ⟨rfl, rfl⟩

/-- It becomes disconnected once. -/
theorem Quits.trans (h : c.Quits c' told) (h' : c'.Quits c'' more) :
    c.Quits c'' (told ++ more) := by
  cases h with
  | stays => exact h'
  | closes =>
    obtain ⟨rfl, rfl⟩ := h'.eq_of_disconnected (c.state_setState _)
    rw [List.append_nil]
    exact .closes

end ChannelStatus

namespace Driver

variable {d : Driver} {c : ChannelStatus} {now : Int} {draw : Float} {event : DriverEvent}
  {incident : Option Incident} {turn : DriverTurn}

/-- A driver to which something happens has not ended. -/
theorem Takes.isEnded_eq_false (takes : d.Takes c now draw event incident turn)
    (some : incident = none → turn ≠ ⟨c, d, []⟩) : d.isEnded = false := by
  by_contra finished
  have stage : d.stage = .ended := by simpa [isEnded] using finished
  obtain ⟨none, same⟩ := takes.of_ended stage
  exact some none same

/-- A driver that gives up has ended, and the channel is in the error state. -/
theorem Resumes.of_exhausted (h : d.Resumes c draw turn) (before : c.exhausted = false)
    (after : turn.status.exhausted = true) :
    turn.driver.stage = .ended ∧ turn.status.state = .error := by
  cases h with
  | givesUp => exact ⟨rfl, c.state_giveUp⟩
  | pauses | stalls =>
    rw [before] at after
    cases after

theorem Takes.of_exhausted (takes : d.Takes c now draw event incident turn)
    (before : c.exhausted = false) (after : turn.status.exhausted = true) :
    turn.driver.stage = .ended ∧ turn.status.state = .error := by
  cases takes with
  | begins | outlives | drops | stops | waits => exact absurd (before.symm.trans after) (by simp)
  | @reads settled =>
    have same : (if settled then c else c.settle).exhausted = c.exhausted := by split <;> rfl
    rw [ChannelStatus.exhausted_receive, same, before] at after
    cases after
  | dials | connects =>
    rw [ChannelStatus.exhausted_setState, before] at after
    cases after
  | seeks _ resumes => exact resumes.of_exhausted before after
  | @loses settled error _ _ _ _ resumes =>
    refine resumes.of_exhausted ?_ after
    rw [ChannelStatus.exhausted_setState]
    cases settled <;> exact before
  | fails _ _ _ resumes =>
    exact resumes.of_exhausted ((c.exhausted_attemptFailed _).trans before) after
  | rejected => exact ⟨rfl, c.state_attemptFailed _⟩

/-- A driver whose attempt is rejected has ended, and the channel is in the error state. -/
theorem Takes.of_refused (takes : d.Takes c now draw event incident turn) {error : ChannelError}
    (refused : incident = some (.refused error)) (final : error.isRetryable = false) :
    turn.driver.stage = .ended ∧ turn.status.state = .error := by
  cases takes with
  | fails _ _ retryable =>
    cases refused
    rw [final] at retryable
    cases retryable
  | rejected => exact ⟨rfl, c.state_attemptFailed _⟩
  | _ => cases refused

end Driver

namespace Link

variable {l : Link} {now : Int} {draw : Float} {event : LinkEvent} {incidents : List Incident}
  {turn : LinkTurn}

/-! ## What can happen at rest -/

/-- **The manager is at rest**: every driver has ended. -/
def Rests (l : Link) : Prop :=
  ∀ driver, l.hasEnded driver = true

/-- **Whether a move is one of calls**: a call begins, or one that is under way
goes on. -/
def isOfCall (l : Link) : LinkEvent → Bool
  | .call _ => true
  | .proceed call | .answered call _ => (l.calls[call]?).any (!·.isDone)
  | .driver _ _ => false

theorem Rests.stage_eq (h : l.Rests) {i : Nat} {d : Driver} (found : l.drivers[i]? = some d) :
    d.stage = .ended := by
  have ended := h i
  rw [hasEnded_of_getElem? found] at ended
  simpa [Driver.isEnded] using ended

/-- **At rest only calls can do anything.** -/
theorem Rests.goes (h : l.Rests) (goes : l.Goes now draw event incidents turn)
    (other : l.isOfCall event = false) : incidents = [] ∧ turn = ⟨l, []⟩ := by
  cases goes with
  | waits => exact ⟨rfl, rfl⟩
  | calls => cases other
  | dials found | replaces found | redials found | closes found | stops found | returns found
  | connects found | fails found | rejected found =>
    simp [isOfCall, found, Call.isDone] at other
  | drives found takes =>
    obtain ⟨rfl, rfl⟩ := takes.of_ended (h.stage_eq found)
    obtain ⟨inside, rfl⟩ := List.getElem?_eq_some_iff.1 found
    exact ⟨rfl, by rw [List.set_getElem_self]⟩

/-- **At rest nothing changes**, nothing is told and nothing comes about, in any
series of moves that are none of calls. -/
theorem Rests.run (h : l.Rests) {ms : List LinkMove}
    (others : ∀ m ∈ ms, l.isOfCall m.event = false) :
    l.run ms = l ∧ l.told ms = [] ∧ l.record ms = [] := by
  induction ms with
  | nil => exact ⟨rfl, rfl, rfl⟩
  | cons m ms ih =>
    obtain ⟨none, same⟩ := h.goes (l.goes m.event m.now m.draw) (others m List.mem_cons_self)
    have after : l.after m = l := congrArg LinkTurn.link same
    obtain ⟨run, told, record⟩ := ih fun m' mem => others m' (List.mem_cons_of_mem m mem)
    refine ⟨?_, ?_, ?_⟩
    · rw [run_cons, after, run]
    · rw [Link.told, after, told, same]
      rfl
    · rw [Link.record, after, record, none]
      rfl

/-! ## What calls under way still do -/

/-- **Whether a call to connect is under way.** -/
def Connecting (l : Link) : Prop :=
  ∃ (call : Nat) (c : Call),
    l.calls[call]? = some c ∧ c.isDone = false ∧ c.request ≠ .disconnect

/-- **The manager is dormant**: it is at rest, and no call waits for the answer to an
attempt. Calls may be under way, but all of them are still waiting for the lock or for
the end of a driver. -/
structure Dormant (l : Link) : Prop where
  /-- Every driver has ended. -/
  rests : l.Rests
  /-- No call attempts to open a connection. -/
  unasked : ∀ (call : Nat) (token : String), l.calls[call]? ≠ some ⟨.connect token, .opening⟩

/-- At rest the manager is dormant unless the channel is connecting. -/
theorem Aligned.dormant (aligned : l.Aligned) (rests : l.Rests)
    (down : l.status.state ≠ .connecting) : l.Dormant where
  rests := rests
  unasked := fun call token opening => down (aligned.calling call token opening)

/-- Calls to disconnect that move on are no calls to connect. -/
theorem Connecting.of_setCall {call : Nat} {before stage : CallStage}
    (found : l.calls[call]? = some ⟨.disconnect, before⟩)
    (h : (l.setCall call stage).Connecting) : l.Connecting := by
  obtain ⟨other, c, at_other, going, connect⟩ := h
  rw [getElem?_setCall] at at_other
  split at at_other
  · rename_i same
    rw [← same, found] at at_other
    cases at_other
    exact absurd rfl connect
  · exact ⟨other, c, at_other, going, connect⟩

/-- Unless a call begins, a call to connect that is under way was so before. -/
theorem Goes.connecting (goes : l.Goes now draw event incidents turn)
    (unasked : ∀ request, event ≠ .call request) (h : turn.link.Connecting) : l.Connecting := by
  cases goes with
  | calls => exact absurd rfl (unasked _)
  | dials found | replaces found | redials found | connects found | fails found
  | rejected found => exact ⟨_, _, found, rfl, nofun⟩
  | closes found | stops found | returns found => exact .of_setCall (l := l) found h
  | drives | waits => exact h

/-- A manager whose drivers have ended, as they had before, and whose calls make no new
attempt. -/
theorem Dormant.of_setCall (h : l.Dormant) {l' : Link} {call : Nat} {stage : CallStage}
    (elsewhere : stage ≠ .opening) (calls : l'.calls = (l.setCall call stage).calls)
    (ended : ∀ driver, l'.hasEnded driver = l.hasEnded driver) : l'.Dormant where
  rests := fun driver => (ended driver).trans (h.rests driver)
  unasked := by
    intro other token opening
    rw [calls] at opening
    exact h.unasked other token (opening_of_setCall elsewhere opening).1

/-- **What a move does while the manager is dormant**, if it does not begin a call: a call
to disconnect goes on, or one to connect gets as far as its attempt. -/
theorem Dormant.goes (h : l.Dormant) (goes : l.Goes now draw event incidents turn)
    (unasked : ∀ request, event ≠ .call request) :
    (incidents = [] ∧ turn.link.Dormant ∧ l.status.Quits turn.link.status turn.notices) ∨
      (incidents = [.cleared, .dialled] ∧ l.Connecting) := by
  cases goes with
  | calls => exact absurd rfl (unasked _)
  | dials found | redials found => exact .inr ⟨rfl, _, _, found, rfl, nofun⟩
  | replaces | stops =>
    refine .inl ⟨rfl, h.of_setCall (by simp) rfl ?_, .stays⟩
    exact l.hasEnded_cancel _
  | closes | returns => exact .inl ⟨rfl, h.of_setCall (by simp) rfl fun _ => rfl, .closes⟩
  | connects found | fails found | rejected found => exact absurd found (h.unasked _ _)
  | drives found takes =>
    obtain ⟨none, same⟩ := h.rests.goes (.drives found takes) rfl
    rw [none, same]
    exact .inl ⟨rfl, h, .stays⟩
  | waits => exact .inl ⟨rfl, h, .stays⟩

/-- **What calls under way still do once the manager is dormant**, in any series of moves
in which no call begins: all that may come of them is that the channel becomes
disconnected, unless one of them is a call to connect. What comes about first is then
that it clears the failures and makes an attempt. -/
theorem Dormant.run (h : l.Dormant) {ms : List LinkMove}
    (unasked : ∀ m ∈ ms, ∀ request, m.event ≠ .call request) :
    (l.record ms = [] ∧ l.status.Quits (l.run ms).status (l.told ms)) ∨
      (l.Connecting ∧ ∃ more, l.record ms = .cleared :: .dialled :: more) := by
  induction ms generalizing l with
  | nil => exact .inl ⟨rfl, .stays⟩
  | cons m ms ih =>
    have goes := l.goes m.event m.now m.draw
    have here := unasked m List.mem_cons_self
    rw [Link.record, Link.told, run_cons]
    rcases h.goes goes here with ⟨none, dormant, quits⟩ | ⟨dials, connecting⟩
    · rw [none]
      rcases ih dormant fun m' mem => unasked m' (List.mem_cons_of_mem m mem) with
        ⟨record, later⟩ | ⟨connecting, more, record⟩
      · exact .inl ⟨record, quits.trans later⟩
      · exact .inr ⟨goes.connecting here connecting, more, record⟩
    · exact .inr ⟨connecting, _, by rw [dials]; rfl⟩

/-! ## What brings the manager to rest -/

/-- **What brings the manager to rest**, and the state it is in then. -/
inductive Halts (l : Link) (m : LinkMove) : ChannelState → Prop where
  /-- A call to disconnect returns. -/
  | closes {call : Nat} {stage : CallStage} {error : Option ChannelError}
      (before : l.calls[call]? = some ⟨.disconnect, stage⟩) (going : ∀ error, stage ≠ .done error)
      (after : (l.after m).calls[call]? = some ⟨.disconnect, .done error⟩) : Halts l m .disconnected
  /-- An attempt is rejected. -/
  | rejected {error : ChannelError} (refused : .refused error ∈ l.incidents m.event m.now)
      (final : error.isRetryable = false) : Halts l m .error
  /-- The manager gives up. -/
  | spent (before : l.status.exhausted = false) (after : (l.after m).status.exhausted = true) :
      Halts l m .error

/-- Where every driver has ended but one, and this one ends, all have. -/
theorem Exclusive.rests_set (h : l.Exclusive) {l' : Link} {i : Nat} {d new : Driver}
    (found : l.drivers[i]? = some d) (going : d.isEnded = false) (ended : new.stage = .ended)
    (drivers : l'.drivers = l.drivers.set i new) : l'.Rests := by
  intro j
  cases found' : l'.drivers[j]? with
  | none => simp [hasEnded, found']
  | some d' =>
    rw [hasEnded_of_getElem? found']
    rcases getElem?_set_cases (drivers ▸ found') with ⟨-, rfl⟩ | ⟨other, before⟩
    · simp [Driver.isEnded, ended]
    · by_contra running
      have running : l.hasEnded j = false := by
        rw [hasEnded_of_getElem? before]
        simpa using running
      exact other (h.eq_of_not_ended running (hasEnded_of_getElem? found ▸ going))

/-- A call to disconnect is done once it is moved there. -/
theorem eq_of_setCall_done {call other : Nat} {stage stage' : CallStage}
    {error : Option ChannelError} (before : l.calls[call]? = some ⟨.disconnect, stage⟩)
    (going : ∀ error, stage ≠ .done error)
    (after : (l.setCall other stage').calls[call]? = some ⟨.disconnect, .done error⟩) :
    other = call ∧ stage' = .done error := by
  rw [getElem?_setCall, before] at after
  split at after
  · rename_i same
    cases after
    exact ⟨same, rfl⟩
  · cases after
    exact absurd rfl (going error)

/-- A call to disconnect returns once every driver has ended. -/
theorem Goes.rests_of_done (goes : l.Goes now draw event incidents turn) (exclusive : l.Exclusive)
    {call : Nat} {stage : CallStage} {error : Option ChannelError}
    (before : l.calls[call]? = some ⟨.disconnect, stage⟩) (going : ∀ error, stage ≠ .done error)
    (after : turn.link.calls[call]? = some ⟨.disconnect, .done error⟩) :
    turn.link.Rests ∧ turn.link.status.state = .disconnected := by
  cases goes with
  | calls =>
    have inside := (List.getElem?_eq_some_iff.1 before).1
    have after : (l.calls ++ [_])[call]? = _ := after
    rw [List.getElem?_append_left inside, before] at after
    cases after
    exact absurd rfl (going error)
  | dials | replaces | redials | stops =>
    cases (eq_of_setCall_done (l := l) before going after).2
  | connects found | fails found | rejected found =>
    obtain ⟨rfl, -⟩ := eq_of_setCall_done (l := l) before going after
    rw [before] at found
    cases found
  | closes found next idle =>
    exact ⟨exclusive.hasEnded_of_idle found idle, l.status.state_setState _⟩
  | returns found ended =>
    exact ⟨exclusive.hasEnded_of_stopped found ended, l.status.state_setState _⟩
  | drives | waits =>
    have after : l.calls[call]? = _ := after
    rw [before] at after
    cases after
    exact absurd rfl (going error)

/-- When an attempt is rejected, the driver that has made it ends; a call makes one
when every driver has ended. -/
theorem Goes.rests_of_refused (goes : l.Goes now draw event incidents turn)
    (exclusive : l.Exclusive) {error : ChannelError} (refused : .refused error ∈ incidents)
    (final : error.isRetryable = false) :
    turn.link.Rests ∧ turn.link.status.state = .error := by
  cases goes with
  | fails _ retryable =>
    cases List.mem_singleton.1 refused
    rw [final] at retryable
    cases retryable
  | rejected found =>
    exact ⟨exclusive.hasEnded_of_opening found, l.status.state_attemptFailed _⟩
  | drives found takes =>
    have incident := Option.mem_toList.1 refused
    obtain ⟨ended, state⟩ := takes.of_refused incident final
    have going := takes.isEnded_eq_false fun none => absurd (none.symm.trans incident) (by simp)
    exact ⟨exclusive.rests_set found going ended rfl, state⟩
  | calls | dials | replaces | redials | closes | stops | returns | connects | waits =>
    simp at refused

/-- When the manager gives up, the driver that has found it so ends. -/
theorem Goes.rests_of_exhausted (goes : l.Goes now draw event incidents turn)
    (exclusive : l.Exclusive) (before : l.status.exhausted = false)
    (after : turn.link.status.exhausted = true) :
    turn.link.Rests ∧ turn.link.status.state = .error := by
  have kept : ∀ status : ChannelStatus, status.exhausted = l.status.exhausted →
      status.exhausted = true → False := by
    intro status same given
    rw [same, before] at given
    cases given
  cases goes with
  | drives found takes =>
    obtain ⟨ended, state⟩ := takes.of_exhausted before after
    have going := takes.isEnded_eq_false fun _ same =>
      kept _ (congrArg (·.status.exhausted) same) after
    exact ⟨exclusive.rests_set found going ended rfl, state⟩
  | calls | replaces | stops | waits => exact (kept _ rfl after).elim
  | dials | redials =>
    have cleared := (l.status.clearFailures.exhausted_setState .connecting).symm.trans after
    cases cleared
  | closes | returns | connects => exact (kept _ (l.status.exhausted_setState _) after).elim
  | fails | rejected => exact (kept _ (l.status.exhausted_attemptFailed _) after).elim

/-- **What brings the manager to rest.** -/
theorem Halts.rests {m : LinkMove} {state : ChannelState} (h : l.Halts m state)
    (exclusive : l.Exclusive) : (l.after m).Rests ∧ (l.after m).status.state = state := by
  have goes := l.goes m.event m.now m.draw
  cases h with
  | closes before going after => exact goes.rests_of_done exclusive before going after
  | rejected refused final => exact goes.rests_of_refused exclusive refused final
  | spent before after => exact goes.rests_of_exhausted exclusive before after

/-- When a call to disconnect returns, no call to connect is under way. -/
theorem Halts.not_connecting {m : LinkMove} (h : l.Halts m .disconnected)
    (exclusive : l.Exclusive) : ¬ (l.after m).Connecting := by
  intro connecting
  cases h with
  | @closes call stage error before going after =>
  have unasked : ∀ request, m.event ≠ .call request := by
    -- A call that begins leaves the others as they are.
    intro request asks
    have inside := (List.getElem?_eq_some_iff.1 before).1
    rw [Link.after, asks] at after
    have after : (l.calls ++ [_])[call]? = _ := after
    rw [List.getElem?_append_left inside, before] at after
    cases after
    exact going error rfl
  obtain ⟨other, c, found, going', connect⟩ :=
    (l.goes m.event m.now m.draw).connecting unasked connecting
  have waits : Call.isDone ⟨.disconnect, stage⟩ = false := by
    unfold Call.isDone
    split
    · exact absurd ‹_› (going _)
    · rfl
  obtain rfl := exclusive.eq_of_going before found waits going'
  rw [before] at found
  cases found
  exact connect rfl

end Link

end Liveboard
