import Mathlib.Data.List.Induction
import Liveboard.Channel.Link

/-!
# What a manager goes through

A run of the manager is a list of moves, whatever they are: calls may begin
and go on at any time, attempts may be answered in any way, and connections
may bring anything. A move that is not due does nothing.

What comes about on the channel is written down as a list of *incidents*: an
attempt was made, it succeeded or failed, a frame was read, a connection was
lost. The record of a run (`Link.record`) is the list of its incidents, and
statements about what a manager counts are statements about its record.

The handlers are opened in this module only. `Driver.takes` and `Link.goes`
say all that a move can do, one case for each thing that can happen, with
what has to be so for it; an invariant is proved by going through the cases
of `Driver.Takes` and `Link.Goes`.
-/

namespace Liveboard

/-- **A move of the manager**, with its time and the place of a delay in its
band. -/
structure LinkMove where
  /-- What happens. -/
  event : LinkEvent
  /-- When it happens, in milliseconds. -/
  now : Int
  /-- The place of a delay in its band. -/
  draw : Float

/-- **What came about on the channel.** -/
inductive Incident where
  /-- A call to connect has cleared the failures. -/
  | cleared
  /-- A call or a driver attempts to open a connection. -/
  | dialled
  /-- The attempt has succeeded. -/
  | opened
  /-- The attempt has failed. -/
  | refused (error : ChannelError)
  /-- A text frame was read, at a time. -/
  | frame (text : String) (time : Int)
  /-- The connection brought something that is no frame. -/
  | garbled
  /-- The connection has lasted as long as the longest delay. -/
  | outlived
  /-- The connection was lost. -/
  | lost
  deriving DecidableEq

namespace ChannelStatus

/-- After an attempt has failed the channel is in the error state. -/
@[simp] theorem state_attemptFailed (c : ChannelStatus) (error : ChannelError) :
    (c.attemptFailed error).1.state = .error :=
  state_setState _ _

/-- When the manager has given up the channel is in the error state. -/
@[simp] theorem state_giveUp (c : ChannelStatus) : c.giveUp.1.state = .error :=
  state_setState _ _

end ChannelStatus

namespace Incident

/-- What comes about when a connection brings something. -/
def ofItem (time : Int) : StreamItem → Incident
  | .text text => .frame text time
  | .fault (.decode _) => .garbled
  | .fault _ => .lost

/-- What comes about when an attempt is answered. -/
def ofAnswer : Except ChannelError Unit → Incident
  | .ok _ => .opened
  | .error error => .refused error

end Incident

namespace Driver

/-- **What comes about at an event of a driver**, if anything does. -/
def incident? (d : Driver) (event : DriverEvent) (now : Int) : Option Incident :=
  match event, d.stage, d.cancelled with
  | .outlived, .reading false, false => some .outlived
  | .item item, .reading _, false => some (.ofItem now item)
  | .closed, .reading _, false => some .lost
  | .rested, .pausing _, false => some .dialled
  | .opened result, .opening, false => some (.ofAnswer result)
  | _, _, _ => none

/-- **How a driver goes on without a connection.** -/
inductive Resumes (d : Driver) (c : ChannelStatus) (draw : Float) : DriverTurn → Prop where
  /-- It is out of attempts. -/
  | givesUp (spent : d.backoff.policy.maxFailures ≤ c.failures) :
      Resumes d c draw ⟨c.giveUp.1, d.finish, c.giveUp.2⟩
  /-- It waits before the next attempt. -/
  | pauses {delay : Span} (left : c.failures < d.backoff.policy.maxFailures)
      (after : d.backoff.policy.delay? d.backoff.attempt draw = some delay) :
      Resumes d c draw ⟨c, { d with backoff := d.backoff.advance, stage := .pausing delay }, []⟩
  /-- The delay is longer than any span. -/
  | stalls (left : c.failures < d.backoff.policy.maxFailures)
      (after : d.backoff.policy.delay? d.backoff.attempt draw = none) :
      Resumes d c draw ⟨c, { d with backoff := d.backoff.advance, stage := .ended }, []⟩

theorem resumes_retry (d : Driver) (c : ChannelStatus) (draw : Float) :
    d.Resumes c draw (d.retry c draw) := by
  unfold retry
  split
  · rename_i spent
    exact .givesUp spent
  · rename_i left
    rw [Nat.not_le] at left
    unfold Backoff.next
    cases after : d.backoff.policy.delay? d.backoff.attempt draw with
    | none => exact .stalls left after
    | some delay => exact .pauses left after

/-- **What an event of a driver can do**: the incident, and what comes of
it. -/
inductive Takes (d : Driver) (c : ChannelStatus) (now : Int) (draw : Float) :
    DriverEvent → Option Incident → DriverTurn → Prop where
  /-- It begins with the connection of the call that has started it. -/
  | begins (stage : d.stage = .fresh true) :
      Takes d c now draw .begin none ⟨c, { d with stage := .reading false }, []⟩
  /-- It begins without a connection. -/
  | seeks {turn : DriverTurn} (stage : d.stage = .fresh false) (resumes : d.Resumes c draw turn) :
      Takes d c now draw .begin none turn
  /-- Its connection settles with time. -/
  | outlives (stage : d.stage = .reading false) (running : d.cancelled = false) :
      Takes d c now draw .outlived (some .outlived)
        ⟨c.settle, { d with stage := .reading true }, []⟩
  /-- It reads a text frame. -/
  | reads {settled : Bool} {text : String} (stage : d.stage = .reading settled)
      (running : d.cancelled = false) :
      Takes d c now draw (.item (.text text)) (some (.frame text now))
        ⟨((if settled then c else c.settle).receive text now).1, { d with stage := .reading true },
          ((if settled then c else c.settle).receive text now).2⟩
  /-- It drops what is no frame. -/
  | drops {settled : Bool} {reason : String} (stage : d.stage = .reading settled)
      (running : d.cancelled = false) :
      Takes d c now draw (.item (.fault (.decode reason))) (some .garbled)
        ⟨c.dropFrame.1, d, c.dropFrame.2⟩
  /-- It loses its connection. -/
  | loses {settled : Bool} {error : ChannelError} {event : DriverEvent} {turn : DriverTurn}
      (stage : d.stage = .reading settled) (running : d.cancelled = false)
      (resumes : (if settled then { d with backoff := d.backoff.reset } else d).Resumes
        ((if settled then c.recordError error
          else (c.recordError error).countFailure).setState .disconnected).1 draw turn) :
      Takes d c now draw event (some .lost)
        { turn with notices := ((if settled then c.recordError error
            else (c.recordError error).countFailure).setState .disconnected).2 ++ turn.notices }
  /-- It makes an attempt. -/
  | dials {delay : Span} (stage : d.stage = .pausing delay) (running : d.cancelled = false) :
      Takes d c now draw .rested (some .dialled)
        ⟨(c.setState .connecting).1, { d with stage := .opening },
          .meter (.count .reconnectAttempts) :: (c.setState .connecting).2⟩
  /-- Its attempt has succeeded. -/
  | connects (stage : d.stage = .opening) (running : d.cancelled = false) :
      Takes d c now draw (.opened (.ok ())) (some .opened)
        ⟨(c.setState .connected).1, { d with stage := .reading false }, (c.setState .connected).2⟩
  /-- Its attempt has failed. -/
  | fails {error : ChannelError} {turn : DriverTurn} (stage : d.stage = .opening)
      (running : d.cancelled = false) (retryable : error.isRetryable = true)
      (resumes : d.Resumes (c.attemptFailed error).1 draw turn) :
      Takes d c now draw (.opened (.error error)) (some (.refused error))
        { turn with notices := (c.attemptFailed error).2 ++ turn.notices }
  /-- It was rejected. -/
  | rejected {error : ChannelError} (stage : d.stage = .opening) (running : d.cancelled = false)
      (final : error.isRetryable = false) :
      Takes d c now draw (.opened (.error error)) (some (.refused error))
        ⟨(c.attemptFailed error).1, d.finish, (c.attemptFailed error).2⟩
  /-- It notices that it was told to stop. -/
  | stops (cancelled : d.cancelled = true) : Takes d c now draw .noticed none ⟨c, d.finish, []⟩
  /-- The event does not fit. -/
  | waits {event : DriverEvent} : Takes d c now draw event none ⟨c, d, []⟩

theorem takes_lose {d : Driver} {settled : Bool} (c : ChannelStatus) (now : Int) (draw : Float)
    (event : DriverEvent) (error : ChannelError) (stage : d.stage = .reading settled)
    (running : d.cancelled = false) :
    d.Takes c now draw event (some .lost) (d.lose c settled error draw) :=
  .loses stage running (resumes_retry _ _ draw)

theorem takes_takeItem {d : Driver} {settled : Bool} (c : ChannelStatus) (now : Int)
    (draw : Float) (item : StreamItem) (stage : d.stage = .reading settled)
    (running : d.cancelled = false) :
    d.Takes c now draw (.item item) (some (.ofItem now item))
      (d.takeItem c settled item now draw) := by
  cases item with
  | text text => exact .reads stage running
  | fault error =>
    cases error with
    | decode reason => exact .drops stage running
    | transport | auth => exact takes_lose c now draw _ _ stage running

theorem takes_takeAnswer {d : Driver} (c : ChannelStatus) (now : Int) (draw : Float)
    (result : Except ChannelError Unit) (stage : d.stage = .opening)
    (running : d.cancelled = false) :
    d.Takes c now draw (.opened result) (some (.ofAnswer result))
      (d.takeAnswer c result draw) := by
  cases result with
  | ok _ => exact .connects stage running
  | error error =>
    unfold takeAnswer
    dsimp only
    split
    · rename_i retryable
      exact .fails stage running retryable (resumes_retry _ _ draw)
    · rename_i final
      exact .rejected stage running (by simpa using final)

/-- **What an event of a driver does.** -/
theorem takes (d : Driver) (c : ChannelStatus) (now : Int) (draw : Float) (event : DriverEvent) :
    d.Takes c now draw event (d.incident? event now) (d.handle event c now draw) := by
  obtain ⟨token, backoff, stage, cancelled⟩ := d
  cases event with
  | begin =>
    cases stage with
    | fresh connected =>
      cases connected with
      | true => exact .begins rfl
      | false => exact .seeks rfl (resumes_retry _ c draw)
    | _ => exact .waits
  | outlived =>
    cases stage with
    | reading settled =>
      cases settled with
      | true => exact .waits
      | false =>
        cases cancelled with
        | true => exact .waits
        | false => exact .outlives rfl rfl
    | _ => exact .waits
  | noticed =>
    cases cancelled with
    | false => cases stage <;> exact .waits
    | true =>
      cases stage with
      | reading | pausing | opening => exact .stops rfl
      | _ => exact .waits
  | item item =>
    -- From here on a driver that was told to stop does nothing.
    cases cancelled with
    | true => cases stage <;> exact .waits
    | false =>
      cases stage with
      | reading settled => exact takes_takeItem c now draw item rfl rfl
      | _ => exact .waits
  | closed =>
    cases cancelled with
    | true => cases stage <;> exact .waits
    | false =>
      cases stage with
      | reading settled => exact takes_lose c now draw _ closedByPeer rfl rfl
      | _ => exact .waits
  | rested =>
    cases cancelled with
    | true => cases stage <;> exact .waits
    | false =>
      cases stage with
      | pausing delay => exact .dials rfl rfl
      | _ => exact .waits
  | opened result =>
    cases cancelled with
    | true => cases stage <;> exact .waits
    | false =>
      cases stage with
      | opening => exact takes_takeAnswer c now draw result rfl rfl
      | _ => exact .waits

end Driver

namespace Link

/-- A call has the lock and takes the current session. -/
def seize (l : Link) (call : Nat) : Link :=
  { l with waiting := l.waiting.drop 1, holder := some call, session := none }

/-- The manager with another status. -/
def withStatus (l : Link) (status : ChannelStatus) : Link :=
  { l with status := status }

/-- Whether a call is the next to get the lock. -/
def isNext (l : Link) (call : Nat) : Bool :=
  l.holder = none ∧ l.waiting.head? = some call

/-- Whether a call attempts to open a connection when it goes on. -/
def isAboutToDial (l : Link) (call : Nat) : Bool :=
  match l.calls[call]? with
  | some ⟨.connect _, .locking⟩ => l.isNext call && l.session.isNone
  | some ⟨.connect _, .stopping driver⟩ => l.hasEnded driver
  | _ => false

/-- **What comes about at a move**, the first first. -/
def incidents (l : Link) (event : LinkEvent) (now : Int) : List Incident :=
  match event with
  | .call _ => []
  | .proceed call => if l.isAboutToDial call then [.cleared, .dialled] else []
  | .answered call result =>
    match l.calls[call]? with
    | some ⟨.connect _, .opening⟩ => [.ofAnswer result]
    | _ => []
  | .driver driver event => ((l.drivers[driver]?).bind (·.incident? event now)).toList

/-- **What a move can do**: what comes about, and what comes of it. -/
inductive Goes (l : Link) (now : Int) (draw : Float) :
    LinkEvent → List Incident → LinkTurn → Prop where
  /-- A call begins. -/
  | calls {request : Request} :
      Goes l now draw (.call request) []
        ⟨{ l with
            calls := l.calls ++ [⟨request, .locking⟩]
            waiting := l.waiting ++ [l.calls.length] }, []⟩
  /-- A call to connect gets the lock, and nothing is to be stopped. -/
  | dials {call : Nat} {token : String} (found : l.calls[call]? = some ⟨.connect token, .locking⟩)
      (next : l.isNext call = true) (idle : l.session = none) :
      Goes l now draw (.proceed call) [.cleared, .dialled] ((l.seize call).beginOpening call)
  /-- A call to connect gets the lock and tells the driver to stop. -/
  | replaces {call driver : Nat} {token : String}
      (found : l.calls[call]? = some ⟨.connect token, .locking⟩) (next : l.isNext call = true)
      (busy : l.session = some driver) :
      Goes l now draw (.proceed call) []
        ⟨((l.seize call).cancel driver).setCall call (.stopping driver), []⟩
  /-- A call to connect goes on once the driver has ended. -/
  | redials {call driver : Nat} {token : String}
      (found : l.calls[call]? = some ⟨.connect token, .stopping driver⟩)
      (ended : l.hasEnded driver = true) :
      Goes l now draw (.proceed call) [.cleared, .dialled] (l.beginOpening call)
  /-- A call to disconnect gets the lock, and nothing is to be stopped. -/
  | closes {call : Nat} (found : l.calls[call]? = some ⟨.disconnect, .locking⟩)
      (next : l.isNext call = true) (idle : l.session = none) :
      Goes l now draw (.proceed call) [] ((l.seize call).unlock.finishClosing call)
  /-- A call to disconnect gets the lock and tells the driver to stop. -/
  | stops {call driver : Nat} (found : l.calls[call]? = some ⟨.disconnect, .locking⟩)
      (next : l.isNext call = true) (busy : l.session = some driver) :
      Goes l now draw (.proceed call) []
        ⟨(((l.seize call).cancel driver).setCall call (.stopping driver)).unlock, []⟩
  /-- A call to disconnect returns once the driver has ended. -/
  | returns {call driver : Nat} (found : l.calls[call]? = some ⟨.disconnect, .stopping driver⟩)
      (ended : l.hasEnded driver = true) :
      Goes l now draw (.proceed call) [] (l.finishClosing call)
  /-- The attempt of a call has succeeded, and a driver starts with the
  connection. -/
  | connects {call : Nat} {token : String}
      (found : l.calls[call]? = some ⟨.connect token, .opening⟩) :
      Goes l now draw (.answered call (.ok ())) [.opened]
        ⟨(l.withStatus (l.status.setState .connected).1).startDriver call token true,
          (l.status.setState .connected).2⟩
  /-- The attempt of a call has failed, and a driver starts without a
  connection. -/
  | fails {call : Nat} {token : String} {error : ChannelError}
      (found : l.calls[call]? = some ⟨.connect token, .opening⟩)
      (retryable : error.isRetryable = true) :
      Goes l now draw (.answered call (.error error)) [.refused error]
        ⟨(l.withStatus (l.status.attemptFailed error).1).startDriver call token false,
          (l.status.attemptFailed error).2⟩
  /-- The call was rejected. -/
  | rejected {call : Nat} {token : String} {error : ChannelError}
      (found : l.calls[call]? = some ⟨.connect token, .opening⟩)
      (final : error.isRetryable = false) :
      Goes l now draw (.answered call (.error error)) [.refused error]
        ⟨((l.withStatus (l.status.attemptFailed error).1).setCall call (.done (some error))).unlock,
          (l.status.attemptFailed error).2⟩
  /-- A driver takes its turn. -/
  | drives {driver : Nat} {d : Driver} {event : DriverEvent} {incident : Option Incident}
      {turn : DriverTurn} (found : l.drivers[driver]? = some d)
      (takes : d.Takes l.status now draw event incident turn) :
      Goes l now draw (.driver driver event) incident.toList
        ⟨{ l with status := turn.status, drivers := l.drivers.set driver turn.driver },
          turn.notices⟩
  /-- The move is not due. -/
  | waits {event : LinkEvent} : Goes l now draw event [] ⟨l, []⟩

theorem goes_grant {l : Link} {call : Nat} {request : Request} (now : Int) (draw : Float)
    (found : l.calls[call]? = some ⟨request, .locking⟩) (next : l.isNext call = true) :
    l.Goes now draw (.proceed call) (l.incidents (.proceed call) now) (l.grant call request) := by
  simp only [incidents, isAboutToDial, found, next, Bool.true_and]
  unfold grant
  cases request with
  | connect token =>
    cases session : l.session with
    | none => exact .dials found next session
    | some driver => exact .replaces found next session
  | disconnect =>
    cases session : l.session with
    | none => exact .closes found next session
    | some driver => exact .stops found next session

theorem goes_proceed (l : Link) (call : Nat) (now : Int) (draw : Float) :
    l.Goes now draw (.proceed call) (l.incidents (.proceed call) now) (l.proceed call) := by
  unfold proceed
  split
  · rename_i request found
    split
    · rename_i next
      exact goes_grant now draw found (by simpa [isNext] using next)
    · rename_i other
      have : l.isAboutToDial call = false := by
        cases request <;> simp [isAboutToDial, found, isNext, other]
      simp only [incidents, this]
      exact .waits
  · rename_i token driver found
    simp only [incidents, isAboutToDial, found]
    split
    · rename_i ended
      exact .redials found ended
    · exact .waits
  · rename_i driver found
    simp only [incidents, isAboutToDial, found, Bool.false_eq_true, if_false]
    split
    · rename_i ended
      exact .returns found ended
    · exact .waits
  · rename_i noLock noConnect noDisconnect
    have : l.isAboutToDial call = false := by
      unfold isAboutToDial
      split
      · rename_i token found
        exact absurd found (noLock _)
      · rename_i token driver found
        exact absurd found (noConnect _ _)
      · rfl
    simp only [incidents, this]
    exact .waits

theorem goes_takeAnswer {l : Link} {call : Nat} {token : String} (now : Int) (draw : Float)
    (result : Except ChannelError Unit)
    (found : l.calls[call]? = some ⟨.connect token, .opening⟩) :
    l.Goes now draw (.answered call result) [.ofAnswer result]
      (l.takeAnswer call token result) := by
  cases result with
  | ok _ => exact .connects found
  | error error =>
    unfold takeAnswer
    dsimp only
    split
    · rename_i retryable
      exact .fails found retryable
    · rename_i final
      exact .rejected found (by simpa using final)

/-- **What a move does.** -/
theorem goes (l : Link) (event : LinkEvent) (now : Int) (draw : Float) :
    l.Goes now draw event (l.incidents event now) (l.handle event now draw) := by
  cases event with
  | call request => exact .calls
  | proceed call => exact l.goes_proceed call now draw
  | answered call result =>
    by_cases dialling : ∃ token, l.calls[call]? = some ⟨.connect token, .opening⟩
    · obtain ⟨token, found⟩ := dialling
      have taken : l.handle (.answered call result) now draw = l.takeAnswer call token result := by
        simp only [handle, found]
      have answer : l.incidents (.answered call result) now = [.ofAnswer result] := by
        simp only [incidents, found]
      rw [taken, answer]
      exact goes_takeAnswer now draw result found
    · have idle : l.handle (.answered call result) now draw = ⟨l, []⟩ := by
        unfold handle
        dsimp only
        split
        · rename_i token found
          exact absurd ⟨token, found⟩ dialling
        · rfl
      have none : l.incidents (.answered call result) now = [] := by
        unfold incidents
        dsimp only
        split
        · rename_i token found
          exact absurd ⟨token, found⟩ dialling
        · rfl
      rw [idle, none]
      exact .waits
  | driver driver event =>
    simp only [handle, incidents, drive]
    cases found : l.drivers[driver]? with
    | none => exact .waits
    | some d => exact .drives found (d.takes l.status now draw event)

/-! ## Runs -/

/-- The manager after a move. -/
def after (l : Link) (m : LinkMove) : Link :=
  (l.handle m.event m.now m.draw).link

/-- **The manager after a list of moves.** -/
def run (l : Link) (ms : List LinkMove) : Link :=
  ms.foldl after l

/-- **What is told in a run.** -/
def told (l : Link) : List LinkMove → List ChannelNotice
  | [] => []
  | m :: ms => (l.handle m.event m.now m.draw).notices ++ (l.after m).told ms

/-- **What comes about in a run**, the first first. -/
def record (l : Link) : List LinkMove → List Incident
  | [] => []
  | m :: ms => l.incidents m.event m.now ++ (l.after m).record ms

@[simp] theorem run_nil (l : Link) : l.run [] = l := rfl

@[simp] theorem run_cons (l : Link) (m : LinkMove) (ms : List LinkMove) :
    l.run (m :: ms) = (l.after m).run ms := rfl

theorem run_append (l : Link) (ms ns : List LinkMove) : l.run (ms ++ ns) = (l.run ms).run ns :=
  List.foldl_append

@[simp] theorem run_concat (l : Link) (ms : List LinkMove) (m : LinkMove) :
    l.run (ms ++ [m]) = (l.run ms).after m := by
  rw [run_append]
  rfl

theorem told_append (l : Link) (ms ns : List LinkMove) :
    l.told (ms ++ ns) = l.told ms ++ (l.run ms).told ns := by
  induction ms generalizing l with
  | nil => rfl
  | cons m ms ih => rw [List.cons_append, told, ih, told, List.append_assoc, run_cons]

@[simp] theorem record_nil (l : Link) : l.record [] = [] := rfl

theorem record_append (l : Link) (ms ns : List LinkMove) :
    l.record (ms ++ ns) = l.record ms ++ (l.run ms).record ns := by
  induction ms generalizing l with
  | nil => rfl
  | cons m ms ih => rw [List.cons_append, record, ih, record, List.append_assoc, run_cons]

@[simp] theorem record_concat (l : Link) (ms : List LinkMove) (m : LinkMove) :
    l.record (ms ++ [m]) = l.record ms ++ (l.run ms).incidents m.event m.now := by
  rw [record_append, record, record, List.append_nil]

end Link

end Liveboard
