import Liveboard.Channel.Link

/-!
# What a move tells

Whatever the manager does is told by moves, each of which tells some meters,
some states and at most one event. A move that tells an event tells no state,
and the event has the next number; every other move leaves the numbers as they
are. `ChannelStatus.Tells` relates what is told to the status before and after,
and `Link.tells_handle` says that it holds of every move.

That the channel is connected is told in one way only: an attempt to open a
connection has succeeded, made by a call or by a driver (`Link.connected_told`).
-/

namespace Liveboard

namespace ChannelNotice

/-- The event that is told. -/
def event? : ChannelNotice → Option Event
  | .event e => some e
  | _ => none

/-- The state that is told. -/
def state? : ChannelNotice → Option ChannelState
  | .state s => some s
  | _ => none

end ChannelNotice

namespace ChannelStatus

/-- Nothing is told of events, and their number stays. -/
def Quiet (c c' : ChannelStatus) (notices : List ChannelNotice) : Prop :=
  notices.filterMap ChannelNotice.event? = [] ∧ c'.sequence = c.sequence

/-- **What is told**: no event, or the next one and no state. -/
inductive Tells (c c' : ChannelStatus) (notices : List ChannelNotice) : Prop
  | quiet (h : Quiet c c' notices)
  | next (event : Event) (states : notices.filterMap ChannelNotice.state? = [])
      (told : notices.filterMap ChannelNotice.event? = [event])
      (number : event.sequence = c.sequence + 1) (last : c'.sequence = event.sequence)

namespace Quiet

variable {c c' c'' : ChannelStatus} {notices more : List ChannelNotice}

theorem refl (c : ChannelStatus) : Quiet c c [] := ⟨rfl, rfl⟩

theorem append (h : Quiet c c' notices) (h' : Quiet c' c'' more) :
    Quiet c c'' (notices ++ more) := by
  refine ⟨?_, h'.2.trans h.2⟩
  rw [List.filterMap_append, h.1, h'.1, List.append_nil]

theorem cons_meter (h : Quiet c c' notices) (change : MeterChange) :
    Quiet c c' (.meter change :: notices) := h

end Quiet

/-- Only the number of the last event matters. -/
theorem Tells.of_sequence_eq {c₁ c c' : ChannelStatus} {notices : List ChannelNotice}
    (h : Tells c₁ c' notices) (same : c₁.sequence = c.sequence) : Tells c c' notices := by
  cases h with
  | quiet h => exact .quiet ⟨h.1, h.2.trans same⟩
  | next event states told number last => exact .next event states told (same ▸ number) last

theorem quiet_setState (c : ChannelStatus) (state : ChannelState) :
    Quiet c (c.setState state).1 (c.setState state).2 := by
  unfold setState
  split <;> exact ⟨rfl, rfl⟩

theorem quiet_attemptFailed (c : ChannelStatus) (error : ChannelError) :
    Quiet c (c.attemptFailed error).1 (c.attemptFailed error).2 := by
  have counted : (if error.isRetryable then (c.recordError error).countFailure
      else c.recordError error).sequence = c.sequence := by
    split <;> rfl
  obtain ⟨told, same⟩ := quiet_setState
    (if error.isRetryable then (c.recordError error).countFailure else c.recordError error) .error
  exact ⟨told, same.trans counted⟩

theorem tells_receive (c : ChannelStatus) (frame : String) (now : Int) :
    Tells c (c.receive frame now).1 (c.receive frame now).2 := by
  unfold receive
  split
  · exact .quiet ⟨rfl, rfl⟩
  · exact .next _ rfl rfl rfl rfl

/-- No other state is told than the new one. -/
theorem eq_of_mem_setState {c : ChannelStatus} {state told : ChannelState}
    (h : .state told ∈ (c.setState state).2) : told = state := by
  unfold setState at h
  split at h
  · cases h
  · simpa using h

/-- A frame is told as an event or not at all. -/
theorem state_not_mem_receive (c : ChannelStatus) (frame : String) (now : Int)
    (state : ChannelState) : .state state ∉ (c.receive frame now).2 := by
  unfold receive
  split <;> simp [dropFrame]

end ChannelStatus

namespace Driver

open ChannelStatus

variable (d : Driver) (c : ChannelStatus)

theorem quiet_retry (draw : Float) : Quiet c (d.retry c draw).status (d.retry c draw).notices := by
  unfold retry
  split
  · exact quiet_setState { c with exhausted := true } .error
  · split <;> exact .refl c

theorem quiet_lose (settled : Bool) (error : ChannelError) (draw : Float) :
    Quiet c (d.lose c settled error draw).status (d.lose c settled error draw).notices := by
  have counted : (if settled then c.recordError error
      else (c.recordError error).countFailure).sequence = c.sequence := by
    split <;> rfl
  obtain ⟨told, same⟩ := quiet_setState
    (if settled then c.recordError error else (c.recordError error).countFailure) .disconnected
  exact Quiet.append ⟨told, same.trans counted⟩ (quiet_retry _ _ draw)

theorem quiet_takeAnswer (result : Except ChannelError Unit) (draw : Float) :
    Quiet c (d.takeAnswer c result draw).status (d.takeAnswer c result draw).notices := by
  unfold takeAnswer
  cases result with
  | ok _ => exact quiet_setState c .connected
  | error error =>
    dsimp only
    split
    · exact (quiet_attemptFailed c error).append (quiet_retry _ _ draw)
    · exact quiet_attemptFailed c error

theorem tells_takeItem (settled : Bool) (item : StreamItem) (now : Int) (draw : Float) :
    Tells c (d.takeItem c settled item now draw).status
      (d.takeItem c settled item now draw).notices := by
  cases item with
  | text frame =>
    cases settled with
    | true => exact tells_receive c frame now
    | false => exact (tells_receive c.settle frame now).of_sequence_eq rfl
  | fault error =>
    cases error with
    | decode _ => exact .quiet ⟨rfl, rfl⟩
    | _ => exact .quiet (quiet_lose d c settled _ draw)

theorem tells_handle (event : DriverEvent) (now : Int) (draw : Float) :
    Tells c (d.handle event c now draw).status (d.handle event c now draw).notices := by
  unfold handle
  split
  · exact .quiet (.refl c)
  · exact .quiet (quiet_retry d c draw)
  · exact .quiet ⟨rfl, rfl⟩
  · exact tells_takeItem d c _ _ now draw
  · exact .quiet (quiet_lose d c _ _ draw)
  · exact .quiet ((quiet_setState c .connecting).cons_meter _)
  · exact .quiet (quiet_takeAnswer d c _ draw)
  all_goals exact .quiet (.refl c)

theorem connected_not_mem_retry (draw : Float) :
    .state .connected ∉ (d.retry c draw).notices := by
  intro h
  unfold retry at h
  split at h
  · cases eq_of_mem_setState h
  · split at h <;> cases h

theorem connected_not_mem_lose (settled : Bool) (error : ChannelError) (draw : Float) :
    .state .connected ∉ (d.lose c settled error draw).notices := by
  intro h
  rcases List.mem_append.1 h with h | h
  · cases eq_of_mem_setState h
  · exact connected_not_mem_retry _ _ draw h

variable {d c}

/-- A driver tells of a connection when its attempt has succeeded. -/
theorem connected_told {event : DriverEvent} {now : Int} {draw : Float}
    (h : .state .connected ∈ (d.handle event c now draw).notices) :
    d.stage = .opening ∧ d.cancelled = false ∧ event = .opened (.ok ()) := by
  unfold handle at h
  -- One case for each branch of the handler, in its order.
  split at h
  · cases h
  · exact absurd h (connected_not_mem_retry d c draw)
  · cases h
  · rename_i item settled stage running
    cases item with
    | text frame => exact absurd h (state_not_mem_receive _ frame now _)
    | fault error =>
      cases error with
      | decode reason => simp [takeItem, dropFrame] at h
      | transport | auth => exact absurd h (connected_not_mem_lose d c _ _ draw)
  · exact absurd h (connected_not_mem_lose d c _ _ draw)
  · rcases List.mem_cons.1 h with h | h
    · cases h
    · cases eq_of_mem_setState h
  · rename_i result opening running
    cases result with
    | ok _ => exact ⟨opening, running, rfl⟩
    | error error =>
      unfold takeAnswer at h
      dsimp only at h
      split at h
      · rcases List.mem_append.1 h with h | h
        · cases eq_of_mem_setState h
        · exact absurd h (connected_not_mem_retry _ _ draw)
      · cases eq_of_mem_setState h
  all_goals cases h

end Driver

namespace Link

open ChannelStatus

variable (l : Link)

theorem quiet_setState (state : ChannelState) :
    Quiet l.status (l.setState state).link.status (l.setState state).notices :=
  l.status.quiet_setState state

theorem quiet_beginOpening (call : Nat) :
    Quiet l.status (l.beginOpening call).link.status (l.beginOpening call).notices :=
  quiet_setState ({ l with status := l.status.clearFailures }.setCall call .opening) .connecting

theorem quiet_finishClosing (call : Nat) :
    Quiet l.status (l.finishClosing call).link.status (l.finishClosing call).notices :=
  quiet_setState (l.setCall call (.done none)) .disconnected

theorem quiet_grant (call : Nat) (request : Request) :
    Quiet l.status (l.grant call request).link.status (l.grant call request).notices := by
  unfold grant
  dsimp only
  split
  · exact .refl _
  · exact quiet_beginOpening { l with waiting := _, holder := _, session := _ } call
  · exact .refl _
  · exact quiet_finishClosing (unlock { l with waiting := _, holder := _, session := _ }) call

/-- **How a call goes on**: it gets the lock, or goes on now that the driver has ended, or waits. -/
theorem proceed_cases (call : Nat) :
    (∃ request, l.proceed call = l.grant call request) ∨
      l.proceed call = l.beginOpening call ∨ l.proceed call = l.finishClosing call ∨
      l.proceed call = ⟨l, []⟩ := by
  unfold proceed
  split
  · rename_i request found
    split
    · exact .inl ⟨request, rfl⟩
    · exact .inr (.inr (.inr rfl))
  · split
    · exact .inr (.inl rfl)
    · exact .inr (.inr (.inr rfl))
  · split
    · exact .inr (.inr (.inl rfl))
    · exact .inr (.inr (.inr rfl))
  · exact .inr (.inr (.inr rfl))

theorem quiet_proceed (call : Nat) :
    Quiet l.status (l.proceed call).link.status (l.proceed call).notices := by
  obtain ⟨request, granted⟩ | opened | closed | waited := l.proceed_cases call
  · rw [granted]
    exact l.quiet_grant call request
  · rw [opened]
    exact l.quiet_beginOpening call
  · rw [closed]
    exact l.quiet_finishClosing call
  · rw [waited]
    exact .refl _

theorem quiet_takeAnswer (call : Nat) (token : String) (result : Except ChannelError Unit) :
    Quiet l.status (l.takeAnswer call token result).link.status
      (l.takeAnswer call token result).notices := by
  unfold takeAnswer
  cases result with
  | ok _ => exact l.status.quiet_setState .connected
  | error error =>
    dsimp only
    split <;> exact l.status.quiet_attemptFailed error

/-- **What a move tells.** -/
theorem tells_handle (event : LinkEvent) (now : Int) (draw : Float) :
    Tells l.status (l.handle event now draw).link.status (l.handle event now draw).notices := by
  cases event with
  | call request => exact .quiet (.refl _)
  | proceed call => exact .quiet (l.quiet_proceed call)
  | answered call result =>
    simp only [handle]
    split
    · exact .quiet (l.quiet_takeAnswer call _ result)
    · exact .quiet (.refl _)
  | driver driver event =>
    simp only [handle, drive]
    split
    · exact Driver.tells_handle _ l.status event now draw
    · exact .quiet (.refl _)

/-- No call tells of a connection when it goes on. -/
theorem connected_not_mem_proceed (call : Nat) :
    .state .connected ∉ (l.proceed call).notices := by
  have opened : ∀ l : Link, .state .connected ∉ (l.beginOpening call).notices :=
    fun l h => by cases eq_of_mem_setState h
  have closed : ∀ l : Link, .state .connected ∉ (l.finishClosing call).notices :=
    fun l h => by cases eq_of_mem_setState h
  have granted : ∀ request, .state .connected ∉ (l.grant call request).notices := by
    intro request h
    unfold grant at h
    dsimp only at h
    split at h
    · cases h
    · exact opened _ h
    · cases h
    · exact closed _ h
  obtain ⟨request, eq⟩ | eq | eq | eq := l.proceed_cases call
  · rw [eq]
    exact granted request
  · rw [eq]
    exact opened l
  · rw [eq]
    exact closed l
  · rw [eq]
    exact List.not_mem_nil

variable {l}

/-- **Which moves tell of a connection**: an attempt has succeeded, made by a
call or by a driver. -/
theorem connected_told {event : LinkEvent} {now : Int} {draw : Float}
    (h : .state .connected ∈ (l.handle event now draw).notices) :
    (∃ call token, event = .answered call (.ok ()) ∧
        l.calls[call]? = some ⟨.connect token, .opening⟩) ∨
      ∃ driver d, event = .driver driver (.opened (.ok ())) ∧ l.drivers[driver]? = some d ∧
        d.stage = .opening ∧ d.cancelled = false := by
  cases event with
  | call request => cases h
  | proceed call => exact absurd h (connected_not_mem_proceed l call)
  | answered call result =>
    simp only [handle] at h
    split at h
    · rename_i token found
      cases result with
      | ok _ => exact .inl ⟨call, token, rfl, found⟩
      | error error =>
        unfold takeAnswer at h
        dsimp only at h
        split at h <;> cases eq_of_mem_setState h
    · cases h
  | driver driver event =>
    simp only [handle, drive] at h
    split at h
    · rename_i d found
      obtain ⟨opening, running, rfl⟩ := Driver.connected_told h
      exact .inr ⟨driver, d, rfl, found, opening, running⟩
    · cases h

end Link

end Liveboard
