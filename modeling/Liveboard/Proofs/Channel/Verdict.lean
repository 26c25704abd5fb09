import Liveboard.Proofs.Channel.Overlap

/-!
# What a move says of the connection

That the channel is connected, or in the error state, is a *verdict* on the
connection: deltas can be expected, or they cannot. The other two states are
passed through and say nothing of it (`ChannelState.verdict?`).

A move tells of the states but little: nothing, one state, or that the
connection was lost and that the manager has given up (`Link.Goes.brief`). So a
state that is passed through is never told after a verdict in the same move,
and the last verdict of a move is true of the state in which it leaves the
channel (`Link.Goes.verdict`).
-/

namespace Liveboard

namespace ChannelState

/-- **What a state says of the connection**, if it says anything. -/
def verdict? : ChannelState → Option Bool
  | .connected => some true
  | .error => some false
  | .disconnected | .connecting => none

/-- **What a series of states says of the connection**: the last verdict. -/
def lastVerdict? (states : List ChannelState) : Option Bool :=
  (states.filterMap verdict?).getLast?

@[simp] theorem lastVerdict?_nil : lastVerdict? [] = none := rfl

@[simp] theorem lastVerdict?_singleton (s : ChannelState) : lastVerdict? [s] = s.verdict? := by
  cases s <;> rfl

/-- Later verdicts count. -/
theorem lastVerdict?_append (states more : List ChannelState) :
    lastVerdict? (states ++ more) = (lastVerdict? more).or (lastVerdict? states) := by
  rw [lastVerdict?, List.filterMap_append, List.getLast?_append]
  rfl

/-- That no deltas can be expected is said by the error. -/
theorem error_mem_of_lastVerdict? {states : List ChannelState}
    (h : lastVerdict? states = some false) : .error ∈ states := by
  obtain ⟨s, mem, verdict⟩ := List.mem_filterMap.1 (List.mem_of_getLast? h)
  cases s <;> cases verdict
  exact mem

/-- Where the last state is the error, the last verdict is that no deltas can be
expected. -/
theorem lastVerdict?_getD_of_error {states : List ChannelState} {s : ChannelState}
    (h : states.getLastD s = .error) :
    (lastVerdict? states).getD (decide (s ≠ .error)) = false := by
  rcases List.eq_nil_or_concat states with rfl | ⟨front, last, rfl⟩
  · obtain rfl : s = .error := h
    rfl
  · rw [List.concat_eq_append] at h ⊢
    obtain rfl : last = .error := by simpa using h
    rw [lastVerdict?_append]
    rfl

/-- What a state says is true of it. -/
theorem verdict_eq {s : ChannelState} {up : Bool} (h : s.verdict? = some up) :
    up = decide (s ≠ .error) := by
  cases s <;> cases h <;> rfl

end ChannelState

/-! ## What a move tells of the states -/

namespace ChannelState

/-- **A brief series of states**: nothing, one state, or that the connection was lost
and that the manager has given up. -/
def Brief (states : List ChannelState) : Prop :=
  states = [] ∨ (∃ s, states = [s]) ∨ states = [.disconnected, .error]

theorem brief_ite (p : Prop) [Decidable p] (s : ChannelState) :
    Brief (if p then [] else [s]) := by
  split
  · exact .inl rfl
  · exact .inr (.inl ⟨s, rfl⟩)

theorem brief_ite_error (p : Prop) [Decidable p] :
    Brief ((if p then [] else [.disconnected]) ++ [.error]) := by
  split
  · exact .inr (.inl ⟨.error, rfl⟩)
  · exact .inr (.inr rfl)

/-- Only the last state of a brief series says anything of the connection. -/
theorem Brief.verdict {states : List ChannelState} (brief : Brief states) {s : ChannelState}
    {up : Bool} (h : lastVerdict? states = some up) : up = decide (states.getLastD s ≠ .error) := by
  rcases brief with rfl | ⟨t, rfl⟩ | rfl
  · cases h
  · rw [lastVerdict?_singleton] at h
    exact verdict_eq h
  · cases h
    rfl

end ChannelState

namespace ChannelStatus

/-- A change of state is told, and nothing else of the states. -/
theorem states_setState (c : ChannelStatus) (state : ChannelState) :
    (c.setState state).2.filterMap ChannelNotice.state?
      = if c.state = state then [] else [state] := by
  unfold setState
  split <;> rfl

theorem states_attemptFailed (c : ChannelStatus) (error : ChannelError) :
    (c.attemptFailed error).2.filterMap ChannelNotice.state?
      = if c.state = .error then [] else [.error] := by
  have same : (if error.isRetryable then (c.recordError error).countFailure
      else c.recordError error).state = c.state := by split <;> rfl
  rw [← same]
  exact states_setState _ .error

end ChannelStatus

namespace Driver

variable {d : Driver} {c : ChannelStatus} {now : Int} {draw : Float} {turn : DriverTurn}

/-- A driver that goes on without a connection tells at most that it has given up,
and not even that when the channel is in the error state. -/
theorem Resumes.states_eq (h : d.Resumes c draw turn) :
    turn.notices.filterMap ChannelNotice.state? = [] ∨
      c.state ≠ .error ∧ turn.notices.filterMap ChannelNotice.state? = [.error] := by
  cases h with
  | givesUp =>
    have told := ChannelStatus.states_setState { c with exhausted := true } .error
    by_cases failed : c.state = .error
    · exact .inl (told.trans (if_pos failed))
    · exact .inr ⟨failed, told.trans (if_neg failed)⟩
  | pauses | stalls => exact .inl rfl

theorem Takes.brief {event : DriverEvent} {incident : Option Incident}
    (takes : d.Takes c now draw event incident turn) :
    ChannelState.Brief (turn.notices.filterMap ChannelNotice.state?) := by
  cases takes with
  | begins | outlives | drops | stops | waits => exact .inl rfl
  | seeks _ resumes =>
    rcases resumes.states_eq with none | ⟨-, error⟩
    · exact .inl none
    · exact .inr (.inl ⟨.error, error⟩)
  | @reads settled text =>
    refine .inl ?_
    unfold ChannelStatus.receive
    split <;> rfl
  | loses _ _ resumes =>
    rw [List.filterMap_append, ChannelStatus.states_setState]
    -- The driver goes on from there, and may give up.
    rcases resumes.states_eq with none | ⟨-, error⟩
    · rw [none, List.append_nil]
      exact ChannelState.brief_ite _ _
    · rw [error]
      exact ChannelState.brief_ite_error _
  | dials =>
    rw [List.filterMap_cons_none rfl, ChannelStatus.states_setState]
    exact ChannelState.brief_ite _ _
  | connects =>
    rw [ChannelStatus.states_setState]
    exact ChannelState.brief_ite _ _
  | fails _ _ _ resumes =>
    -- That it gives up is not told again.
    rw [List.filterMap_append, ChannelStatus.states_attemptFailed,
      resumes.states_eq.resolve_right fun h => h.1 (c.state_attemptFailed _), List.append_nil]
    exact ChannelState.brief_ite _ _
  | rejected =>
    rw [ChannelStatus.states_attemptFailed]
    exact ChannelState.brief_ite _ _

end Driver

namespace Link

variable {l : Link} {now : Int} {draw : Float} {event : LinkEvent} {incidents : List Incident}
  {turn : LinkTurn}

/-- **A move tells little of the states**: nothing, one state, or that the connection was
lost and that the manager has given up. -/
theorem Goes.brief (goes : l.Goes now draw event incidents turn) :
    ChannelState.Brief (turn.notices.filterMap ChannelNotice.state?) := by
  cases goes with
  | calls | replaces | stops | waits => exact .inl rfl
  | dials | redials =>
    exact ChannelStatus.states_setState l.status.clearFailures .connecting ▸
      ChannelState.brief_ite _ _
  | closes | returns =>
    exact l.status.states_setState .disconnected ▸ ChannelState.brief_ite _ _
  | connects => exact l.status.states_setState .connected ▸ ChannelState.brief_ite _ _
  | fails | rejected => exact l.status.states_attemptFailed _ ▸ ChannelState.brief_ite _ _
  | drives _ takes => exact takes.brief

/-- **The last verdict of a move** is true of the state after it. -/
theorem Goes.verdict (goes : l.Goes now draw event incidents turn) {up : Bool}
    (h : ChannelState.lastVerdict? (turn.notices.filterMap ChannelNotice.state?) = some up) :
    up = decide (turn.link.status.state ≠ .error) := by
  have last : turn.link.status.state = _ := goes.shows
  rw [last]
  exact goes.brief.verdict h

end Link

end Liveboard
