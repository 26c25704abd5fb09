import Liveboard.Proofs.Board.Deliveries
import Liveboard.Proofs.Channel.Trace

/-!
# What listeners are told of the states

Where calls do not overlap, the states that are told in a run of the board are
a path from the first state to the current one (`Moment.path_run`). A listener
who is registered before anything is told, and stays so, is called with all of
them in turn.

An event is told while the channel is connected, and until it is delivered the
state cannot change (`Moment.connected_of_outstanding`). So whoever is called
with an event is called when every listener knows that the channel is connected.
`Moment.trace_run` puts the two together in the terms of one listener: the
states that it is called with and those that are still to come make up the path,
and while an event is to be delivered none is still to come.
-/

namespace Liveboard

namespace Moment

variable {m : Moment}

/-- The state of the channel. -/
def state (m : Moment) : ChannelState :=
  m.board.link.status.state

theorem aligned_step (exclusive : m.board.link.Exclusive) (aligned : m.board.link.Aligned)
    (e : BoardEvent) :
    m.state.Path ((m.tells e).filterMap ChannelNotice.state?) (m.step e).state ∧
      (m.step e).board.link.Aligned := by
  rw [state, state, link_step]
  cases e with
  | link event draw =>
    simp only [tells]
    split
    · exact (m.board.link.goes event m.board.now draw).aligned exclusive aligned
    · exact ⟨rfl, aligned⟩
  | _ => exact ⟨rfl, aligned⟩

/-- **The states that are told in a run** are a path. -/
theorem path_run (exclusive : m.board.link.Exclusive) (aligned : m.board.link.Aligned)
    {es : List BoardEvent} (orderly : m.Orderly es) :
    m.state.Path ((m.told es).filterMap ChannelNotice.state?) (m.run es).state ∧
      (m.run es).board.link.Aligned := by
  induction es generalizing m with
  | nil => exact ⟨rfl, aligned⟩
  | cons e es ih =>
    obtain ⟨first, aligned'⟩ := aligned_step exclusive aligned e
    have begins : m.Orderly [e] := ⟨orderly.1, trivial⟩
    have exclusive' : (m.step e).board.link.Exclusive := exclusive_run exclusive begins
    obtain ⟨rest, last⟩ := ih exclusive' aligned' orderly.2
    rw [told, List.filterMap_append]
    exact ⟨first.append rest, last⟩

/-- An event is told while the channel is connected, and the state stays. -/
theorem connected_of_tells (exclusive : m.board.link.Exclusive) (aligned : m.board.link.Aligned)
    {e : BoardEvent} {event : Event} (told : .event event ∈ m.tells e) :
    (m.step e).state = .connected := by
  have some : (m.tells e).filterMap ChannelNotice.event? ≠ [] :=
    List.ne_nil_of_mem (List.mem_filterMap.2 ⟨_, told, rfl⟩)
  have before : m.state = .connected := by
    cases e with
    | link name draw =>
      simp only [tells] at some
      split at some
      · exact (m.board.link.goes name m.board.now draw).connected_of_told aligned some
      · exact absurd rfl some
    | _ => exact absurd rfl some
  have path := (aligned_step exclusive aligned e).1
  cases m.tells_step e with
  | quiet none => exact absurd none.1 some
  | next _ states =>
    rw [states] at path
    exact path.symm.trans before

/-- What is still to come for someone is outstanding. -/
theorem mem_outstanding_of_awaited {topic : Topic} {id : Nat} {notice : ChannelNotice}
    (h : notice ∈ m.awaited topic id) : notice ∈ m.outstanding := by
  rcases List.mem_append.1 h with due | untold
  · obtain ⟨turn, mem, rfl⟩ := List.mem_map.1 due
    exact List.mem_append_left _ (List.mem_map_of_mem (List.mem_filter.1 mem).1)
  · exact List.mem_append_right _ (List.mem_filter.1 untold).1

/-- **While an event is delivered the channel is connected.** -/
theorem connected_of_outstanding {policy : BackoffPolicy} {es : List BoardEvent}
    (orderly : (initial policy).Orderly es) {event : Event}
    (h : .event event ∈ ((initial policy).run es).outstanding) :
    ((initial policy).run es).state = .connected := by
  induction es using List.reverseRecOn with
  | nil => cases h
  | append_singleton es e ih =>
    have before := orderly.of_append
    have exclusive := exclusive_run (m := initial policy) (Link.exclusive_initial policy) before
    have aligned := (path_run (m := initial policy) (Link.exclusive_initial policy)
      (Link.aligned_initial policy) before).2
    rw [run_append, run_cons, run_nil] at h ⊢
    rcases mem_outstanding_step h with old | new
    · -- As long as it is outstanding nothing else is told.
      have silent : ((initial policy).run es).tells e = [] := by
        by_contra tells
        rw [outstanding_eq_nil tells] at old
        cases old
      have path := (aligned_step exclusive aligned e).1
      rw [silent] at path
      exact path.symm.trans (ih before old)
    · exact connected_of_tells exclusive aligned new

/-- **What a listener is called with.** Suppose that calls do not overlap, and
that a listener is registered before anything is told and stays registered.
Then in any run the states that it is called with, together with those that
are still to come, start from disconnected, change in one of nine ways each,
none of which leads from a state to itself, and end in the current state. While
an event is delivered none of them is still to come, and the last of them is
that the channel is connected. -/
theorem trace_run (policy : BackoffPolicy) {pre post : List BoardEvent}
    (orderly : (initial policy).Orderly (pre ++ post)) (quiet : (initial policy).told pre = [])
    {entry : Entry Listener}
    (listed : entry ∈ ((initial policy).run pre).board.registry.entries .states)
    (active : ((initial policy).run (pre ++ post)).board.registry.isActive entry.id = true) :
    ∃ states later : List ChannelState,
      ((initial policy).run pre).calls entry.id post = states.map .state ∧
      ((initial policy).run (pre ++ post)).awaited .states entry.id = later.map .state ∧
      (.disconnected :: (states ++ later)).IsChain (fun a b => a.leadsTo b = true) ∧
      (.disconnected :: (states ++ later)).IsChain (· ≠ ·) ∧
      (.disconnected :: (states ++ later)).getLast?
        = some ((initial policy).run (pre ++ post)).board.link.status.state ∧
      (((initial policy).run (pre ++ post)).isIdle = true → later = []) ∧
      ∀ event, .event event ∈ ((initial policy).run (pre ++ post)).outstanding →
        later = [] ∧ (.disconnected :: states).getLast? = some .connected := by
  have before : ((initial policy).run pre).awaited .states entry.id = [] := by
    rw [List.eq_nil_iff_forall_not_mem]
    intro notice mem
    rcases mem_outstanding_run (mem_outstanding_of_awaited mem) with first | told
    · cases first
    · rw [quiet] at told
      cases told
  have calls := calls_append_awaited (sound_run policy pre) listed
    (by rw [← run_append]; exact active)
  rw [before, List.nil_append, ← run_append, ChannelNotice.filter_states] at calls
  obtain ⟨path, -⟩ := path_run (m := initial policy) (Link.exclusive_initial policy)
    (Link.aligned_initial policy) orderly
  rw [told_append, quiet, List.nil_append] at path
  obtain ⟨states, later, split, called, awaited⟩ := List.map_eq_append_iff.1 calls.symm
  rw [split] at path
  obtain ⟨chain, last⟩ := path.isChain
  have delivered : (∀ state, .state state ∉ ((initial policy).run (pre ++ post)).outstanding) →
      later = [] := by
    intro none
    rw [List.eq_nil_iff_forall_not_mem]
    intro state mem
    have awaited : .state state ∈ ((initial policy).run (pre ++ post)).awaited .states entry.id :=
      awaited ▸ List.mem_map_of_mem mem
    exact none state (mem_outstanding_of_awaited awaited)
  refine ⟨states, later, called.symm, awaited.symm, chain,
    chain.imp fun _ _ => ChannelState.ne_of_leadsTo, last, fun idle => delivered ?_,
    fun event delivering => ?_⟩
  · have nothing : ((initial policy).run (pre ++ post)).outstanding = [] := by
      simpa [isIdle, outstanding, and_comm] using idle
    rw [nothing]
    exact fun _ => List.not_mem_nil
  · have all := delivered fun state waits =>
      calm_run policy (pre ++ post) state event waits delivering
    subst all
    rw [List.append_nil] at last
    exact ⟨rfl, last.trans (congrArg some (connected_of_outstanding orderly delivering))⟩

/-- A listener registers for the states. -/
def listening : List BoardEvent := [.subscribe .states "journal"]

/-- The channel is opened, and all that is told is delivered. -/
def opened : List BoardEvent :=
  [.link (.call (.connect "token")) 0, .link (.proceed 0) 0, .tell, .tell, .tell,
    .link (.answered 0 (.ok ())) 0, .tell, .tell, .tell]

/-- The listener is called when the channel is connecting, and when it is
connected. -/
theorem trace_run_opened :
    (initial everySecond).Orderly (listening ++ opened) ∧
      (initial everySecond).told listening = [] ∧
      ((initial everySecond).run listening).board.registry.entries .states = [⟨0, .journal⟩] ∧
      ((initial everySecond).run (listening ++ opened)).board.registry.isActive 0 = true ∧
      ((initial everySecond).run listening).calls 0 opened
        = [.state .connecting, .state .connected] ∧
      ∃ states : List ChannelState,
        ((initial everySecond).run listening).calls 0 opened = states.map .state ∧
        (.disconnected :: states).IsChain (fun a b => a.leadsTo b = true) ∧
        (.disconnected :: states).getLast? = some .connected := by
  have orderly : (initial everySecond).Orderly (listening ++ opened) := by
    refine ⟨?_, ?_, ?_, ?_, ?_, ?_, ?_, ?_, ?_, ?_, trivial⟩
    all_goals intro request draw h; cases h
    rfl
  have entries : ((initial everySecond).run listening).board.registry.entries .states
      = [⟨0, .journal⟩] := rfl
  have active : ((initial everySecond).run (listening ++ opened)).board.registry.isActive 0
      = true := rfl
  have calls : ((initial everySecond).run listening).calls 0 opened
      = [.state .connecting, .state .connected] := rfl
  have idle : ((initial everySecond).run (listening ++ opened)).isIdle = true := rfl
  have state : ((initial everySecond).run (listening ++ opened)).board.link.status.state
      = .connected := rfl
  have listed : (⟨0, .journal⟩ : Entry Listener) ∈
      ((initial everySecond).run listening).board.registry.entries .states :=
    entries ▸ List.mem_singleton_self _
  obtain ⟨states, later, called, -, chain, -, last, delivered, -⟩ :=
    trace_run everySecond orderly rfl listed active
  obtain rfl := delivered idle
  rw [List.append_nil] at chain last
  exact ⟨orderly, rfl, entries, active, calls, states, called, chain,
    last.trans (congrArg some state)⟩

end Moment

end Liveboard
