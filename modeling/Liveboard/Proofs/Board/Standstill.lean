import Liveboard.Proofs.Board.Trace
import Liveboard.Proofs.Channel.Rest

/-!
# The board at a standstill

Once a call to disconnect has returned, an attempt was rejected or the manager
has given up, the manager is at rest until the next call, whatever happens on
the board in the meantime: it makes no attempt, tells nothing, and neither its
state nor any of its numbers change (`Moment.standstill_run`). What was told
before may still have to be delivered, but no event is among it. No
registration is lost by it, for the manager ends none: a registration lasts
until its owner ends it, or until all are ended (`Moment.registered_run`).

Calls may be under way when the manager comes to rest, and `Moment.standstill_calls`
lets them go on. One to disconnect changes at most the state. One to connect wakes
the manager, as it should, and then the first thing that comes about is its own
attempt. Where the manager rests because a call to disconnect has returned there is
none under way.
-/

namespace Liveboard

/-- Whether an event of the board is one that ends registrations. -/
def BoardEvent.endsRegistrations : BoardEvent → Bool
  | .stopEngine _ | .stopWatcher _ | .setEntity _ _ | .unsubscribe _ | .clear => true
  | .link _ _ | .tell | .refresh _ | .pull _ _ | .landed _ _ _ | .startEngine _ _ _
  | .startWatcher _ | .subscribe _ _ | .useCache _ _ | .wait _ _ => false

namespace Moment

variable {m : Moment}

/-! ## Registrations that last -/

/-- **Whether a registration is ended** in a run, by an event that ends
registrations. -/
def revokes (id : Nat) (m : Moment) : List BoardEvent → Bool
  | [] => false
  | e :: es =>
    (e.endsRegistrations && !(m.step e).board.registry.isActive id) || (m.step e).revokes id es

/-- No other event ends a registration. -/
theorem isActive_step {id : Nat} (active : m.board.registry.isActive id = true) {e : BoardEvent}
    (other : e.endsRegistrations = false) : (m.step e).board.registry.isActive id = true := by
  have subscribed : ∀ (r : Registry Listener) (topic : Topic) (callback : Listener),
      r.isActive id = true → (r.subscribe topic callback).2.isActive id = true := by
    intro r topic callback h
    rw [Registry.isActive_subscribe, h, Bool.or_true]
  cases e with
  | link event draw =>
    simp only [step]
    split <;> exact active
  | tell =>
    simp only [step]
    unfold deliver
    split
    · split
      · rw [Board.registry_hear]
        exact active
      · exact active
    all_goals exact active
  | refresh | pull | landed =>
    simp only [step, Board.registry_engineEvent]
    exact active
  | startEngine period settings cache =>
    simp only [step, Board.startEngine, Board.registry_takeNotices]
    exact subscribed _ _ _ (subscribed _ _ _ active)
  | startWatcher entity => exact subscribed _ _ _ active
  | subscribe topic label => exact subscribed _ _ _ active
  | useCache | wait => exact active
  | stopEngine | stopWatcher | setEntity | unsubscribe | clear => cases other

/-- **A registration lasts until it is ended.** -/
theorem registered_run (sound : m.board.registry.Sound) {topic : Topic} {entry : Entry Listener}
    (listed : entry ∈ m.board.registry.entries topic)
    (active : m.board.registry.isActive entry.id = true) {es : List BoardEvent}
    (kept : m.revokes entry.id es = false) :
    entry ∈ (m.run es).board.registry.entries topic ∧
      (m.run es).board.registry.isActive entry.id = true := by
  have last : (m.run es).board.registry.isActive entry.id = true := by
    clear sound listed
    induction es generalizing m with
    | nil => exact active
    | cons e es ih =>
      obtain ⟨here, later⟩ := Bool.or_eq_false_iff.1 kept
      refine ih ?_ later
      cases ends : e.endsRegistrations with
      | true => simpa [ends] using here
      | false => exact isActive_step active ends
  exact ⟨(m.changes_run es).mem_entries sound listed last, last⟩

/-! ## The manager at rest -/

/-- The manager makes the moves that are events of the run. -/
theorem exists_link_of_mem_moves {mv : LinkMove} {es : List BoardEvent} (h : mv ∈ m.moves es) :
    ∃ draw, .link mv.event draw ∈ es := by
  induction es generalizing m with
  | nil => cases h
  | cons e es ih =>
    rcases List.mem_append.1 h with here | later
    · have made := Option.mem_toList.1 here
      cases e with
      | link event draw =>
        simp only [move?, Option.ite_none_right_eq_some, Option.some.injEq] at made
        obtain ⟨-, rfl⟩ := made
        exact ⟨draw, List.mem_cons_self⟩
      | _ => cases made
    · obtain ⟨draw, mem⟩ := ih later
      exact ⟨draw, List.mem_cons_of_mem e mem⟩

/-- **While the manager rests** nothing happens to it on the board, as long as no
call begins or goes on. -/
theorem rests_run (rests : m.board.link.Rests) {es : List BoardEvent}
    (others : ∀ event draw, .link event draw ∈ es → m.board.link.isOfCall event = false) :
    (m.run es).board.link = m.board.link ∧ m.record es = [] ∧ m.told es = [] := by
  have moves : ∀ mv ∈ m.moves es, m.board.link.isOfCall mv.event = false := by
    intro mv mem
    obtain ⟨draw, event⟩ := exists_link_of_mem_moves mem
    exact others mv.event draw event
  obtain ⟨run, told, record⟩ := rests.run moves
  obtain ⟨link, tells⟩ := m.link_run es
  exact ⟨link.trans run, record, tells.trans told⟩

/-- Where calls do not overlap, the manager is at rest after a move that brings it to
rest. -/
theorem rests_of_halts {policy : BackoffPolicy} {pre : List BoardEvent} {e : BoardEvent}
    {move : LinkMove} {state : ChannelState} (orderly : (initial policy).Orderly pre)
    (made : ((initial policy).run pre).move? e = some move)
    (halts : ((initial policy).run pre).board.link.Halts move state) :
    ((initial policy).run pre).board.link.Exclusive ∧
      ((initial policy).run (pre ++ [e])).board.link
        = ((initial policy).run pre).board.link.after move ∧
      ((initial policy).run (pre ++ [e])).board.link.Rests ∧
      ((initial policy).run (pre ++ [e])).state = state := by
  have exclusive : ((initial policy).run pre).board.link.Exclusive :=
    exclusive_run (m := initial policy) (Link.exclusive_initial policy) orderly
  obtain ⟨rests, after⟩ := halts.rests exclusive
  have link : ((initial policy).run (pre ++ [e])).board.link
      = ((initial policy).run pre).board.link.after move := by
    rw [run_append, run_cons, run_nil, (((initial policy).run pre).link_step_eq_run e).1, made]
    rfl
  refine ⟨exclusive, link, link ▸ rests, ?_⟩
  rw [Moment.state, link, after]

/-- **The board at a standstill.** Suppose that calls do not overlap, and that in
a move a call to disconnect returns, an attempt is rejected, or the manager
gives up. Then the channel is disconnected in the first case and in the error
state in the others. From there on, whatever happens on the board, as long as
no call begins and none that is under way goes on:

* the manager does not change, in its state or in any of its numbers;
* nothing comes about on the channel, so no attempt is made;
* nothing is told, and no event is still to be delivered;
* whoever has registered at any time is still registered, unless that
  registration was ended by its owner or with all others. -/
theorem standstill_run (policy : BackoffPolicy) {pre post : List BoardEvent} {e : BoardEvent}
    {move : LinkMove} {state : ChannelState} (orderly : (initial policy).Orderly (pre ++ [e]))
    (made : ((initial policy).run pre).move? e = some move)
    (halts : ((initial policy).run pre).board.link.Halts move state)
    (others : ∀ event draw, .link event draw ∈ post →
      ((initial policy).run (pre ++ [e])).board.link.isOfCall event = false) :
    ((initial policy).run (pre ++ [e])).state = state ∧
      ((initial policy).run (pre ++ [e] ++ post)).board.link
        = ((initial policy).run (pre ++ [e])).board.link ∧
      ((initial policy).run (pre ++ [e])).record post = [] ∧
      ((initial policy).run (pre ++ [e])).told post = [] ∧
      (∀ event, .event event ∉ ((initial policy).run (pre ++ [e] ++ post)).outstanding) ∧
      ∀ (first rest : List BoardEvent) (topic : Topic) (entry : Entry Listener),
        pre ++ [e] ++ post = first ++ rest →
        entry ∈ ((initial policy).run first).board.registry.entries topic →
        ((initial policy).run first).board.registry.isActive entry.id = true →
        ((initial policy).run first).revokes entry.id rest = false →
        entry ∈ ((initial policy).run (pre ++ [e] ++ post)).board.registry.entries topic ∧
          ((initial policy).run (pre ++ [e] ++ post)).board.registry.isActive entry.id = true := by
  obtain ⟨-, -, rests, reached⟩ := rests_of_halts orderly.of_append made halts
  obtain ⟨same, record, told⟩ := rests_run rests others
  refine ⟨reached, ?_, record, told, fun event waits => ?_,
    fun first rest topic entry split listed active kept => ?_⟩
  · rw [run_append, same]
  · -- It was told before, but then the channel would be connected.
    rw [run_append] at waits
    have before : .event event ∈ ((initial policy).run (pre ++ [e])).outstanding := by
      rcases mem_outstanding_run waits with old | new
      · exact old
      · rw [told] at new
        cases new
    have connected := connected_of_outstanding orderly before
    rw [reached] at connected
    subst connected
    cases halts
  · rw [split, run_append]
    exact registered_run (sound_run policy first) listed active kept

/-- **What calls under way still do at a standstill.** Suppose that calls do not
overlap, and that in a move a call to disconnect returns, an attempt is
rejected, or the manager gives up. From there on, whatever happens on the board
as long as no call begins:

* nothing comes about on the channel and its status stays, except that a call to
  disconnect that was under way may make it disconnected; or a call to connect
  was under way, and then it begins with clearing the failures and an attempt;
* where a call to disconnect has returned, no call was under way, and the
  status does not change at all. -/
theorem standstill_calls (policy : BackoffPolicy) {pre post : List BoardEvent} {e : BoardEvent}
    {move : LinkMove} {state : ChannelState} (orderly : (initial policy).Orderly (pre ++ [e]))
    (made : ((initial policy).run pre).move? e = some move)
    (halts : ((initial policy).run pre).board.link.Halts move state)
    (unasked : ∀ request draw, .link (.call request) draw ∉ post) :
    ((((initial policy).run (pre ++ [e])).record post = [] ∧
        ((initial policy).run (pre ++ [e])).board.link.status.Quits
          ((initial policy).run (pre ++ [e] ++ post)).board.link.status
          (((initial policy).run (pre ++ [e])).told post)) ∨
      (((initial policy).run (pre ++ [e])).board.link.Connecting ∧
        ∃ more, ((initial policy).run (pre ++ [e])).record post
          = .cleared :: .dialled :: more)) ∧
      (state = .disconnected →
        ((initial policy).run (pre ++ [e])).record post = [] ∧
        ((initial policy).run (pre ++ [e] ++ post)).board.link.status
          = ((initial policy).run (pre ++ [e])).board.link.status ∧
        ((initial policy).run (pre ++ [e])).told post = []) := by
  obtain ⟨exclusive, after, rests, reached⟩ := rests_of_halts orderly.of_append made halts
  have aligned : ((initial policy).run (pre ++ [e])).board.link.Aligned :=
    (path_run (m := initial policy) (Link.exclusive_initial policy)
      (Link.aligned_initial policy) orderly).2
  have dormant : ((initial policy).run (pre ++ [e])).board.link.Dormant := by
    refine aligned.dormant rests fun connecting => ?_
    rw [← Moment.state, reached] at connecting
    cases halts <;> cases connecting
  have moves : ∀ mv ∈ ((initial policy).run (pre ++ [e])).moves post,
      ∀ request, mv.event ≠ .call request := by
    intro mv mem request asks
    obtain ⟨draw, event⟩ := exists_link_of_mem_moves mem
    exact unasked request draw (asks ▸ event)
  obtain ⟨link, told⟩ := ((initial policy).run (pre ++ [e])).link_run post
  have still := dormant.run moves
  rw [(initial policy).run_append (pre ++ [e]), link, told]
  refine ⟨still, ?_⟩
  rintro rfl
  rcases still with ⟨record, quits⟩ | ⟨connecting, -⟩
  · exact ⟨record, quits.eq_of_disconnected reached⟩
  · exact absurd (after ▸ connecting) (halts.not_connecting exclusive)

/-- A reader registers, the channel is opened, and a call to disconnect waits until
the driver has ended. -/
def closing : List BoardEvent :=
  .subscribe (.events "news") "reader" :: opened ++
    [.link (.driver 0 .begin) 0, .link (.call .disconnect) 0, .link (.proceed 1) 0,
      .link (.driver 0 .noticed) 0]

/-- The call returns. -/
def closed : BoardEvent := .link (.proceed 1) 0

/-- A frame comes in, a delay is over, an attempt is answered, and a call that has
returned is asked to go on. -/
def tooLateToMatter : List BoardEvent :=
  [.tell, .link (.driver 0 (.item (.text "\x7b\"type\": \"news\"\x7d"))) 0, .wait 1000 1000,
    .link (.driver 0 .rested) 0, .link (.driver 0 (.opened (.ok ()))) 0,
    .link (.answered 0 (.ok ())) 0, .link (.proceed 1) 0, .tell]

/-- Nothing comes of it. -/
theorem standstill_run_closed :
    ((initial everySecond).run (closing ++ [closed])).state = .disconnected ∧
      ((initial everySecond).run (closing ++ [closed] ++ tooLateToMatter)).board.link
        = ((initial everySecond).run (closing ++ [closed])).board.link ∧
      ((initial everySecond).run (closing ++ [closed])).record tooLateToMatter = [] ∧
      ((initial everySecond).run (closing ++ [closed] ++ tooLateToMatter)).board.registry.isActive 0
        = true := by
  have orderly : (initial everySecond).Orderly (closing ++ [closed]) := by
    refine ⟨?_, ?_, ?_, ?_, ?_, ?_, ?_, ?_, ?_, ?_, ?_, ?_, ?_, ?_, ?_, trivial⟩
    all_goals intro request draw h; cases h
    all_goals decide +kernel
  have may : ((initial everySecond).run closing).mayMove (.proceed 1) 0 = true := by decide +kernel
  have now : ((initial everySecond).run closing).board.now = 0 := by decide +kernel
  have made : ((initial everySecond).run closing).move? closed = some ⟨.proceed 1, 0, 0⟩ := by
    rw [closed, move?, if_pos may, now]
    rfl
  have waits : ((initial everySecond).run closing).board.link.calls[1]?
      = some ⟨.disconnect, .stopping 0⟩ := by decide +kernel
  have returned : (((initial everySecond).run closing).board.link.after
      ⟨.proceed 1, 0, 0⟩).calls[1]? = some ⟨.disconnect, .done none⟩ := by decide +kernel
  have others : ∀ event draw, .link event draw ∈ tooLateToMatter →
      ((initial everySecond).run (closing ++ [closed])).board.link.isOfCall event = false := by
    intro event draw mem
    simp only [tooLateToMatter, List.mem_cons, List.not_mem_nil, BoardEvent.link.injEq,
      reduceCtorEq, false_or, or_false] at mem
    rcases mem with ⟨rfl, -⟩ | ⟨rfl, -⟩ | ⟨rfl, -⟩ | ⟨rfl, -⟩ | ⟨rfl, -⟩
    all_goals decide +kernel
  have listed : (⟨0, .reader "reader"⟩ : Entry Listener) ∈
      ((initial everySecond).run [.subscribe (.events "news") "reader"]).board.registry.entries
        (.events "news") := List.mem_singleton_self _
  obtain ⟨state, link, record, -, -, registered⟩ := standstill_run everySecond orderly made
    (.closes waits (by simp) returned) others
  obtain ⟨-, active⟩ := registered [.subscribe (.events "news") "reader"] _ (.events "news")
    ⟨0, .reader "reader"⟩ rfl listed rfl (by decide +kernel)
  exact ⟨state, link, record, active⟩

end Moment

end Liveboard
