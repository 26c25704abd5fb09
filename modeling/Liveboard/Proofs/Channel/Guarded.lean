import Liveboard.Proofs.Channel.Course

/-!
# Who may act

Calls may overlap, and a driver that was told to stop may linger. But only the
driver of the session was not told to stop, and while a call to connect has
the lock there is no session. So there is one at a time that makes attempts
or reads frames: the call that has the lock, or the driver of the session.

`Link.Guarded` says so and is kept by every move (`Link.guarded_run`). It is
weaker than what holds where calls do not overlap, for a driver that was told
to stop may still be there with its connection. After its first turn it does
nothing but notice.
-/

namespace Liveboard

theorem Driver.Resumes.frame {d : Driver} {c : ChannelStatus} {draw : Float} {turn : DriverTurn}
    (h : d.Resumes c draw turn) :
    turn.driver.cancelled = d.cancelled ∧ turn.driver.backoff.policy = d.backoff.policy := by
  cases h <;> exact ⟨rfl, rfl⟩

/-- A driver is told to stop by calls only, and keeps its policy. -/
theorem Driver.Takes.frame {d : Driver} {c : ChannelStatus} {now : Int} {draw : Float}
    {event : DriverEvent} {incident : Option Incident} {turn : DriverTurn}
    (h : d.Takes c now draw event incident turn) :
    turn.driver.cancelled = d.cancelled ∧ turn.driver.backoff.policy = d.backoff.policy := by
  cases h with
  | seeks _ resumes => exact resumes.frame
  | fails _ _ _ resumes =>
    obtain ⟨cancelled, policy⟩ := resumes.frame
    exact ⟨cancelled, policy⟩
  | @loses settled _ _ _ _ _ resumes =>
    obtain ⟨cancelled, policy⟩ := resumes.frame
    cases settled <;> exact ⟨cancelled, policy⟩
  | _ => exact ⟨rfl, rfl⟩

/-- Whether a call to connect has the lock at a stage. -/
def CallStage.isLocked : CallStage → Bool
  | .stopping _ | .opening => true
  | .locking | .done _ => false

namespace Link

variable {l : Link}

theorem getElem?_setCall (l : Link) (call other : Nat) (stage : CallStage) :
    (l.setCall call stage).calls[other]?
      = if call = other then (l.calls[other]?).map fun c => { c with stage := stage }
        else l.calls[other]? := by
  unfold setCall
  dsimp only
  rw [List.getElem?_modify]
  split
  · rfl
  · exact Option.map_id'

/-- A call that comes to another stage does not attempt to open a connection. -/
theorem opening_of_setCall {call other : Nat} {token : String} {stage : CallStage}
    (elsewhere : stage ≠ .opening)
    (found : (l.setCall call stage).calls[other]? = some ⟨.connect token, .opening⟩) :
    l.calls[other]? = some ⟨.connect token, .opening⟩ ∧ call ≠ other := by
  rw [getElem?_setCall] at found
  split at found
  · obtain ⟨⟨request, old⟩, -, eq⟩ := Option.map_eq_some_iff.1 found
    cases eq
    exact absurd rfl elsewhere
  · rename_i different
    exact ⟨found, different⟩

/-- A driver of a list with one driver changed. -/
theorem getElem?_set_cases {drivers : List Driver} {i j : Nat} {new d : Driver}
    (found : (drivers.set i new)[j]? = some d) :
    (j = i ∧ d = new) ∨ (j ≠ i ∧ drivers[j]? = some d) := by
  rw [List.getElem?_set] at found
  split at found
  · rename_i same
    split at found
    · exact .inl ⟨same.symm, (Option.some.inj found).symm⟩
    · cases found
  · rename_i different
    exact .inr ⟨Ne.symm different, found⟩

/-- A driver of a manager that tells one of them to stop. -/
theorem getElem?_cancel_cases {l : Link} {driver i : Nat} {d : Driver}
    (found : (l.cancel driver).drivers[i]? = some d) :
    ∃ old, l.drivers[i]? = some old ∧
      d = { old with cancelled := old.cancelled || decide (driver = i) } := by
  have drivers : (l.cancel driver).drivers
      = l.drivers.modify driver fun d => { d with cancelled := true } := rfl
  rw [drivers, List.getElem?_modify] at found
  obtain ⟨old, before, rfl⟩ := Option.map_eq_some_iff.1 found
  refine ⟨old, before, ?_⟩
  by_cases told : driver = i <;> simp [told]

/-- A driver of a manager that starts one more. -/
theorem getElem?_startDriver_cases {l : Link} {status : ChannelStatus} {call i : Nat}
    {token : String} {connected : Bool} {d : Driver}
    (found : ((l.withStatus status).startDriver call token connected).drivers[i]? = some d) :
    l.drivers[i]? = some d ∨ (i = l.drivers.length ∧ d = .fresh l.policy token connected) := by
  have drivers : ((l.withStatus status).startDriver call token connected).drivers
      = l.drivers ++ [.fresh l.policy token connected] := rfl
  rw [drivers, List.getElem?_append] at found
  split at found
  · exact .inl found
  · rename_i beyond
    rw [List.getElem?_singleton] at found
    split at found
    · exact .inr ⟨by omega, (Option.some.inj found).symm⟩
    · cases found

/-- A call that begins has no lock. -/
theorem getElem?_of_append_locking {calls : List Call} {request : Request} {call : Nat}
    {token : String} {stage : CallStage} (locked : stage.isLocked = true)
    (found : (calls ++ [⟨request, .locking⟩])[call]? = some ⟨.connect token, stage⟩) :
    calls[call]? = some ⟨.connect token, stage⟩ := by
  rw [List.getElem?_append] at found
  split at found
  · exact found
  · rw [List.getElem?_singleton] at found
    split at found
    · cases found
      cases locked
    · cases found

theorem holder_eq_none_of_isNext {call : Nat} (h : l.isNext call = true) : l.holder = none := by
  have both : l.holder = none ∧ l.waiting.head? = some call := by simpa [isNext] using h
  exact both.1

/-- **What becomes of a driver in a move**: it takes its turn, or what it waits
for stays. -/
theorem Goes.driver {now : Int} {draw : Float} {event : LinkEvent} {incidents : List Incident}
    {turn : LinkTurn} (goes : l.Goes now draw event incidents turn) {i : Nat} {d : Driver}
    (found : l.drivers[i]? = some d) :
    (∃ event incident own, d.Takes l.status now draw event incident own ∧
      turn.link.drivers[i]? = some own.driver ∧ turn.link.status = own.status) ∨
    ∃ cancelled, turn.link.drivers[i]? = some { d with cancelled := cancelled } := by
  have kept : ∃ cancelled, l.drivers[i]? = some { d with cancelled := cancelled } :=
    ⟨d.cancelled, found⟩
  have inside : i < l.drivers.length := (List.getElem?_eq_some_iff.1 found).1
  have cancel : ∀ driver, ∃ cancelled,
      (l.cancel driver).drivers[i]? = some { d with cancelled := cancelled } := by
    intro driver
    have same : (l.cancel driver).drivers.length = l.drivers.length := List.length_modify _ _ _
    have still : (l.cancel driver).drivers[i]? = some _ :=
      List.getElem?_eq_getElem (same.symm ▸ inside)
    obtain ⟨old, before, eq⟩ := getElem?_cancel_cases still
    obtain rfl := Option.some.inj (found.symm.trans before)
    exact ⟨_, still.trans (congrArg some eq)⟩
  have append : ∀ new : Driver, ∃ cancelled,
      (l.drivers ++ [new])[i]? = some { d with cancelled := cancelled } := by
    intro new
    rw [List.getElem?_append_left inside]
    exact kept
  cases goes with
  | calls | dials | redials | closes | returns | rejected | waits => exact .inr kept
  | replaces | stops => exact .inr (cancel _)
  | connects | fails => exact .inr (append _)
  | @drives driver d' event incident own found' takes =>
    dsimp only
    rw [List.getElem?_set]
    split
    · rename_i same
      subst same
      rw [found, Option.some.injEq] at found'
      subst found'
      exact .inl ⟨event, incident, own, takes, if_pos inside, rfl⟩
    · exact .inr kept

/-- Every driver was told to stop. -/
def Idle (l : Link) : Prop :=
  ∀ (i : Nat) (d : Driver), l.drivers[i]? = some d → d.cancelled = true

/-- Where every driver was told to stop, no driver goes on. -/
theorem Idle.elim (h : l.Idle) {i : Nat} {d : Driver} (found : l.drivers[i]? = some d)
    (running : d.cancelled = false) {p : Prop} : p := by
  rw [h i d found] at running
  cases running

/-- **Who may act**: a call to connect that has the lock, or the driver of the
session. -/
structure Guarded (l : Link) : Prop where
  /-- A call to connect keeps the lock while it waits. -/
  locked : ∀ (call : Nat) (token : String) (stage : CallStage),
    l.calls[call]? = some ⟨.connect token, stage⟩ → stage.isLocked = true → l.holder = some call
  /-- While a call has the lock there is no session. -/
  vacant : l.holder ≠ none → l.session = none
  /-- Every driver but that of the session was told to stop. -/
  alone : ∀ (i : Nat) (d : Driver), l.drivers[i]? = some d → d.cancelled = false →
    l.session = some i

theorem guarded_initial (policy : BackoffPolicy) : (initial policy).Guarded where
  locked := by simp [initial]
  vacant := by simp [initial]
  alone := by simp [initial]

namespace Guarded

/-- Without a session no driver goes on. -/
theorem idle (h : l.Guarded) (vacant : l.session = none) : l.Idle := by
  intro i d found
  by_contra running
  have owner := h.alone i d found (by simpa using running)
  rw [vacant] at owner
  cases owner

/-- While a call to connect has the lock no driver goes on. -/
theorem idle_of_locked (h : l.Guarded) {call : Nat} {token : String} {stage : CallStage}
    (found : l.calls[call]? = some ⟨.connect token, stage⟩) (locked : stage.isLocked = true) :
    l.Idle :=
  h.idle (h.vacant (by simp [h.locked call token stage found locked]))

/-- One call to connect has the lock. -/
theorem eq_of_locked (h : l.Guarded) {call other : Nat} {token token' : String}
    {stage stage' : CallStage} (found : l.calls[call]? = some ⟨.connect token, stage⟩)
    (found' : l.calls[other]? = some ⟨.connect token', stage'⟩) (locked : stage.isLocked = true)
    (locked' : stage'.isLocked = true) : call = other :=
  Option.some.inj ((h.locked call token stage found locked).symm.trans
    (h.locked other token' stage' found' locked'))

/-- A call comes to a stage, and the other calls have the lock as before. -/
theorem locked_of_setCall (h : l.Guarded) {l' : Link} {call : Nat} {stage : CallStage}
    (calls : l'.calls = (l.setCall call stage).calls)
    (self : ∀ token stage', l.calls[call]? = some ⟨.connect token, stage'⟩ →
      stage.isLocked = true → l'.holder = some call)
    (others : ∀ other, other ≠ call → l.holder = some other → l'.holder = some other)
    (other : Nat) (token : String) (stage' : CallStage)
    (found : l'.calls[other]? = some ⟨.connect token, stage'⟩) (locked : stage'.isLocked = true) :
    l'.holder = some other := by
  rw [calls, getElem?_setCall] at found
  split at found
  · rename_i same
    subst same
    obtain ⟨⟨request, old⟩, before, eq⟩ := Option.map_eq_some_iff.1 found
    cases eq
    exact self token old before locked
  · rename_i different
    exact others other (Ne.symm different) (h.locked other token stage' found locked)

/-- Where nobody had the lock, only the call that comes to a stage may have it. -/
theorem locked_of_free (h : l.Guarded) {l' : Link} {call : Nat} {stage : CallStage}
    (free : l.holder = none) (calls : l'.calls = (l.setCall call stage).calls)
    (self : ∀ token stage', l.calls[call]? = some ⟨.connect token, stage'⟩ →
      stage.isLocked = true → l'.holder = some call) (other : Nat) (token : String)
    (stage' : CallStage) (found : l'.calls[other]? = some ⟨.connect token, stage'⟩)
    (locked : stage'.isLocked = true) : l'.holder = some other := by
  refine h.locked_of_setCall calls self (fun _ _ held => ?_) other token stage' found locked
  rw [free] at held
  cases held

/-- Where a call gives the lock back, no call has it. -/
theorem locked_of_return (h : l.Guarded) {l' : Link} {call : Nat} {stage : CallStage}
    (holder : l.holder = some call) (calls : l'.calls = (l.setCall call stage).calls)
    (free : stage.isLocked = false) (other : Nat) (token : String) (stage' : CallStage)
    (found : l'.calls[other]? = some ⟨.connect token, stage'⟩) (locked : stage'.isLocked = true) :
    l'.holder = some other := by
  refine h.locked_of_setCall calls (fun _ _ _ locked => ?_) (fun other different held => ?_) other
    token stage' found locked
  · rw [free] at locked
    cases locked
  · rw [holder, Option.some.injEq] at held
    exact absurd held.symm different

/-- When a session ends, no driver goes on. -/
theorem idle_cancel (h : l.Guarded) {driver : Nat} (busy : l.session = some driver)
    {l' : Link} (drivers : l'.drivers = (l.cancel driver).drivers) : l'.Idle := by
  intro i d found
  obtain ⟨old, before, rfl⟩ := getElem?_cancel_cases (drivers ▸ found)
  cases running : old.cancelled with
  | true => rfl
  | false =>
    -- It is the driver of the session, which is told to stop.
    have owner := h.alone i old before running
    rw [busy, Option.some.injEq] at owner
    simp [owner]

/-- A driver starts when its call gives the lock back. -/
theorem startDriver (h : l.Guarded) {call : Nat} {token : String}
    (found : l.calls[call]? = some ⟨.connect token, .opening⟩) (status : ChannelStatus)
    (connected : Bool) : ((l.withStatus status).startDriver call token connected).Guarded := by
  have holder := h.locked call token .opening found rfl
  have idle := h.idle_of_locked found rfl
  refine ⟨h.locked_of_return holder rfl rfl, fun held => absurd rfl held, fun i d new running => ?_⟩
  rcases getElem?_startDriver_cases new with old | ⟨rfl, -⟩
  · exact idle.elim old running
  · rfl

/-- **Every move keeps it.** -/
theorem of_goes (h : l.Guarded) {now : Int} {draw : Float} {event : LinkEvent}
    {incidents : List Incident} {turn : LinkTurn} (goes : l.Goes now draw event incidents turn) :
    turn.link.Guarded := by
  cases goes with
  | calls =>
    exact ⟨fun call token stage found locked =>
      h.locked call token stage (getElem?_of_append_locking locked found) locked, h.vacant, h.alone⟩
  | dials _ next idle =>
    have free := holder_eq_none_of_isNext next
    refine ⟨h.locked_of_free free rfl fun _ _ _ _ => rfl, fun _ => rfl, ?_⟩
    exact fun i d found running => (h.idle idle).elim found running
  | replaces _ next busy =>
    have free := holder_eq_none_of_isNext next
    refine ⟨h.locked_of_free free rfl fun _ _ _ _ => rfl, fun _ => rfl, ?_⟩
    exact fun i d found running => (h.idle_cancel busy rfl).elim found running
  | @redials call _ token found _ =>
    have holder := h.locked call token _ found rfl
    exact ⟨h.locked_of_setCall rfl (fun _ _ _ _ => holder) fun _ _ held => held, h.vacant, h.alone⟩
  | closes found next idle =>
    have free := holder_eq_none_of_isNext next
    refine ⟨h.locked_of_free free rfl (fun _ _ _ locked => by cases locked),
      fun held => absurd rfl held, ?_⟩
    exact fun i d found running => (h.idle idle).elim found running
  | stops found next busy =>
    have free := holder_eq_none_of_isNext next
    refine ⟨h.locked_of_free free rfl fun _ _ connect _ => ?_, fun held => absurd rfl held, ?_⟩
    · rw [found] at connect
      cases connect
    · exact fun i d found running => (h.idle_cancel busy rfl).elim found running
  | returns found _ =>
    refine ⟨h.locked_of_setCall rfl (fun _ _ _ locked => by cases locked) fun _ _ held => held,
      h.vacant, h.alone⟩
  | connects found => exact h.startDriver found _ true
  | fails found _ => exact h.startDriver found _ false
  | @rejected call token _ found _ =>
    have holder := h.locked call token .opening found rfl
    have idle := h.vacant (by simp [holder])
    exact ⟨h.locked_of_return holder rfl rfl, fun _ => idle, h.alone⟩
  | @drives driver d _ _ turn found takes =>
    refine ⟨h.locked, h.vacant, fun i d' found' running => ?_⟩
    rcases getElem?_set_cases found' with ⟨rfl, rfl⟩ | ⟨-, before⟩
    · exact h.alone i d found (takes.frame.1 ▸ running)
    · exact h.alone i d' before running
  | waits => exact h

end Guarded

theorem guarded_run (policy : BackoffPolicy) (ms : List LinkMove) :
    ((initial policy).run ms).Guarded := by
  induction ms using List.reverseRecOn with
  | nil => exact guarded_initial policy
  | append_singleton ms m ih =>
    rw [run_concat]
    exact ih.of_goes (goes _ m.event m.now m.draw)

end Link

end Liveboard
