import Mathlib.Data.List.Induction
import Liveboard.Proofs.Channel.Telling

/-!
# One driver at a time

Where calls do not overlap, at most one driver has not ended: the driver of
the session or, while a call waits for its end, the driver it has taken from
the session. It is called the owner of the channel here. While a call
attempts to open a connection the channel has no owner.

So no driver has a connection when a new one is told: every other driver
has ended, and the one that tells of it has only just got it
(`Link.Exclusive.no_connection`). `Link.Exclusive` fixes the shape of the list
of calls, every one but the last being done, and is kept by every move,
provided that a call begins only when no other is under way.
-/

namespace Liveboard

/-- Whether a driver has a connection. -/
def Driver.hasConnection (d : Driver) : Bool :=
  match d.stage with
  | .fresh connected => connected
  | .reading _ => true
  | _ => false

/-- A driver that has ended stays so. -/
theorem Driver.isEnded_handle {d : Driver} (h : d.isEnded = true) (event : DriverEvent)
    (c : ChannelStatus) (now : Int) (draw : Float) :
    (d.handle event c now draw).driver.isEnded = true := by
  have ended : d.stage = .ended := by simpa [isEnded] using h
  unfold handle
  rw [ended]
  split <;> simp_all

namespace Link

variable {l : Link}

/-! ## Drivers that have ended -/

@[simp] theorem hasEnded_setCall (l : Link) (call : Nat) (stage : CallStage) (driver : Nat) :
    (l.setCall call stage).hasEnded driver = l.hasEnded driver := rfl

@[simp] theorem hasEnded_unlock (l : Link) (driver : Nat) :
    l.unlock.hasEnded driver = l.hasEnded driver := rfl

@[simp] theorem hasEnded_cancel (l : Link) (other driver : Nat) :
    (l.cancel other).hasEnded driver = l.hasEnded driver := by
  unfold hasEnded cancel
  dsimp only
  rw [List.getElem?_modify]
  split <;> cases l.drivers[driver]? <;> rfl

theorem hasEnded_startDriver (l : Link) (call : Nat) (token : String) (connected : Bool)
    (driver : Nat) :
    (l.startDriver call token connected).hasEnded driver
      = if driver = l.drivers.length then false else l.hasEnded driver := by
  have drivers : (l.startDriver call token connected).drivers
      = l.drivers ++ [.fresh l.policy token connected] := rfl
  unfold hasEnded
  rw [drivers, List.getElem?_append]
  rcases Nat.lt_trichotomy driver l.drivers.length with before | rfl | after
  · rw [if_pos before, if_neg (Nat.ne_of_lt before)]
  · simp [Driver.isEnded, Driver.fresh]
  · have beyond : l.drivers.length ≤ driver := Nat.le_of_lt after
    have outside : 1 ≤ driver - l.drivers.length := by omega
    rw [if_neg (by omega), if_neg (by omega), List.getElem?_eq_none (by simpa using outside),
      List.getElem?_eq_none beyond]

/-- A driver that has ended stays so. -/
theorem hasEnded_drive {other driver : Nat} {event : DriverEvent} {now : Int} {draw : Float}
    (h : l.hasEnded driver = true) :
    (l.drive other event now draw).link.hasEnded driver = true := by
  unfold drive
  split
  · rename_i d found
    unfold hasEnded at h ⊢
    dsimp only
    rw [List.getElem?_set]
    split
    · rename_i same
      subst same
      rw [found] at h
      split
      · exact Driver.isEnded_handle h event l.status now draw
      · rfl
    · exact h
  · exact h

/-! ## The owner of the channel -/

/-- The owner of the channel while the last call is at a stage. -/
def stageOwner? (session : Option Nat) : CallStage → Option Nat
  | .stopping driver => some driver
  | .opening => none
  | .locking | .done _ => session

/-- **The owner of the channel**: the driver whose end the last call waits
for, and the driver of the session otherwise. -/
def owner? (l : Link) : Option Nat :=
  match l.calls.getLast? with
  | some c => stageOwner? l.session c.stage
  | none => l.session

/-- **One driver at a time.** -/
structure Exclusive (l : Link) : Prop where
  /-- Only the last call is under way. -/
  done : ∀ c ∈ l.calls.dropLast, c.isDone = true
  /-- Only the owner has not ended. -/
  ended : ∀ driver, l.hasEnded driver = false → l.owner? = some driver
  /-- A call past the lock has taken the session. -/
  taken : ∀ c, l.calls.getLast? = some c → c.isDone = false → c.stage ≠ .locking →
    l.session = none

theorem exclusive_initial (policy : BackoffPolicy) : (initial policy).Exclusive where
  done := by simp [initial]
  ended := by simp [initial, hasEnded]
  taken := by simp [initial]

theorem owner?_of_concat {earlier : List Call} {c : Call} (calls : l.calls = earlier ++ [c]) :
    l.owner? = stageOwner? l.session c.stage := by
  rw [owner?, calls, List.getLast?_concat]

namespace Exclusive

/-- A manager whose calls but for the last are done. -/
theorem of_concat {earlier : List Call} {c : Call} (calls : l.calls = earlier ++ [c])
    (done : ∀ x ∈ earlier, x.isDone = true)
    (ended : ∀ driver, l.hasEnded driver = false → stageOwner? l.session c.stage = some driver)
    (taken : c.isDone = false → c.stage ≠ .locking → l.session = none) : l.Exclusive where
  done := by simpa [calls] using done
  ended := by
    rw [owner?_of_concat calls]
    exact ended
  taken := by
    intro x last
    rw [calls, List.getLast?_concat, Option.some.injEq] at last
    exact last ▸ taken

/-- A call that is under way is the last. -/
theorem eq_last (h : l.Exclusive) {call : Nat} {c : Call} (found : l.calls[call]? = some c)
    (going : c.isDone = false) : ∃ earlier, l.calls = earlier ++ [c] ∧ call = earlier.length := by
  cases calls : l.calls using List.reverseRecOn with
  | nil => simp [calls] at found
  | append_singleton earlier last =>
    have done := h.done
    rw [calls, List.dropLast_concat] at done
    rw [calls, List.getElem?_append] at found
    split at found
    · have := done c (List.mem_of_getElem? found)
      rw [this] at going
      cases going
    · rename_i beyond
      rw [List.getElem?_singleton] at found
      split at found
      · rename_i zero
        cases found
        exact ⟨earlier, rfl, by omega⟩
      · cases found

/-- While all calls are done, the owner is the driver of the session. -/
theorem owner?_of_settled (settled : l.settled = true) : l.owner? = l.session := by
  unfold owner?
  cases last : l.calls.getLast? with
  | none => rfl
  | some c =>
    have done := List.all_eq_true.1 settled c (List.mem_of_getLast? last)
    unfold Call.isDone at done
    cases stage : c.stage with
    | done error => simp [stage, stageOwner?]
    | locking | stopping driver | opening => simp [stage] at done

/-- A call moves on to a stage. -/
theorem setCall_concat {earlier : List Call} {c : Call} (calls : l.calls = earlier ++ [c])
    (stage : CallStage) :
    (l.setCall earlier.length stage).calls = earlier ++ [{ c with stage := stage }] := by
  show l.calls.modify earlier.length (fun c => { c with stage := stage }) = _
  rw [calls]
  clear calls
  induction earlier with
  | nil => rfl
  | cons x earlier ih => simpa using ih

/-- A new call begins. -/
theorem call (h : l.Exclusive) (settled : l.settled = true) (request : Request) (now : Int)
    (draw : Float) : (l.handle (.call request) now draw).link.Exclusive :=
  of_concat rfl (List.all_eq_true.1 settled)
    (fun driver going => owner?_of_settled settled ▸ h.ended driver going)
    (fun _ past => absurd rfl past)

/-- A driver takes its turn. -/
theorem drive (h : l.Exclusive) (driver : Nat) (event : DriverEvent) (now : Int) (draw : Float) :
    (l.drive driver event now draw).link.Exclusive := by
  have calls : (l.drive driver event now draw).link.calls = l.calls := by
    unfold Link.drive
    split <;> rfl
  have session : (l.drive driver event now draw).link.session = l.session := by
    unfold Link.drive
    split <;> rfl
  have owner : (l.drive driver event now draw).link.owner? = l.owner? := by
    rw [owner?, calls, session, owner?]
  constructor
  · rw [calls]
    exact h.done
  · -- A driver may end when it takes its turn, but none that has ended comes back.
    intro other going
    rw [owner]
    refine h.ended other ?_
    cases ended : l.hasEnded other with
    | false => rfl
    | true =>
      rw [hasEnded_drive ended] at going
      cases going
  · rw [calls, session]
    exact h.taken

section Proceeding

variable {earlier : List Call} {c : Call}

/-- What is known while a call is under way. -/
theorem of_going (h : l.Exclusive) (calls : l.calls = earlier ++ [c]) :
    (∀ x ∈ earlier, x.isDone = true) ∧
      (∀ driver, l.hasEnded driver = false → stageOwner? l.session c.stage = some driver) ∧
      (c.isDone = false → c.stage ≠ .locking → l.session = none) := by
  refine ⟨?_, ?_, ?_⟩
  · have done := h.done
    rwa [calls, List.dropLast_concat] at done
  · intro driver going
    rw [← owner?_of_concat calls]
    exact h.ended driver going
  · exact h.taken c (by rw [calls, List.getLast?_concat])

/-- A call attempts to open a connection once every driver has ended. -/
theorem beginOpening (calls : l.calls = earlier ++ [c]) (done : ∀ x ∈ earlier, x.isDone = true)
    (session : l.session = none) (ended : ∀ driver, l.hasEnded driver = true) :
    (l.beginOpening earlier.length).link.Exclusive := by
  refine of_concat (c := { c with stage := .opening }) ?_ done ?_ fun _ _ => session
  · exact setCall_concat (l := { l with status := l.status.clearFailures }) calls .opening
  · intro driver going
    have := ended driver
    rw [show (l.beginOpening earlier.length).link.hasEnded driver = l.hasEnded driver from rfl,
      this] at going
    cases going

/-- A call to disconnect returns once every driver has ended. -/
theorem finishClosing (calls : l.calls = earlier ++ [c]) (done : ∀ x ∈ earlier, x.isDone = true)
    (ended : ∀ driver, l.hasEnded driver = true) :
    (l.finishClosing earlier.length).link.Exclusive := by
  refine of_concat (c := { c with stage := .done none }) ?_ done ?_ fun going => by cases going
  · exact setCall_concat calls (.done none)
  · intro driver going
    have := ended driver
    rw [show (l.finishClosing earlier.length).link.hasEnded driver = l.hasEnded driver from rfl,
      this] at going
    cases going

/-- Where a driver that has ended is the only one that had not, all have. -/
theorem all_ended {stopped : Nat}
    (ended : ∀ driver, l.hasEnded driver = false → some stopped = some driver)
    (h : l.hasEnded stopped = true) (driver : Nat) : l.hasEnded driver = true := by
  cases going : l.hasEnded driver with
  | true => rfl
  | false =>
    obtain rfl := Option.some.inj (ended driver going)
    rw [h] at going
    cases going

/-- While a call attempts to open a connection every driver has ended. -/
theorem ended_of_opening (h : l.Exclusive) (calls : l.calls = earlier ++ [c])
    (opening : c.stage = .opening) (driver : Nat) : l.hasEnded driver = true := by
  obtain ⟨-, ended, -⟩ := h.of_going calls
  rw [opening] at ended
  cases going : l.hasEnded driver with
  | true => rfl
  | false => cases ended driver going

/-- A call that takes the session waits for the end of its driver. -/
theorem of_stopping {l' : Link} {driver : Nat}
    (calls : l'.calls = earlier ++ [{ c with stage := .stopping driver }])
    (done : ∀ x ∈ earlier, x.isDone = true) (session : l'.session = none)
    (ended : ∀ other, l'.hasEnded other = false → some driver = some other) : l'.Exclusive :=
  of_concat calls done ended fun _ _ => session

/-- A call gets the lock. -/
theorem grant (h : l.Exclusive) (calls : l.calls = earlier ++ [c]) (locking : c.stage = .locking)
    (request : Request) : (l.grant earlier.length request).link.Exclusive := by
  obtain ⟨done, ended, -⟩ := h.of_going calls
  rw [locking] at ended
  have idle : l.session = none → ∀ driver, l.hasEnded driver = true := by
    intro session driver
    cases going : l.hasEnded driver with
    | true => rfl
    | false =>
      have owner := ended driver going
      rw [session] at owner
      cases owner
  unfold Link.grant
  dsimp only
  split
  · rename_i driver session
    refine of_stopping (setCall_concat calls (.stopping driver)) done rfl fun other going => ?_
    rw [hasEnded_setCall, hasEnded_cancel] at going
    exact session ▸ ended other going
  · rename_i session
    exact beginOpening calls done rfl (idle session)
  · rename_i driver session
    refine of_stopping (setCall_concat calls (.stopping driver)) done rfl fun other going => ?_
    rw [hasEnded_unlock, hasEnded_setCall, hasEnded_cancel] at going
    exact session ▸ ended other going
  · rename_i session
    exact finishClosing calls done (idle session)

/-- **A call goes on.** -/
theorem proceed (h : l.Exclusive) (call : Nat) : (l.proceed call).link.Exclusive := by
  unfold Link.proceed
  split
  · rename_i request found
    obtain ⟨earlier, calls, rfl⟩ := h.eq_last found rfl
    split
    · exact h.grant calls rfl request
    · exact h
  · rename_i token driver found
    obtain ⟨earlier, calls, rfl⟩ := h.eq_last found rfl
    obtain ⟨done, ended, taken⟩ := h.of_going calls
    split
    · rename_i stopped
      exact beginOpening calls done (taken rfl (by simp)) (all_ended ended stopped)
    · exact h
  · rename_i driver found
    obtain ⟨earlier, calls, rfl⟩ := h.eq_last found rfl
    obtain ⟨done, ended, -⟩ := h.of_going calls
    split
    · rename_i stopped
      exact finishClosing calls done (all_ended ended stopped)
    · exact h
  · exact h

/-- A call starts a driver once every other has ended. -/
theorem startDriver (calls : l.calls = earlier ++ [c]) (done : ∀ x ∈ earlier, x.isDone = true)
    (ended : ∀ driver, l.hasEnded driver = true) (token : String) (connected : Bool) :
    (l.startDriver earlier.length token connected).Exclusive := by
  refine of_concat (c := { c with stage := .done none }) ?_ done ?_ fun going => by cases going
  · exact setCall_concat calls (.done none)
  · intro driver going
    rw [hasEnded_startDriver] at going
    -- Only the new driver has not ended, and the session is its own.
    split at going
    · rename_i new
      exact congrArg some new.symm
    · rw [ended driver] at going
      cases going

/-- **The attempt of a call is answered.** -/
theorem takeAnswer (h : l.Exclusive) (calls : l.calls = earlier ++ [c])
    (opening : c.stage = .opening) (token : String) (result : Except ChannelError Unit) :
    (l.takeAnswer earlier.length token result).link.Exclusive := by
  obtain ⟨done, -, -⟩ := h.of_going calls
  have ended := h.ended_of_opening calls opening
  unfold Link.takeAnswer
  cases result with
  | ok _ => exact startDriver (l := (l.setState .connected).link) calls done ended token true
  | error error =>
    dsimp only
    split
    · exact startDriver (l := { l with status := (l.status.attemptFailed error).1 }) calls done
        ended token false
    · refine of_concat (c := { c with stage := .done (some error) }) ?_ done ?_
        fun going => by cases going
      · exact setCall_concat (l := { l with status := (l.status.attemptFailed error).1 }) calls
          (.done (some error))
      · intro driver going
        rw [hasEnded_unlock, hasEnded_setCall] at going
        exact absurd (ended driver) (by simpa [hasEnded] using going)

end Proceeding

/-- **Every move keeps it**, provided that a call begins only when no other is
under way. -/
theorem handle (h : l.Exclusive) (event : LinkEvent)
    (orderly : ∀ request, event = .call request → l.settled = true) (now : Int) (draw : Float) :
    (l.handle event now draw).link.Exclusive := by
  cases event with
  | call request => exact h.call (orderly request rfl) request now draw
  | proceed call => exact h.proceed call
  | answered call result =>
    simp only [Link.handle]
    split
    · rename_i token found
      obtain ⟨earlier, calls, rfl⟩ := h.eq_last found rfl
      exact h.takeAnswer calls rfl token result
    · exact h
  | driver driver event => exact h.drive driver event now draw

/-- **No driver has a connection when one is told.** -/
theorem no_connection (h : l.Exclusive) {event : LinkEvent} {now : Int} {draw : Float}
    (told : .state .connected ∈ (l.handle event now draw).notices) :
    ∀ d ∈ l.drivers, d.hasConnection = false := by
  have of_ended : ∀ d : Driver, d.isEnded = true → d.hasConnection = false := by
    intro d ended
    have stage : d.stage = .ended := by simpa [Driver.isEnded] using ended
    simp [Driver.hasConnection, stage]
  intro d hd
  obtain ⟨i, hi, rfl⟩ := List.getElem_of_mem hd
  have found : l.drivers[i]? = some l.drivers[i] := List.getElem?_eq_getElem hi
  rcases connected_told told with ⟨call, token, -, going⟩ | ⟨driver, d, -, attempting, opening, -⟩
  · -- A call has opened the connection, once every driver had ended.
    obtain ⟨earlier, calls, rfl⟩ := h.eq_last going rfl
    have ended := h.ended_of_opening calls rfl i
    rw [hasEnded, found] at ended
    exact of_ended _ ended
  · -- A driver has opened it: it is the owner, and the others have ended.
    have owner : l.owner? = some driver := by
      refine h.ended driver ?_
      rw [hasEnded, attempting]
      simp [Driver.isEnded, opening]
    cases ended : l.hasEnded i with
    | true =>
      rw [hasEnded, found] at ended
      exact of_ended _ ended
    | false =>
      obtain rfl : driver = i := Option.some.inj (owner.symm.trans (h.ended i ended))
      obtain rfl : l.drivers[driver] = d := Option.some.inj (found.symm.trans attempting)
      simp [Driver.hasConnection, opening]

end Exclusive

end Link

end Liveboard
