import Liveboard.Proofs.Channel.Course
import Liveboard.Proofs.Channel.Telling

/-!
# What a manager receives

A manager enters every frame that it can read into its ledger, as the event of
the next number, and counts what it cannot read. No other incident is entered,
and nothing is ever taken back, neither by a call nor when a connection is
lost.

So the ledger of a run can be read off its record (`Link.books_run`): the
events are the frames that can be read, in the order of receipt, numbered from
one on. The events that are told are the same ones. That both come from one
record and not one from the other keeps what a listener receives apart from
what the status counts, and each move has to be looked at once, for both
(`Link.Goes.books`).
-/

namespace Liveboard

namespace Incident

/-- The frame that was read, with its time, if there is one. -/
def readable? : Incident → Option (Frame × Int)
  | .frame text time =>
    match Frame.parse text with
    | .ok f => some (f, time)
    | .error _ => none
  | _ => none

/-- Whether something was brought that cannot be read as a frame. -/
def isMalformed : Incident → Bool
  | .frame text time => (Incident.frame text time).readable?.isNone
  | .garbled => true
  | _ => false

/-- What can be read is not malformed. -/
theorem isMalformed_of_readable? {i : Incident} {frame : Frame × Int}
    (read : i.readable? = some frame) : i.isMalformed = false := by
  cases i with
  | frame text time => simp [isMalformed, read]
  | garbled => cases read
  | cleared | dialled | opened | refused | outlived | lost => rfl

end Incident

/-- **What was received**, as the status of the channel has it. -/
@[ext]
structure Ledger where
  /-- The number of the last event. -/
  sequence : Nat
  /-- The number of events received. -/
  received : Nat
  /-- The number of frames that could not be read. -/
  decodeErrors : Nat
  /-- The last event. -/
  lastMessage : Option Event

namespace Ledger

/-- The ledger before anything was received. -/
def empty : Ledger := ⟨0, 0, 0, none⟩

/-- The event of a frame, with the next number. -/
def next (b : Ledger) (frame : Frame × Int) : Event :=
  .ofFrame frame.1 (b.sequence + 1) frame.2

/-- **An incident is entered.** -/
def enter (b : Ledger) (i : Incident) : Ledger :=
  match i.readable? with
  | some frame =>
    { b with
      sequence := b.sequence + 1
      received := b.received + 1
      lastMessage := some (b.next frame) }
  | none => if i.isMalformed then { b with decodeErrors := b.decodeErrors + 1 } else b

/-- The events that are told when incidents are entered. -/
def events (b : Ledger) : List Incident → List Event
  | [] => []
  | i :: log => (i.readable?.map b.next).toList ++ (b.enter i).events log

theorem events_append (b : Ledger) (log more : List Incident) :
    b.events (log ++ more) = b.events log ++ (log.foldl enter b).events more := by
  induction log generalizing b with
  | nil => rfl
  | cons i log ih => rw [List.cons_append, events, ih, events, List.append_assoc, List.foldl_cons]

/-- **The events are the frames that can be read**, numbered in the order of
receipt. -/
theorem events_eq (b : Ledger) (log : List Incident) :
    b.events log
      = (log.filterMap Incident.readable?).mapIdx fun k frame =>
          .ofFrame frame.1 (b.sequence + k + 1) frame.2 := by
  induction log generalizing b with
  | nil => rfl
  | cons i log ih =>
    rw [events, ih]
    cases read : i.readable? with
    | none =>
      have same : (b.enter i).sequence = b.sequence := by
        unfold enter
        rw [read]
        dsimp only
        split <;> rfl
      rw [List.filterMap_cons_none read, same]
      rfl
    | some frame =>
      have more : (b.enter i).sequence = b.sequence + 1 := by
        unfold enter
        rw [read]
      rw [List.filterMap_cons_some read, List.mapIdx_cons, more]
      have shift : (fun k (frame : Frame × Int) =>
            Event.ofFrame frame.1 (b.sequence + 1 + k + 1) frame.2)
          = fun k frame => Event.ofFrame frame.1 (b.sequence + (k + 1) + 1) frame.2 := by
        funext k frame
        rw [Nat.add_right_comm b.sequence 1 k, Nat.add_assoc b.sequence k 1]
      rw [shift]
      rfl

/-- **The ledger after a list of incidents.** -/
theorem foldl_enter (b : Ledger) (log : List Incident) :
    log.foldl enter b
      = ⟨b.sequence + (b.events log).length, b.received + (b.events log).length,
          b.decodeErrors + log.countP (·.isMalformed),
          (b.events log).getLast?.or b.lastMessage⟩ := by
  induction log using List.reverseRecOn with
  | nil => rfl
  | append_singleton log i ih =>
    rw [List.foldl_append, List.foldl_cons, List.foldl_nil, events_append, List.countP_append,
      List.countP_singleton]
    simp only [events, List.append_nil]
    cases read : i.readable? with
    | none =>
      rw [enter, read, ih]
      by_cases malformed : i.isMalformed = true <;> simp [malformed, Nat.add_assoc]
    | some frame =>
      rw [enter, read, ih, Incident.isMalformed_of_readable? read]
      simp [Nat.add_assoc]

/-- The ledger of all that was received. -/
theorem foldl_enter_empty (log : List Incident) :
    log.foldl enter empty
      = ⟨(empty.events log).length, (empty.events log).length, log.countP (·.isMalformed),
          (empty.events log).getLast?⟩ := by
  rw [foldl_enter]
  simp [empty]

end Ledger

/-! ## Keeping the books -/

namespace ChannelStatus

/-- The ledger of a status. -/
def ledger (c : ChannelStatus) : Ledger :=
  ⟨c.sequence, c.received, c.decodeErrors, c.lastMessage⟩

variable (c : ChannelStatus)

@[simp] theorem ledger_setState (state : ChannelState) :
    (c.setState state).1.ledger = c.ledger := by
  unfold setState
  split <;> rfl

@[simp] theorem ledger_attemptFailed (error : ChannelError) :
    (c.attemptFailed error).1.ledger = c.ledger := by
  unfold attemptFailed
  dsimp only
  rw [ledger_setState]
  split <;> rfl

@[simp] theorem events_setState (state : ChannelState) :
    (c.setState state).2.filterMap ChannelNotice.event? = [] :=
  (c.quiet_setState state).1

@[simp] theorem events_attemptFailed (error : ChannelError) :
    (c.attemptFailed error).2.filterMap ChannelNotice.event? = [] :=
  (c.quiet_attemptFailed error).1

/-- **The books are kept**: what has come about is entered, and what is told of
events is what was entered. -/
structure Books (c c' : ChannelStatus) (log : List Incident) (notices : List ChannelNotice) :
    Prop where
  /-- The ledger after it. -/
  entered : c'.ledger = log.foldl Ledger.enter c.ledger
  /-- The events that are told. -/
  told : notices.filterMap ChannelNotice.event? = c.ledger.events log

/-- A text frame is entered. -/
theorem books_receive (frame : String) (now : Int) :
    c.Books (c.receive frame now).1 [.frame frame now] (c.receive frame now).2 := by
  unfold receive
  cases read : Frame.parse frame with
  | error fault =>
    have none : (Incident.frame frame now).readable? = none := by
      simp [Incident.readable?, read]
    have malformed : (Incident.frame frame now).isMalformed = true := by
      simp [Incident.isMalformed, none]
    constructor
    · rw [List.foldl_cons, Ledger.enter, none, malformed]
      rfl
    · rw [Ledger.events, none]
      rfl
  | ok f =>
    have some : (Incident.frame frame now).readable? = some (f, now) := by
      simp [Incident.readable?, read]
    constructor
    · rw [List.foldl_cons, Ledger.enter, some]
      rfl
    · rw [Ledger.events, some]
      rfl

end ChannelStatus

namespace Driver

variable {d : Driver} {c : ChannelStatus} {now : Int} {draw : Float}

/-- A driver without a connection enters nothing. -/
theorem Resumes.books {turn : DriverTurn} (h : d.Resumes c draw turn) :
    turn.status.ledger = c.ledger ∧ turn.notices.filterMap ChannelNotice.event? = [] := by
  cases h with
  | givesUp =>
    exact ⟨ChannelStatus.ledger_setState _ _, ChannelStatus.events_setState _ _⟩
  | pauses | stalls => exact ⟨rfl, rfl⟩

theorem Takes.books {event : DriverEvent} {incident : Option Incident} {turn : DriverTurn}
    (takes : d.Takes c now draw event incident turn) :
    c.Books turn.status incident.toList turn.notices := by
  cases takes with
  | begins | outlives | stops | waits => exact ⟨rfl, rfl⟩
  | seeks _ resumes =>
    obtain ⟨same, none⟩ := resumes.books
    exact ⟨same, none⟩
  | @reads settled text =>
    cases settled with
    | true => exact c.books_receive text now
    | false =>
      obtain ⟨entered, told⟩ := c.settle.books_receive text now
      exact ⟨entered, told⟩
  | drops => exact ⟨rfl, rfl⟩
  | @loses settled error _ turn _ _ resumes =>
    obtain ⟨same, none⟩ := resumes.books
    refine ⟨same.trans ?_, ?_⟩
    · rw [ChannelStatus.ledger_setState]
      cases settled <;> rfl
    · rw [List.filterMap_append, none, ChannelStatus.events_setState]
      rfl
  | dials => exact ⟨c.ledger_setState _, c.events_setState _⟩
  | connects => exact ⟨c.ledger_setState _, c.events_setState _⟩
  | fails _ _ _ resumes =>
    obtain ⟨same, none⟩ := resumes.books
    refine ⟨same.trans (c.ledger_attemptFailed _), ?_⟩
    rw [List.filterMap_append, none, ChannelStatus.events_attemptFailed]
    rfl
  | rejected => exact ⟨c.ledger_attemptFailed _, c.events_attemptFailed _⟩

end Driver

namespace Link

variable {l : Link}

/-- **Every move keeps the books.** -/
theorem Goes.books {now : Int} {draw : Float} {event : LinkEvent} {incidents : List Incident}
    {turn : LinkTurn} (goes : l.Goes now draw event incidents turn) :
    l.status.Books turn.link.status incidents turn.notices := by
  cases goes with
  | calls | replaces | stops | waits => exact ⟨rfl, rfl⟩
  | dials | redials =>
    exact ⟨l.status.clearFailures.ledger_setState _, l.status.clearFailures.events_setState _⟩
  | closes | returns | connects => exact ⟨l.status.ledger_setState _, l.status.events_setState _⟩
  | fails | rejected => exact ⟨l.status.ledger_attemptFailed _, l.status.events_attemptFailed _⟩
  | drives _ takes => exact takes.books

/-- **The books of a run.** -/
theorem books_run (l : Link) (ms : List LinkMove) :
    l.status.Books (l.run ms).status (l.record ms) (l.told ms) := by
  induction ms generalizing l with
  | nil => exact ⟨rfl, rfl⟩
  | cons m ms ih =>
    have first := (l.goes m.event m.now m.draw).books
    have rest := ih (l.after m)
    constructor
    · rw [run_cons, record, List.foldl_append, ← first.entered]
      exact rest.entered
    · rw [told, record, List.filterMap_append, Ledger.events_append, first.told, ← first.entered]
      exact congrArg _ rest.told

/-- What cannot be read leaves the connection and the numbers as they are, and
neither a state nor an event is told. -/
theorem handle_malformed {i : Nat} {d : Driver} {settled : Bool} {item : StreamItem} {now : Int}
    (found : l.drivers[i]? = some d) (stage : d.stage = .reading settled)
    (running : d.cancelled = false) (malformed : (Incident.ofItem now item).isMalformed = true)
    (draw : Float) :
    ∃ settled' failures,
      (l.handle (.driver i (.item item)) now draw).link
        = { l with
            status := { l.status with
              failures := failures
              decodeErrors := l.status.decodeErrors + 1 }
            drivers := l.drivers.set i { d with stage := .reading settled' } } ∧
      (l.handle (.driver i (.item item)) now draw).notices
        = [.meter (.count (.decodeErrors "frame"))] := by
  have handled : l.handle (.driver i (.item item)) now draw
      = ⟨{ l with
            status := (d.takeItem l.status settled item now draw).status
            drivers := l.drivers.set i (d.takeItem l.status settled item now draw).driver },
          (d.takeItem l.status settled item now draw).notices⟩ := by
    simp only [handle, drive, found, Driver.handle, stage, running]
  rw [handled]
  cases item with
  | text text =>
    have unread : (Incident.frame text now).readable? = none := by
      simpa [Incident.ofItem, Incident.isMalformed] using malformed
    have dropped : ∀ c : ChannelStatus, c.receive text now = c.dropFrame := by
      intro c
      unfold ChannelStatus.receive
      cases read : Frame.parse text with
      | error fault => rfl
      | ok f => simp [Incident.readable?, read] at unread
    have taken : d.takeItem l.status settled (.text text) now draw
        = ⟨(if settled then l.status else l.status.settle).dropFrame.1,
            { d with stage := .reading true }, [.meter (.count (.decodeErrors "frame"))]⟩ := by
      simp only [Driver.takeItem, dropped]
      rfl
    rw [taken]
    -- The connection has shown that it works, even though the frame is dropped.
    cases settled with
    | true => exact ⟨true, l.status.failures, rfl, rfl⟩
    | false => exact ⟨true, 0, rfl, rfl⟩
  | fault error =>
    cases error with
    | decode reason =>
      refine ⟨settled, l.status.failures, ?_, rfl⟩
      rw [← stage]
      rfl
    | transport | auth => cases malformed

end Link

end Liveboard
