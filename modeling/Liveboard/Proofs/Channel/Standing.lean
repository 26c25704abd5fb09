import Mathlib.Data.List.DropRight
import Liveboard.Proofs.Channel.Course

/-!
# Reading the record of a manager

What is counted on a channel can be read off the record of what came about:
whether the connection has settled, how many attempts have failed and how
many were made since a call or a connection that settled last, and whether
the backend has rejected the token. An attempt has failed when it was
refused for a reason that may pass, and also when it has opened a connection
that was lost before it settled.

The readings look at the whole record, back to the last moment at which counting
started anew; whether that was such a moment depends on what came before it
again. `Course.standing_concat` says how all four grow when the record grows by an
incident, and nothing else about them is used elsewhere, so that a proof about
counts never looks into a record.
-/

namespace Liveboard

namespace Incident

/-- Whether a connection shows that it works. -/
def isSign : Incident → Bool
  | .frame _ _ | .outlived => true
  | _ => false

/-- Whether the token was rejected. -/
def isRejection : Incident → Bool
  | .refused error => !error.isRetryable
  | _ => false

end Incident

namespace Course

/-- The incidents of a record, each with those that came before it. -/
def moments (before : List Incident) : List Incident → List (List Incident × Incident)
  | [] => []
  | i :: rest => (before, i) :: moments (before ++ [i]) rest

/-- **Whether the connection has settled**: it has shown that it works since
it was opened. -/
def settled (log : List Incident) : Bool :=
  (log.rtakeWhile (· ≠ .opened)).any (·.isSign)

/-- Whether the token was rejected since a call has cleared the failures. -/
def rejected (log : List Incident) : Bool :=
  (log.rtakeWhile (· ≠ .cleared)).any (·.isRejection)

/-- Whether with an incident a connection settles. -/
def settles (before : List Incident) (i : Incident) : Bool :=
  i.isSign && !settled before

/-- Whether with an incident an attempt has failed: it was refused for a
reason that may pass, or its connection was lost before it settled. -/
def fails (before : List Incident) : Incident → Bool
  | .refused error => error.isRetryable
  | .lost => !settled before
  | _ => false

/-- Whether counting starts anew with an incident: a call clears the failures,
or a connection settles. -/
def restarts (before : List Incident) (i : Incident) : Bool :=
  i = .cleared || settles before i

/-- What has come about since counting started anew. -/
def sinceRestart (log : List Incident) : List (List Incident × Incident) :=
  (moments [] log).rtakeWhile fun m => !restarts m.1 m.2

/-- **The attempts that have failed** since the later of the last call to
connect and the last moment at which a connection settled. -/
def strikes (log : List Incident) : Nat :=
  (sinceRestart log).countP fun m => fails m.1 m.2

/-- **The attempts that were made** since then. -/
def dials (log : List Incident) : Nat :=
  (sinceRestart log).countP fun m => m.2 = .dialled

/-! ## One more incident -/

variable (log : List Incident) (i : Incident)

theorem moments_concat (before : List Incident) :
    moments before (log ++ [i]) = moments before log ++ [(before ++ log, i)] := by
  induction log generalizing before with
  | nil => simp [moments]
  | cons j log ih => simp [moments, ih]

theorem sinceRestart_concat :
    sinceRestart (log ++ [i])
      = if restarts log i then [] else sinceRestart log ++ [(log, i)] := by
  unfold sinceRestart
  rw [moments_concat, List.nil_append]
  cases restart : restarts log i with
  | true => exact List.rtakeWhile_concat_neg _ _ _ (by simp [restart])
  | false => exact List.rtakeWhile_concat_pos _ _ _ (by simp [restart])

theorem settled_concat :
    settled (log ++ [i]) = (i ≠ .opened && (settled log || i.isSign)) := by
  unfold settled
  by_cases opened : i = .opened
  · rw [List.rtakeWhile_concat_neg _ _ _ (by simp [opened])]
    simp [opened]
  · rw [List.rtakeWhile_concat_pos _ _ _ (by simp [opened])]
    simp [opened]

theorem rejected_concat :
    rejected (log ++ [i]) = (i ≠ .cleared && (rejected log || i.isRejection)) := by
  unfold rejected
  by_cases cleared : i = .cleared
  · rw [List.rtakeWhile_concat_neg _ _ _ (by simp [cleared])]
    simp [cleared]
  · rw [List.rtakeWhile_concat_pos _ _ _ (by simp [cleared])]
    simp [cleared]

theorem strikes_concat :
    strikes (log ++ [i])
      = if restarts log i then 0 else strikes log + (if fails log i then 1 else 0) := by
  unfold strikes
  rw [sinceRestart_concat]
  split
  · rfl
  · rw [List.countP_append, List.countP_singleton]

theorem dials_concat :
    dials (log ++ [i])
      = if restarts log i then 0 else dials log + (if i = .dialled then 1 else 0) := by
  unfold dials
  rw [sinceRestart_concat]
  split
  · rfl
  · rw [List.countP_append, List.countP_singleton]
    simp

/-- After a call, as long as no connection settles and no other call clears the
failures, every attempt counts. -/
theorem dials_append_cleared (before : List Incident) {after : List Incident}
    (unsettled : ∀ i ∈ after, i.isSign = false) (alone : .cleared ∉ after) :
    dials (before ++ .cleared :: after) = after.countP (· = .dialled) := by
  induction after using List.reverseRecOn with
  | nil =>
    rw [dials_concat]
    rfl
  | append_singleton after i ih =>
    have quiet : i.isSign = false ∧ i ≠ .cleared := by
      refine ⟨unsettled i (by simp), fun cleared => alone (by simp [cleared])⟩
    rw [← List.cons_append, ← List.append_assoc, dials_concat,
      ih (fun j hj => unsettled j (by simp [hj])) (fun mem => alone (by simp [mem])),
      List.countP_append, List.countP_singleton]
    simp [restarts, settles, quiet]

/-! ## All readings at once -/

/-- **What can be read off a record.** -/
structure Standing where
  /-- Whether the connection has settled. -/
  settled : Bool
  /-- Whether the token was rejected. -/
  rejected : Bool
  /-- The attempts that have failed. -/
  strikes : Nat
  /-- The attempts that were made. -/
  dials : Nat

/-- The readings of a record. -/
def standing (log : List Incident) : Standing :=
  ⟨settled log, rejected log, strikes log, dials log⟩

/-- **The readings after one more incident.** -/
def Standing.note (t : Standing) : Incident → Standing
  | .cleared => { t with rejected := false, strikes := 0, dials := 0 }
  | .dialled => { t with dials := t.dials + 1 }
  | .opened => { t with settled := false }
  | .refused error =>
    if error.isRetryable then { t with strikes := t.strikes + 1 } else { t with rejected := true }
  | .frame _ _ | .outlived =>
    if t.settled then t else { t with settled := true, strikes := 0, dials := 0 }
  | .garbled => t
  | .lost => if t.settled then t else { t with strikes := t.strikes + 1 }

namespace Standing

variable {t : Standing}

/-- A sign that comes from a settled connection is nothing new. -/
theorem note_sign_of_settled {i : Incident} (sign : i.isSign = true) (h : t.settled = true) :
    t.note i = t := by
  cases i with
  | frame | outlived => exact if_pos h
  | _ => cases sign

/-- With its first sign a connection settles. -/
theorem note_sign {i : Incident} (sign : i.isSign = true) (h : t.settled = false) :
    t.note i = { t with settled := true, strikes := 0, dials := 0 } := by
  cases i with
  | frame | outlived => exact if_neg (by simp [h])
  | _ => cases sign

theorem note_lost_of_settled (h : t.settled = true) : t.note .lost = t :=
  if_pos h

/-- A connection that is lost before it has settled is a failed attempt. -/
theorem note_lost (h : t.settled = false) : t.note .lost = { t with strikes := t.strikes + 1 } :=
  if_neg (by simp [h])

/-- A connection that is refused for a reason that may pass is a failed attempt. -/
theorem note_refused {error : ChannelError} (retryable : error.isRetryable = true) :
    t.note (.refused error) = { t with strikes := t.strikes + 1 } :=
  if_pos retryable

theorem note_rejected {error : ChannelError} (final : error.isRetryable = false) :
    t.note (.refused error) = { t with rejected := true } :=
  if_neg (by simp [final])

end Standing

theorem standing_concat : standing (log ++ [i]) = (standing log).note i := by
  simp only [standing, settled_concat, rejected_concat, strikes_concat, dials_concat, restarts,
    settles]
  cases i with
  | refused error =>
    by_cases retryable : error.isRetryable = true <;>
      simp [Standing.note, Incident.isSign, Incident.isRejection, fails, retryable]
  | frame | outlived | lost =>
    by_cases works : settled log = true <;>
      simp [Standing.note, Incident.isSign, Incident.isRejection, fails, works]
  | cleared | dialled | opened | garbled =>
    simp [Standing.note, Incident.isSign, Incident.isRejection, fails]

theorem standing_append (more : List Incident) :
    standing (log ++ more) = more.foldl Standing.note (standing log) := by
  induction more generalizing log with
  | nil => simp
  | cons i more ih =>
    rw [show log ++ i :: more = log ++ [i] ++ more by simp, ih, standing_concat]
    rfl

end Course

end Liveboard
