import Mathlib.Algebra.GroupWithZero.Nat
import Mathlib.Data.List.DropRight
import Liveboard.Proofs.Engine.Run

/-!
# Reading a record

The record of a run is cut into generations by the deeds that begin one.
This module says what can be read off a record: which deltas came in a stretch
of it (`Record.deltas`), what has come since the current generation was begun
or since the last snapshot was installed, whether the current generation has
landed, and how many deltas were too many over all generations
(`Record.overflow`).

An invariant of runs speaks of the record so far and is shown by adding a deed
at its end, while a record is a list that begins with the earliest. So beside
each reading stands how it grows when the record grows by a deed, and proofs use
that and not how the reading is defined.
-/

namespace Liveboard

namespace Record

/-- The deltas of a stretch of a record, in the order of receipt. -/
def deltas (log : List Deed) : List (UsageDelta × Int) :=
  log.filterMap Deed.delta?

/-- What has come since the current generation was begun. -/
def sinceBegun (log : List Deed) : List Deed :=
  log.rtakeWhile (!·.isBegun)

/-- What comes before the next generation is begun. -/
def untilBegun (log : List Deed) : List Deed :=
  log.takeWhile (!·.isBegun)

/-- What has come since a snapshot was installed last. -/
def sinceInstalled (log : List Deed) : List Deed :=
  log.rtakeWhile (!·.isInstalled)

/-- Whether the snapshot of the current generation was installed. -/
def landed (log : List Deed) : Bool :=
  (sinceBegun log).any (·.isInstalled)

/-- The deltas received in a generation before its snapshot. -/
def heldBack (generation : List Deed) : List (UsageDelta × Int) :=
  deltas (generation.takeWhile (!·.isInstalled))

/-- **The deltas that were too many**: for each generation those that it had
to hold back beyond the limit. -/
def overflow (limit : Nat) (log : List Deed) : Nat :=
  ((log.splitOnP (·.isBegun)).map fun generation => (heldBack generation).length - limit).sum

/-! ## Deltas -/

@[simp] theorem deltas_nil : deltas [] = [] := rfl

@[simp] theorem deltas_append (log more : List Deed) :
    deltas (log ++ more) = deltas log ++ deltas more :=
  List.filterMap_append

@[simp] theorem deltas_delta (event : Event) (d : UsageDelta) :
    deltas [.delta event d] = [(d, event.receivedAt)] := rfl

/-- A deed that is no delta adds none. -/
theorem deltas_singleton_of_none {d : Deed} (h : d.delta? = none) : deltas [d] = [] := by
  simp [deltas, h]

/-! ## Stretches -/

/-- Where taking has stopped, what comes later does not count. -/
theorem takeWhile_append_of_mem {α : Type} {p : α → Bool} {l : List α}
    (h : ∃ x ∈ l, p x = false) (more : List α) :
    (l ++ more).takeWhile p = l.takeWhile p := by
  obtain ⟨x, hx, stop⟩ := h
  rw [List.takeWhile_append, if_neg]
  intro same
  have all := List.takeWhile_eq_self_iff.1 ((List.takeWhile_sublist _).eq_of_length same)
  simpa [stop] using all x hx

section Stretches

variable {log after : List Deed} {d : Deed}

theorem sinceBegun_concat_begun (log : List Deed) : sinceBegun (log ++ [.begun]) = [] :=
  List.rtakeWhile_concat_neg _ _ _ (by simp [Deed.isBegun])

theorem sinceBegun_concat (h : d.isBegun = false) :
    sinceBegun (log ++ [d]) = sinceBegun log ++ [d] :=
  List.rtakeWhile_concat_pos _ _ _ (by simp [h])

theorem isBegun_of_mem_sinceBegun (h : d ∈ sinceBegun log) : d.isBegun = false := by
  simpa using List.mem_rtakeWhile_imp h

/-- Where no generation is begun, all that comes is since the last. -/
theorem sinceBegun_append (log : List Deed) {after : List Deed}
    (h : ∀ d ∈ after, d.isBegun = false) :
    sinceBegun (log ++ after) = sinceBegun log ++ after := by
  induction after using List.reverseRecOn with
  | nil => simp
  | append_singleton after d ih =>
    have hd : d.isBegun = false := h d (by simp)
    rw [← List.append_assoc, sinceBegun_concat hd, ih (fun x hx => h x (by simp [hx])),
      List.append_assoc]

theorem sinceInstalled_concat (h : d.isInstalled = false) :
    sinceInstalled (log ++ [d]) = sinceInstalled log ++ [d] :=
  List.rtakeWhile_concat_pos _ _ _ (by simp [h])

theorem sinceInstalled_concat_installed (log : List Deed) (snapshot : Snapshot) (time : Nat) :
    sinceInstalled (log ++ [.installed snapshot time]) = [] :=
  List.rtakeWhile_concat_neg _ _ _ (by simp [Deed.isInstalled])

/-- A new generation ends a stretch only if it was not ended already. -/
theorem untilBegun_concat_begun (after : List Deed) :
    untilBegun (after ++ [.begun]) = untilBegun after := by
  rw [untilBegun, List.takeWhile_append]
  split
  · rename_i h
    rw [List.takeWhile_cons_of_neg (by simp [Deed.isBegun]), List.append_nil]
    exact ((List.takeWhile_sublist _).eq_of_length h).symm
  · rfl

theorem untilBegun_eq_self (h : ∀ d ∈ after, d.isBegun = false) : untilBegun after = after :=
  List.takeWhile_eq_self_iff.2 (fun d hd => by simp [h d hd])

/-- What comes after the stretch does not count. -/
theorem untilBegun_append_of_mem (h : ∃ d ∈ after, d.isBegun = true) (more : List Deed) :
    untilBegun (after ++ more) = untilBegun after := by
  obtain ⟨d, hd, begun⟩ := h
  exact takeWhile_append_of_mem ⟨d, hd, by simp [begun]⟩ more

/-! ## Landing -/

@[simp] theorem landed_concat_begun (log : List Deed) : landed (log ++ [.begun]) = false := by
  rw [landed, sinceBegun_concat_begun]
  rfl

theorem landed_concat (h : d.isBegun = false) :
    landed (log ++ [d]) = (landed log || d.isInstalled) := by
  simp [landed, sinceBegun_concat h]

/-- A snapshot is of the current generation if none was begun after it. -/
theorem landed_append_installed (before : List Deed) (snapshot : Snapshot) (time : Nat)
    {after : List Deed} (h : ∀ d ∈ after, d.isInstalled = false) :
    landed (before ++ .installed snapshot time :: after) = after.all (!·.isBegun) := by
  induction after using List.reverseRecOn with
  | nil => rw [landed_concat rfl]; simp [Deed.isInstalled]
  | append_singleton after d ih =>
    have hd : d.isInstalled = false := h d (by simp)
    rw [← List.cons_append, ← List.append_assoc]
    cases begun : d.isBegun with
    | true =>
      obtain rfl := Deed.eq_begun begun
      rw [landed_concat_begun]
      simp [begun]
    | false =>
      rw [landed_concat begun, ih (fun x hx => h x (by simp [hx]))]
      simp [begun, hd]

end Stretches

/-! ## Deltas that are too many -/

/-- The last generation of a record is what has come since it was begun. -/
theorem exists_splitOnP_eq (log : List Deed) :
    ∃ earlier, ∀ more : List Deed, (∀ d ∈ more, d.isBegun = false) →
      (log ++ more).splitOnP (·.isBegun) = earlier ++ [sinceBegun log ++ more] := by
  induction log using List.reverseRecOn with
  | nil => exact ⟨[], fun more h => by simp [sinceBegun, List.splitOnP_eq_singleton h]⟩
  | append_singleton log d ih =>
    cases hd : d.isBegun with
    | true =>
      obtain rfl := Deed.eq_begun hd
      refine ⟨log.splitOnP (·.isBegun), fun more h => ?_⟩
      rw [List.append_assoc, sinceBegun_concat_begun, List.singleton_append,
        List.splitOnP_append_cons log more rfl, List.splitOnP_eq_singleton h]
      rfl
    | false =>
      obtain ⟨earlier, ih⟩ := ih
      refine ⟨earlier, fun more h => ?_⟩
      rw [List.append_assoc, sinceBegun_concat hd, List.append_assoc]
      exact ih _ (fun x hx => by
        rcases List.mem_cons.1 hx with rfl | hx
        · exact hd
        · exact h x hx)

/-- A generation that has just begun holds nothing back. -/
theorem overflow_concat_begun (limit : Nat) (log : List Deed) :
    overflow limit (log ++ [.begun]) = overflow limit log := by
  rw [overflow, List.splitOnP_append_cons log [] rfl]
  simp [overflow, heldBack]

/-- The overflow grows with that of the current generation. -/
theorem overflow_concat (limit : Nat) (log : List Deed) {d : Deed} (h : d.isBegun = false) :
    overflow limit (log ++ [d]) + ((heldBack (sinceBegun log)).length - limit)
      = overflow limit log + ((heldBack (sinceBegun log ++ [d])).length - limit) := by
  obtain ⟨earlier, split⟩ := exists_splitOnP_eq log
  have now := split [] (by simp)
  have next := split [d] (by simpa using h)
  rw [List.append_nil, List.append_nil] at now
  simp only [overflow, now, next, List.map_append, List.sum_append, List.map_cons, List.map_nil,
    List.sum_singleton]
  omega

/-- Before a generation has landed it holds back every delta. -/
theorem heldBack_sinceBegun_concat {log : List Deed} (h : landed log = false) (d : Deed) :
    heldBack (sinceBegun log ++ [d]) = deltas (sinceBegun log) ++ deltas [d] := by
  have none : ∀ x ∈ sinceBegun log, (!x.isInstalled) = true := by
    simpa [landed] using h
  rw [heldBack, List.takeWhile_append_of_pos none, deltas_append]
  cases d <;> rfl

theorem heldBack_sinceBegun {log : List Deed} (h : landed log = false) :
    heldBack (sinceBegun log) = deltas (sinceBegun log) := by
  have none : ∀ x ∈ sinceBegun log, (!x.isInstalled) = true := by
    simpa [landed] using h
  rw [heldBack, List.takeWhile_eq_self_iff.2 none]

/-- Once a generation has landed it holds nothing back any more. -/
theorem heldBack_of_landed {log : List Deed} (h : landed log = true) (more : List Deed) :
    heldBack (sinceBegun log ++ more) = heldBack (sinceBegun log) := by
  obtain ⟨d, hd, installed⟩ := List.any_eq_true.1 h
  rw [heldBack, takeWhile_append_of_mem ⟨d, hd, by simp [installed]⟩, heldBack]

end Record

end Liveboard
