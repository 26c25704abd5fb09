import Liveboard.Proofs.Engine.Replay

/-!
# Deltas and the request they came after

A pull that fails is made again, and the generation stays the same. The
deltas held back stay as well: nothing but a new generation and a snapshot
empties them. So a snapshot that a second attempt brings has merged into it
what had come in before that attempt was requested, which the backend may
have counted already.

The first attempt of a generation counts as requested when the generation is
begun, every later one when it is made (`Record.beforeRequest`,
`Record.sinceRequest`). The deltas merged into a snapshot are among those
received since its request just if there were no earlier ones in the generation
or the later ones have pushed them out (`Launch.replayed_run`), and
`Launch.replayed_retried` is a run where they are not.
-/

namespace Liveboard

open Record

namespace Record

/-- What has come in the current generation since its latest attempt was
requested. -/
def sinceRequest (log : List Deed) : List Deed :=
  (sinceBegun log).rtakeWhile (!·.isRetry)

/-- What had come in the current generation when its latest attempt was
requested. -/
def beforeRequest (log : List Deed) : List Deed :=
  (sinceBegun log).rdropWhile (!·.isRetry)

/-- The latest attempt cuts the generation in two. -/
theorem beforeRequest_append_sinceRequest (log : List Deed) :
    beforeRequest log ++ sinceRequest log = sinceBegun log := by
  rw [beforeRequest, sinceRequest, List.rdropWhile_append_rtakeWhile]

/-- The latest entries of two lists are of the second just if the first is
empty or the second has enough. -/
theorem rtake_append_suffix_iff {α : Type} (early late : List α) (n : Nat) :
    (early ++ late).rtake n <:+ late ↔ early = [] ∨ n ≤ late.length := by
  have latest : (early ++ late).rtake n <:+ early ++ late := List.drop_suffix _ _
  constructor
  · intro h
    have length := h.length_le
    rw [length_rtake, List.length_append] at length
    rw [← List.length_eq_zero_iff]
    omega
  · intro h
    refine List.suffix_of_suffix_length_le latest (List.suffix_append _ _) ?_
    rw [length_rtake, List.length_append]
    rw [← List.length_eq_zero_iff] at h
    omega

end Record

/-- A delta comes in during the first attempt. -/
def Occasion.deltaInPull : List Occasion :=
  ofEvents [.pull 1, .delta (.ofRequests 5 1)]

/-- A delta comes in during the first attempt, which fails, and a second one
is made. -/
def Occasion.deltaThenRetry : List Occasion :=
  deltaInPull ++ ofEvents [.landed 1 (.error (.transport "503")), .pull 1]

namespace Launch

/-- **What is merged into a snapshot.** When a pull of the current generation
brings a snapshot, the latest of the deltas received since the generation
was begun are merged into it, as many as may be held back. They are all from
the time since the pull was requested just if none had come in before, or as
many came in since as may be held back. -/
theorem replayed_run (l : Launch) (os : List Occasion) (running : (l.run os).stopped = false)
    (pulling : (l.run os).stageOf? (l.run os).generation = some .pulling) (snapshot : Snapshot)
    (cache : SnapshotCache) (now : Nat) :
    (l.run (os ++ [⟨.landed (l.run os).generation (.ok snapshot), cache, now⟩])).view
        = some ((View.ofSnapshot snapshot now).applyAll
          ((deltas (sinceBegun (l.record os))).rtake (max l.settings.maxPending 1))) ∧
      sinceBegun (l.record os) = beforeRequest (l.record os) ++ sinceRequest (l.record os) ∧
      ((deltas (sinceBegun (l.record os))).rtake (max l.settings.maxPending 1)
          <:+ deltas (sinceRequest (l.record os)) ↔
        deltas (beforeRequest (l.record os)) = [] ∨
          max l.settings.maxPending 1 ≤ (deltas (sinceRequest (l.record os))).length) := by
  have accounts := l.accounts_run os
  have hd : (l.run os).workings.deed?
      ⟨.landed (l.run os).generation (.ok snapshot), cache, now⟩
        = some (.installed snapshot now) := by
    have current : (l.run os).isCurrent (l.run os).generation = true :=
      Engine.isCurrent_iff.2 ⟨running, rfl⟩
    simp [Workings.deed?, current, pulling]
  have notLanded := (l.fits_run os).landed_eq_false hd rfl
  refine ⟨?_, (beforeRequest_append_sinceRequest _).symm, ?_⟩
  · have next := congrArg Figures.view ((l.run os).figures_after
      ⟨.landed (l.run os).generation (.ok snapshot), cache, now⟩)
    rw [hd] at next
    have held : (l.run os).figures.pending
        = (deltas (sinceBegun (l.record os))).rtake (max l.settings.maxPending 1) := by
      rw [accounts.pending_eq, notLanded]
      rfl
    rw [run_concat, ← held]
    exact next
  · rw [← beforeRequest_append_sinceRequest, deltas_append]
    exact rtake_append_suffix_iff _ _ _

/-- With a first attempt alone, what is merged came after its request. -/
theorem replayed_run_bare :
    ((bare 5).run Occasion.deltaInPull).stopped = false ∧
      ((bare 5).run Occasion.deltaInPull).stageOf?
        ((bare 5).run Occasion.deltaInPull).generation = some .pulling ∧
      (deltas (sinceBegun ((bare 5).record Occasion.deltaInPull))).rtake 5
        <:+ deltas (sinceRequest ((bare 5).record Occasion.deltaInPull)) := by
  have running : ((bare 5).run Occasion.deltaInPull).stopped = false := rfl
  have pulling : ((bare 5).run Occasion.deltaInPull).stageOf?
      ((bare 5).run Occasion.deltaInPull).generation = some .pulling := rfl
  have none : deltas (beforeRequest ((bare 5).record Occasion.deltaInPull)) = [] := rfl
  obtain ⟨-, -, within⟩ := replayed_run (bare 5) Occasion.deltaInPull running pulling
    (.ofStreams 100) .empty 0
  exact ⟨running, pulling, within.2 (.inl none)⟩

/-- **A delta that is counted twice.** It comes in before the first attempt
fails; the second attempt, requested after it, brings a snapshot of 105
streams, and the delta is merged into that: the view has 110. -/
theorem replayed_retried :
    ((bare 5).run Occasion.deltaThenRetry).stopped = false ∧
      ((bare 5).run Occasion.deltaThenRetry).stageOf?
        ((bare 5).run Occasion.deltaThenRetry).generation = some .pulling ∧
      (deltas (sinceBegun ((bare 5).record Occasion.deltaThenRetry))).rtake 5
        = [(⟨5, 0, 2⟩, 1)] ∧
      ¬ [(⟨5, 0, 2⟩, 1)] <:+ deltas (sinceRequest ((bare 5).record Occasion.deltaThenRetry)) ∧
      ((bare 5).run (Occasion.deltaThenRetry
        ++ [⟨.landed 1 (.ok (.ofStreams 105)), .empty, 0⟩])).view.map (·.totalStreams)
          = some 110 := by
  have none : deltas (sinceRequest ((bare 5).record Occasion.deltaThenRetry)) = [] := rfl
  refine ⟨rfl, rfl, rfl, ?_, ?_⟩
  · rw [none]
    simp
  · decide +kernel

end Launch

end Liveboard
