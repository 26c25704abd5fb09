import Liveboard.Proofs.Engine.Run

/-!
# Stopped engines

A stopped engine may still be asked for a new snapshot, and begins no generation.
The pulls that are under way are not broken off: each lands in its time, and is
dropped. No loop that has failed waits for another pull, and no loop is begun. So
but for its fetch loops, of which there are fewer and fewer, the engine stays as
it is, and so does the cache that it shares (`Engine.handle_of_stopped`).

That there are fewer loops is not enough to say of them: `FetchLoop.Fade` also
says that none of them waits for another pull, and that one that has made its pull
makes no other.
-/

namespace Liveboard

/-! ## Fetch loops that fade -/

namespace FetchLoop

/-- No loop waits for another pull after one that has failed. -/
def Quiet (loops : List FetchLoop) : Prop :=
  ∀ l ∈ loops, l.stage ≠ .resting

/-- **What is left of fetch loops** of which none is begun again: no loop is new,
none waits for another pull, and one that has made its pull makes no other. -/
structure Fade (loops later : List FetchLoop) : Prop where
  /-- No loop is new. -/
  old : (later.map (·.generation)).Sublist (loops.map (·.generation))
  /-- None waits for another pull. -/
  quiet : Quiet later
  /-- A loop whose pull is under way waits for its result to the end. -/
  pulling : ∀ l ∈ later, ∃ l' ∈ loops, l'.generation = l.generation ∧
    (l'.stage = .pulling → l.stage = .pulling)

namespace Quiet

variable {loops : List FetchLoop}

/-- Some loops end. -/
theorem filter (h : Quiet loops) (keep : FetchLoop → Bool) : Quiet (loops.filter keep) :=
  fun l mem => h l (List.mem_filter.1 mem).1

/-- A loop makes its pull. -/
theorem pull (h : Quiet loops) (generation : Nat) :
    Quiet (loops.map fun l =>
      if l.generation = generation then { l with stage := .pulling } else l) := by
  intro l mem
  obtain ⟨l', mem', rfl⟩ := List.mem_map.1 mem
  split
  · exact FetchStage.noConfusion
  · exact h l' mem'

end Quiet

namespace Fade

variable {loops later last : List FetchLoop}

theorem refl (quiet : Quiet loops) : Fade loops loops :=
  ⟨.refl _, quiet, fun l mem => ⟨l, mem, rfl, id⟩⟩

theorem trans (h : Fade loops later) (h' : Fade later last) : Fade loops last := by
  refine ⟨h'.old.trans h.old, h'.quiet, fun l mem => ?_⟩
  obtain ⟨l', mem', same, pulls⟩ := h'.pulling l mem
  obtain ⟨l'', mem'', same', pulls'⟩ := h.pulling l' mem'
  exact ⟨l'', mem'', same'.trans same, pulls ∘ pulls'⟩

/-- Some loops end. -/
theorem filter (quiet : Quiet loops) (keep : FetchLoop → Bool) :
    Fade loops (loops.filter keep) where
  old := List.filter_sublist.map _
  quiet := quiet.filter keep
  pulling := fun l mem => ⟨l, (List.mem_filter.1 mem).1, rfl, id⟩

/-- A loop makes its pull. -/
theorem pull (quiet : Quiet loops) (generation : Nat) :
    Fade loops (loops.map fun l =>
      if l.generation = generation then { l with stage := .pulling } else l) where
  old := by
    have same : (loops.map fun l =>
        if l.generation = generation then { l with stage := .pulling } else l).map (·.generation)
          = loops.map (·.generation) := by
      rw [List.map_map]
      refine List.map_congr_left fun l _ => ?_
      rw [Function.comp_apply]
      split <;> rfl
    exact same ▸ List.Sublist.refl _
  quiet := quiet.pull generation
  pulling := by
    intro l mem
    obtain ⟨l', mem', rfl⟩ := List.mem_map.1 mem
    refine ⟨l', mem', ?_, fun pulls => ?_⟩
    · split <;> rfl
    · split
      · rfl
      · exact pulls

end Fade

end FetchLoop

/-! ## Engines that were stopped -/

/-- Whether an event comes from whoever has the engine or from its loops: it is
asked for a new snapshot, or a loop goes on. -/
def EngineEvent.isOwn : EngineEvent → Bool
  | .refresh | .pull _ | .landed _ _ => true
  | .delta _ | .channel _ | .stop => false

open FetchLoop

/-- **What a stopped engine does when it is asked**: its loops fade. The cache
stays, and no loop is begun. -/
theorem Engine.handle_of_stopped {e : Engine} (stopped : e.stopped = true) (quiet : Quiet e.loops)
    {event : EngineEvent} (own : event.isOwn = true) (cache : SnapshotCache) (now : Nat) :
    (∃ loops, (e.handle event cache now).engine = { e with loops := loops } ∧ Fade e.loops loops) ∧
      (e.handle event cache now).cache = cache ∧
      ∀ generation, .fetch generation ∉ (e.handle event cache now).notices := by
  have inert : (∃ loops, e = { e with loops := loops } ∧ Fade e.loops loops) ∧ cache = cache ∧
      ∀ generation, EngineNotice.fetch generation ∉ [] :=
    ⟨⟨e.loops, rfl, .refl quiet⟩, rfl, fun _ => List.not_mem_nil⟩
  cases event with
  | refresh =>
    -- It begins no generation.
    have none : e.handle .refresh cache now = ⟨e, cache, []⟩ := if_pos stopped
    rw [none]
    exact inert
  | pull generation =>
    have pulled : (∃ loops, e.setStage generation .pulling = { e with loops := loops } ∧
        Fade e.loops loops) ∧ cache = cache ∧
          ∀ generation, EngineNotice.fetch generation ∉ [] :=
      ⟨⟨_, rfl, .pull quiet generation⟩, rfl, fun _ => List.not_mem_nil⟩
    simp only [handle]
    split
    · exact pulled
    · exact pulled
    · exact inert
  | landed generation result =>
    simp only [handle]
    split
    · -- Whatever has landed comes too late.
      have late : (!e.isCurrent generation) = true := by rw [isCurrent, stopped]; rfl
      have ended : e.land generation result cache now = ⟨e.endLoop generation, cache,
          [.meter (.count (.fetches e.period result.isOk)),
            .meter (.count (.fetchDuration e.period))]⟩ := if_pos late
      rw [ended]
      exact ⟨⟨_, rfl, .filter quiet _⟩, rfl, by simp⟩
    · exact inert
  | delta | channel | stop => cases own

/-- Only the event that tears an engine down stops it. -/
theorem Engine.stopped_handle (e : Engine) {event : EngineEvent} (other : event ≠ .stop)
    (cache : SnapshotCache) (now : Nat) :
    (e.handle event cache now).engine.stopped = e.stopped := by
  have workings := e.workings_after ⟨event, cache, now⟩
  have stopped : (e.workings.step event).stopped = e.stopped := by
    have steps := e.workings.steps event
    generalize e.workings.step event = w' at steps ⊢
    cases steps with
    | stays | begins | pulls | rests | ends => rfl
    | stops => exact absurd rfl other
  exact (congrArg Workings.stopped workings).trans stopped

/-- **No loop of a stopped engine waits for another pull.** -/
theorem Workings.quiet_step {w : Workings} (h : w.stopped = true → Quiet w.loops)
    (event : EngineEvent) (stopped : (w.step event).stopped = true) :
    Quiet (w.step event).loops := by
  have steps := w.steps event
  generalize w.step event = w' at steps stopped ⊢
  cases steps with
  | stays => exact h stopped
  | begins running =>
    rw [begin, running] at stopped
    cases stopped
  | pulls => exact (h stopped).pull _
  | rests _ current =>
    -- Only a loop of the current generation comes to wait.
    have running : w.stopped = false := by
      simpa [isCurrent] using (Bool.and_eq_true_iff.1 current).1
    rw [setStage, running] at stopped
    cases stopped
  | ends => exact (h stopped).filter _
  | stops =>
    intro l mem
    simpa using (List.mem_filter.1 mem).2

end Liveboard
