import Mathlib.Data.List.Count
import Mathlib.Data.List.Nodup
import Liveboard.Proofs.Engine.Resync

/-!
# Who fetches for whom

Each generation begins with a fetch loop of its own, unless it is served from
the cache. The loop of the current generation goes on until its snapshot has
landed: a pull that fails is made again, so an engine that waits for a snapshot
always has somebody who fetches it (`Workings.Attended`). The loops of earlier
generations may still have pulls under way, any number of them, but no two loops
have the same generation (`Workings.Distinct`), and whatever the superseded ones
bring is dropped (`Engine.handle_landed_of_lt`).

`Launch.fetching_run` says this of any state that an engine can reach. It does
not say that superseded loops pull no more, which is not so.
-/

namespace Liveboard

open Record

namespace Workings

variable {w : Workings} {log : List Deed}

/-! ## One loop per generation -/

/-- **No two loops have the same generation.** -/
def Distinct (w : Workings) : Prop :=
  (w.loops.map (·.generation)).Nodup

namespace Distinct

/-- The generation that is begun is a new one. -/
theorem begin (h : w.Distinct) (ordered : w.Ordered) : w.begin.Distinct := by
  have new : w.generation + 1 ∉ w.loops.map (·.generation) := by
    intro mem
    obtain ⟨l, hl, same⟩ := List.mem_map.1 mem
    have := ordered l hl
    omega
  have grown : w.begin.loops.map (·.generation)
      = (w.loops.map (·.generation)).concat (w.generation + 1) := by
    simp [Workings.begin]
  rw [Distinct, grown]
  exact h.concat new

theorem setStage (h : w.Distinct) (generation : Nat) (stage : FetchStage) :
    (w.setStage generation stage).Distinct := by
  have same : (w.setStage generation stage).loops.map (·.generation)
      = w.loops.map (·.generation) := by
    show (w.loops.map _).map _ = _
    rw [List.map_map]
    refine List.map_congr_left fun l _ => ?_
    simp only [Function.comp_apply]
    split <;> rfl
  rw [Distinct, same]
  exact h

/-- Loops that end leave the others as they are. -/
theorem filter (h : w.Distinct) (p : FetchLoop → Bool) :
    ((w.loops.filter p).map (·.generation)).Nodup :=
  h.sublist (List.filter_sublist.map _)

theorem step (h : w.Distinct) (ordered : w.Ordered) (event : EngineEvent) :
    (w.step event).Distinct := by
  have steps := w.steps event
  generalize w.step event = w' at steps ⊢
  cases steps with
  | stays => exact h
  | begins => exact h.begin ordered
  | pulls | rests => exact h.setStage _ _
  | ends | stops => exact h.filter _

/-- How many loops a generation has: one if any. -/
theorem countP_eq (h : w.Distinct) (generation : Nat) :
    w.loops.countP (·.generation = generation)
      = if (w.stageOf? generation).isSome then 1 else 0 := by
  have count : w.loops.countP (·.generation = generation)
      = (w.loops.map (·.generation)).count generation := by
    rw [List.count, List.countP_map]
    exact List.countP_congr fun l _ => by simp
  have isSome : (w.stageOf? generation).isSome = true
      ↔ generation ∈ w.loops.map (·.generation) := by
    simp [stageOf?]
  rw [count]
  by_cases mem : generation ∈ w.loops.map (·.generation)
  · rw [if_pos (isSome.2 mem), List.count_eq_one_of_mem h mem]
  · rw [if_neg (mt isSome.1 mem), List.count_eq_zero_of_not_mem mem]

end Distinct

/-! ## The loop of the current generation -/

/-- **A generation that has not landed has its loop**, while the engine is not
stopped. -/
def Attended (w : Workings) (log : List Deed) : Prop :=
  w.stopped = false → landed log = false → (w.stageOf? w.generation).isSome = true

namespace Attended

/-- A new generation has a loop of its own. -/
theorem begin (ordered : w.Ordered) (log : List Deed) : w.begin.Attended log := by
  intro _ _
  rw [show w.begin.generation = w.generation + 1 from rfl, stageOf?_begin ordered]
  rfl

/-- While deeds neither begin a generation nor install a snapshot, the loop of
the current generation has only to stay. -/
theorem of_stageOf? (h : w.Attended log) {w' : Workings} (stopped : w'.stopped = w.stopped)
    (stays : (w.stageOf? w.generation).isSome = true →
      (w'.stageOf? w'.generation).isSome = true) {ds : List Deed}
    (others : ∀ d ∈ ds, d.isBegun = false) : w'.Attended (log ++ ds) := by
  intro running notLanded
  refine stays (h (stopped ▸ running) ?_)
  rw [landed, sinceBegun_append log others, List.any_append, Bool.or_eq_false_iff] at notLanded
  exact notLanded.1

/-- Nothing but a snapshot or a new generation ends the wait. -/
theorem isBegun_of_deed? {o : Occasion}
    (h : o.event ≠ .channel .connected ∧ o.event ≠ .refresh) :
    ∀ d ∈ (w.deed? o).toList, d.isBegun = false := by
  intro d hd
  cases does_of_deed? (Option.mem_toList.1 hd) with
  | begun _ event => exact absurd event (by simp [h])
  | _ => rfl

/-- Whatever pull has landed, the current generation has landed with it or
still has its loop. -/
theorem step_landed (h : w.Attended log) (running : w.stopped = false) (generation : Nat)
    (result : Except FetchError Snapshot) (cache : SnapshotCache) (now : Nat) :
    (w.step (.landed generation result)).Attended
      (log ++ (w.deed? ⟨.landed generation result, cache, now⟩).toList) := by
  have others := isBegun_of_deed? (w := w) (o := ⟨.landed generation result, cache, now⟩)
    (by simp)
  by_cases due : w.generation = generation ∧ w.stageOf? w.generation = some .pulling
  · obtain ⟨rfl, pulling⟩ := due
    have current : w.isCurrent w.generation = true := by simp [isCurrent, running]
    cases result with
    | error error =>
      refine h.of_stageOf? (w.stopped_landed _ _) (fun _ => ?_) others
      rw [generation_landed, stageOf?_landed, if_pos ⟨rfl, pulling⟩, if_pos ⟨current, rfl⟩]
      rfl
    | ok snapshot =>
      -- The generation lands, and nothing is left to be fetched.
      intro _ notLanded
      have installed : w.deed? ⟨.landed w.generation (.ok snapshot), cache, now⟩
          = some (.installed snapshot now) := by
        simp [deed?, current, pulling]
      rw [installed, Option.toList_some, landed_concat rfl] at notLanded
      simp [Deed.isInstalled] at notLanded
  · refine h.of_stageOf? (w.stopped_landed _ _) (fun attended => ?_) others
    rw [generation_landed, stageOf?_landed, if_neg due]
    exact attended

/-- **Every occasion keeps it so.** -/
theorem step (h : w.Attended log) (ordered : w.Ordered) (o : Occasion) :
    (w.step o.event).Attended (log ++ (w.deed? o).toList) := by
  obtain ⟨event, cache, now⟩ := o
  cases running : w.stopped with
  | true =>
    intro still
    rw [stopped_step running event] at still
    cases still
  | false =>
    have others (regular : event ≠ .channel .connected ∧ event ≠ .refresh) :
        ∀ d ∈ (w.deed? ⟨event, cache, now⟩).toList, d.isBegun = false :=
      isBegun_of_deed? regular
    cases event with
    | delta event => exact h.of_stageOf? rfl id (others (by simp))
    | channel s =>
      cases s with
      | connected =>
        rw [show w.step (.channel .connected) = w.begin by simp [Workings.step, running]]
        exact begin ordered _
      | connecting | disconnected | error => exact h.of_stageOf? rfl id (others (by simp))
    | refresh =>
      rw [show w.step .refresh = w.begin by simp [Workings.step, running]]
      exact begin ordered _
    | pull generation =>
      refine h.of_stageOf? (w.stopped_pull generation) (fun attended => ?_) (others (by simp))
      rw [generation_pull, stageOf?_pull]
      split
      · simpa using attended
      · exact attended
    | landed generation result => exact h.step_landed running generation result cache now
    | stop => exact fun still => by cases still

end Attended

/-- The loop of the current generation has a pull under way once it was told to
make one. -/
theorem pulling_of_pull (attended : (w.stageOf? w.generation).isSome = true) :
    (w.step (.pull w.generation)).stageOf? w.generation = some .pulling := by
  obtain ⟨stage, stands⟩ := Option.isSome_iff_exists.1 attended
  rw [stageOf?_pull, if_pos rfl, stands]
  rfl

end Workings

namespace Engine

/-- **What a superseded loop brings is dropped.** Its loop ends, and nothing
else changes. -/
theorem handle_landed_of_lt {e : Engine} {generation : Nat} (superseded : generation < e.generation)
    (result : Except FetchError Snapshot) (cache : SnapshotCache) (now : Nat) :
    (e.handle (.landed generation result) cache now).cache = cache ∧
      ∃ loops, (e.handle (.landed generation result) cache now).engine = { e with loops } := by
  have other : e.isCurrent generation = false := by
    simp only [isCurrent, Bool.and_eq_false_iff, beq_eq_false_iff_ne]
    exact .inr superseded.ne'
  unfold handle
  dsimp only
  split
  · unfold land
    rw [if_pos (by simp [other])]
    exact ⟨rfl, _, rfl⟩
  · exact ⟨rfl, _, rfl⟩

/-- Once the current generation is attended to, a pull that brings its snapshot
makes the engine live. -/
theorem live_of_attended {e : Engine} (running : e.stopped = false)
    (attended : (e.stageOf? e.generation).isSome = true) (pull landing : Occasion)
    (snapshot : Snapshot) (pulls : pull.event = .pull e.generation)
    (lands : landing.event = .landed e.generation (.ok snapshot)) :
    (e.run [pull, landing]).phase = .live := by
  have workings := e.workings_after pull
  rw [pulls] at workings
  have pulling : (e.after pull).workings.stageOf? e.generation = some .pulling := by
    rw [workings]
    exact Workings.pulling_of_pull (w := e.workings) attended
  have current : (e.after pull).workings.isCurrent e.generation = true := by
    rw [workings, Workings.isCurrent, Workings.stopped_pull]
    simp [Engine.workings, running]
  have installed : (e.after pull).workings.deed? landing
      = some (.installed snapshot landing.now) := by
    simp [Workings.deed?, lands, current, pulling]
  have figures := (e.after pull).figures_after landing
  rw [installed] at figures
  exact congrArg Figures.phase figures

end Engine

/-- An engine is asked for a new snapshot while it makes its first pull. -/
def Occasion.refreshInPull : List Occasion :=
  ofEvents [.pull 1, .refresh]

namespace Launch

/-- The loops of a run have generations of their own. -/
theorem distinct_run (l : Launch) (os : List Occasion) : (l.run os).workings.Distinct := by
  induction os using List.reverseRecOn with
  | nil =>
    rw [show (l.run []).workings = l.engine.workings from rfl, l.workings_engine,
      Workings.Distinct]
    dsimp only
    split <;> simp
  | append_singleton os o ih =>
    rw [run_concat, Engine.workings_after]
    exact ih.step (l.ordered_run os) o.event

/-- **Throughout a run the current generation is attended to.** -/
theorem attended_run (l : Launch) (os : List Occasion) :
    (l.run os).workings.Attended (l.record os) := by
  induction os using List.reverseRecOn with
  | nil =>
    rw [show (l.run []).workings = l.engine.workings from rfl, l.workings_engine,
      Launch.record, Engine.record_nil, List.append_nil, opening]
    intro _ notLanded
    cases seed : l.seed? with
    | none => rfl
    | some snapshot =>
      rw [seed] at notLanded
      cases notLanded
  | append_singleton os o ih =>
    rw [run_concat, record_concat, Engine.workings_after]
    exact ih.step (l.ordered_run os) o

/-- The current generation has its loop until the engine is live. -/
theorem isSome_stageOf?_iff (l : Launch) (os : List Occasion)
    (running : (l.run os).stopped = false) :
    ((l.run os).stageOf? (l.run os).generation).isSome = true ↔ (l.run os).phase ≠ .live := by
  rw [Ne, show (l.run os).phase = (l.run os).figures.phase from rfl, (l.accounts_run os).live_iff,
    Bool.not_eq_true]
  constructor
  · intro attended
    by_contra landed
    have gone := (l.fits_run os).gone running (by simpa using landed)
    rw [Engine.stageOf?_workings] at gone
    rw [show (l.run os).generation = (l.run os).workings.generation from rfl, gone] at attended
    cases attended
  · exact l.attended_run os running

/-- **Who fetches.** In any state that an engine which was not stopped can
reach:

* the current generation has exactly one fetch loop, before its first pull,
  with a pull under way or waiting for the next, and none once the engine is
  live;
* the generations of the loops are distinct, and none is larger than the
  current one;
* while the engine is not live, a pull of the current generation that brings a
  snapshot makes it so;
* whenever the pull of an earlier generation lands, then or later, whatever it
  brings, the cache and everything about the engine but its loops stay as they
  are. -/
theorem fetching_run (l : Launch) (os : List Occasion) (running : (l.run os).stopped = false) :
    (l.run os).loops.countP (·.generation = (l.run os).generation)
        = (if (l.run os).phase = .live then 0 else 1) ∧
      ((l.run os).loops.map (·.generation)).Nodup ∧
      (∀ loop ∈ (l.run os).loops, loop.generation ≤ (l.run os).generation) ∧
      ((l.run os).phase ≠ .live → ∀ snapshot cache now,
        (l.run (os ++ [⟨.pull (l.run os).generation, cache, now⟩,
          ⟨.landed (l.run os).generation (.ok snapshot), cache, now⟩])).phase = .live) ∧
      ∀ more, ∀ generation < (l.run os).generation, ∀ result cache now,
        ((l.run (os ++ more)).handle (.landed generation result) cache now).cache = cache ∧
          ∃ loops, ((l.run (os ++ more)).handle (.landed generation result) cache now).engine
            = { l.run (os ++ more) with loops } := by
  have distinct := l.distinct_run os
  have attended := l.isSome_stageOf?_iff os running
  refine ⟨?_, distinct, l.ordered_run os, fun waits snapshot cache now => ?_,
    fun more generation superseded result cache now => ?_⟩
  · refine (distinct.countP_eq _).trans ?_
    rw [Engine.stageOf?_workings]
    by_cases live : (l.run os).phase = .live
    · rw [if_pos live]
      exact if_neg (mt attended.1 (not_not_intro live))
    · rw [if_neg live]
      exact if_pos (attended.2 live)
  · rw [run_append]
    exact Engine.live_of_attended running (attended.2 waits) _ _ snapshot rfl rfl
  · refine Engine.handle_landed_of_lt ?_ result cache now
    rw [run_append, Engine.generation_run]
    exact superseded.trans_le (Nat.le_add_right _ _)

/-- While a second snapshot is awaited, the first pull is still under way, and
what it brings is dropped. -/
theorem fetching_run_refreshed :
    ((bare 1).run Occasion.refreshInPull).stopped = false ∧
      ((bare 1).run Occasion.refreshInPull).loops = [⟨1, .pulling⟩, ⟨2, .queued⟩] ∧
      ((bare 1).run Occasion.refreshInPull).loops.countP (·.generation = 2) = 1 ∧
      ∃ loops, (((bare 1).run Occasion.refreshInPull).handle
          (.landed 1 (.ok (.ofStreams 100))) .empty 0).engine
        = { (bare 1).run Occasion.refreshInPull with loops } := by
  have running : ((bare 1).run Occasion.refreshInPull).stopped = false := rfl
  obtain ⟨one, -, -, -, dropped⟩ := fetching_run (bare 1) Occasion.refreshInPull running
  exact ⟨running, rfl, one,
    (dropped [] 1 (by decide) (.ok (.ofStreams 100)) .empty 0).2⟩

end Launch

end Liveboard
