import Liveboard.Proofs.Engine.Fetching
import Liveboard.Proofs.Engine.Stopped

/-!
# The pulls of superseded loops

A fetch loop is superseded when a later generation is begun or the engine is
torn down. It looks for that when a pull has landed; while it waits after a
pull that failed, it looks for nothing but the end of the engine. So whether
it pulls again depends on where it stands at that moment. If its pull is under
way, it ends when the pull has landed. If it waits, the end of the engine ends
it at once, but a new generation does not: it makes another pull when its wait
is over, beside the loop of that generation, and only then ends.

A superseded loop never comes to wait, so there is no second such pull
(`Launch.retries_run`). But each loop that waits makes one, and there may be any
number of them: `Launch.retried_superseded` is a run with one. They are counted
by `Engine.count_pulls`, which needs no more than where the loop stands at the
start and whether its wait is over before the engine is torn down
(`Occasion.wakes`).
-/

namespace Liveboard

/-! ## Pulls -/

/-- **Who pulls on an event**: the loop that is told to, unless its pull is
under way. -/
def Workings.pull? (w : Workings) : EngineEvent → Option Nat
  | .pull generation =>
    match w.stageOf? generation with
    | some .queued | some .resting => some generation
    | _ => none
  | _ => none

/-- **The pulls of a run**, the first first, each by the generation of its
loop. -/
def Engine.pulls (e : Engine) : List Occasion → List Nat
  | [] => []
  | o :: os => (e.workings.pull? o.event).toList ++ (e.after o).pulls os

/-- **The pulls of a new engine.** -/
def Launch.pulls (l : Launch) (os : List Occasion) : List Nat :=
  l.engine.pulls os

namespace EngineEvent

/-- Whether the event tears the engine down. -/
def isStop : EngineEvent → Bool
  | .stop => true
  | _ => false

/-- Whether the event tells the loop of a generation to go on. -/
def wakes (generation : Nat) : EngineEvent → Bool
  | .pull other => other = generation
  | _ => false

end EngineEvent

/-- **Whether a wait is over before the engine is torn down.** -/
def Occasion.wakes (generation : Nat) (os : List Occasion) : Bool :=
  (os.takeWhile (!·.event.isStop)).any (·.event.wakes generation)

namespace Engine

@[simp] theorem pulls_nil (e : Engine) : e.pulls [] = [] := rfl

@[simp] theorem pulls_cons (e : Engine) (o : Occasion) (os : List Occasion) :
    e.pulls (o :: os) = (e.workings.pull? o.event).toList ++ (e.after o).pulls os := rfl

theorem pulls_append (e : Engine) (os ps : List Occasion) :
    e.pulls (os ++ ps) = e.pulls os ++ (e.run os).pulls ps := by
  induction os generalizing e with
  | nil => rfl
  | cons o os ih =>
    rw [List.cons_append, pulls_cons, pulls_cons, ih, run_cons, List.append_assoc]

end Engine

theorem Launch.pulls_concat (l : Launch) (os : List Occasion) (o : Occasion) :
    l.pulls (os ++ [o]) = l.pulls os ++ ((l.run os).workings.pull? o.event).toList := by
  rw [pulls, Engine.pulls_append, Engine.pulls_cons, Engine.pulls_nil, List.append_nil]
  rfl

/-! ## Where a loop stands -/

namespace Workings

variable {w : Workings} {generation : Nat}

/-- The stage of a generation is the stage of one of its loops. -/
theorem mem_of_stageOf? {stage : FetchStage} (stands : w.stageOf? generation = some stage) :
    ⟨generation, stage⟩ ∈ w.loops := by
  obtain ⟨l, found, rfl⟩ := Option.map_eq_some_iff.1 stands
  have same : l.generation = generation := by simpa using List.find?_some found
  exact same ▸ List.mem_of_find?_eq_some found

/-- Where no two loops are of the same generation, the stage of a generation is that of its
only loop. -/
theorem Distinct.stageOf?_eq_some_iff (h : w.Distinct) {stage : FetchStage} :
    w.stageOf? generation = some stage ↔ ⟨generation, stage⟩ ∈ w.loops := by
  refine ⟨mem_of_stageOf?, fun mem => ?_⟩
  have some : (w.stageOf? generation).isSome = true := by
    rw [stageOf?, Option.isSome_map, List.find?_isSome]
    exact ⟨_, mem, by simp⟩
  obtain ⟨stage', stands⟩ := Option.isSome_iff_exists.1 some
  have same : (⟨generation, stage'⟩ : FetchLoop) = ⟨generation, stage⟩ :=
    List.inj_on_of_nodup_map h (mem_of_stageOf? stands) mem rfl
  rw [stands, (FetchLoop.mk.inj same).2]

/-- A new generation leaves the loops of the earlier ones where they are. -/
theorem stageOf?_begin_of_le (known : generation ≤ w.generation) :
    w.begin.stageOf? generation = w.stageOf? generation := by
  have other : [FetchLoop.mk (w.generation + 1) .queued].find? (·.generation = generation)
      = none := by
    rw [List.find?_eq_none]
    intro l hl
    obtain rfl := List.mem_singleton.1 hl
    simp only [decide_eq_true_eq]
    omega
  rw [stageOf?, begin, List.find?_append, other, Option.or_none]
  rfl

/-- A loop that waits ends with the engine. -/
theorem Distinct.stageOf?_stop (h : w.Distinct) (generation : Nat) :
    (w.step .stop).stageOf? generation
      = if w.stageOf? generation = some .resting then none else w.stageOf? generation := by
  have stopped : (w.step .stop).Distinct := h.filter _
  have stays (stage : FetchStage) : (w.step .stop).stageOf? generation = some stage ↔
      w.stageOf? generation = some stage ∧ stage ≠ .resting := by
    rw [stopped.stageOf?_eq_some_iff, h.stageOf?_eq_some_iff]
    show _ ∈ w.loops.filter (·.stage ≠ .resting) ↔ _
    simp
  ext stage
  rw [stays]
  split
  · rename_i waits
    rw [waits, Option.some_inj]
    exact iff_of_false (fun both => both.2 both.1.symm) (by simp)
  · rename_i other
    exact ⟨And.left, fun same => ⟨same, fun resting => other (resting ▸ same)⟩⟩

/-- **Where a loop stands after an event.** -/
theorem stageOf?_step (distinct : w.Distinct) (known : generation ≤ w.generation)
    (event : EngineEvent) :
    (w.step event).stageOf? generation
      = match event with
        | .pull other =>
          if generation = other then (w.stageOf? generation).map fun _ => .pulling
          else w.stageOf? generation
        | .landed other result =>
          if generation = other ∧ w.stageOf? generation = some .pulling then
            if w.isCurrent generation ∧ result.isOk = false then some .resting else none
          else w.stageOf? generation
        | .stop =>
          if w.stageOf? generation = some .resting then none else w.stageOf? generation
        | .delta _ | .channel _ | .refresh => w.stageOf? generation := by
  have begun : (if w.stopped then w else w.begin).stageOf? generation
      = w.stageOf? generation := by
    split
    · rfl
    · exact stageOf?_begin_of_le known
  cases event with
  | delta event => rfl
  | channel s =>
    cases s with
    | connected => exact begun
    | connecting | disconnected | error => rfl
  | refresh => exact begun
  | pull other => exact w.stageOf?_pull generation other
  | landed other result => exact w.stageOf?_landed generation other result
  | stop => exact distinct.stageOf?_stop generation

/-- **A loop pulls just if a pull is under way after the event that was not
before.** -/
theorem pull?_eq_some_iff (distinct : w.Distinct) (known : generation ≤ w.generation)
    (event : EngineEvent) :
    w.pull? event = some generation ↔ w.stageOf? generation ≠ some .pulling ∧
      (w.step event).stageOf? generation = some .pulling := by
  rw [stageOf?_step distinct known]
  cases event with
  | pull other =>
    by_cases same : generation = other
    · subst same
      simp only [pull?, if_true]
      cases w.stageOf? generation with
      | none => simp
      | some s => cases s <;> simp
    · have none : w.pull? (.pull other) ≠ some generation := by
        simp only [pull?]
        split <;> simp [Ne.symm same]
      exact iff_of_false none fun both => both.1 ((if_neg same).symm.trans both.2)
  | landed other result =>
    refine iff_of_false (by simp [pull?]) ?_
    rintro ⟨before, after⟩
    dsimp only at after
    split_ifs at after
    · cases after
    · exact before after
  | stop =>
    refine iff_of_false (by simp [pull?]) ?_
    rintro ⟨before, after⟩
    dsimp only at after
    split_ifs at after
    exact before after
  | delta | channel | refresh =>
    exact iff_of_false (by simp [pull?]) fun both => both.1 both.2

/-- A loop is of a generation that was begun. -/
theorem Ordered.le_of_stageOf? (h : w.Ordered) {stage : FetchStage}
    (stands : w.stageOf? generation = some stage) : generation ≤ w.generation :=
  h _ (mem_of_stageOf? stands)

/-- A pull is of a generation that was begun. -/
theorem Ordered.le_of_pull? (h : w.Ordered) {event : EngineEvent}
    (pulls : w.pull? event = some generation) : generation ≤ w.generation := by
  cases event with
  | pull other =>
    simp only [pull?] at pulls
    split at pulls
    · rename_i queued
      exact Option.some_inj.1 pulls ▸ h.le_of_stageOf? queued
    · rename_i resting
      exact Option.some_inj.1 pulls ▸ h.le_of_stageOf? resting
    · cases pulls
  | _ => cases pulls

/-! ## Superseded loops -/

/-- No generation is taken back. -/
theorem generation_le_step (w : Workings) (event : EngineEvent) :
    w.generation ≤ (w.step event).generation :=
  (w.generation_step ⟨event, .empty, 0⟩).symm ▸ Nat.le_add_right _ _

/-- A loop that has made its first pull never comes before it again. -/
theorem stageOf?_step_ne_queued (distinct : w.Distinct) (known : generation ≤ w.generation)
    (tried : w.stageOf? generation ≠ some .queued) (event : EngineEvent) :
    (w.step event).stageOf? generation ≠ some .queued := by
  rw [stageOf?_step distinct known]
  cases event with
  | pull other =>
    dsimp only
    split_ifs
    · cases w.stageOf? generation <;> simp
    · exact tried
  | landed other result =>
    dsimp only
    split_ifs
    · simp
    · simp
    · exact tried
  | stop =>
    dsimp only
    split_ifs
    · simp
    · exact tried
  | delta | channel | refresh => exact tried

/-- **A superseded loop**: its generation was begun, and is not the current one
of an engine that goes on. What holds of the loops throughout a run comes with
it. -/
structure Superseded (w : Workings) (generation : Nat) : Prop where
  /-- No loop is ahead of the current generation. -/
  ordered : w.Ordered
  /-- Each generation has one loop at most. -/
  distinct : w.Distinct
  /-- The generation was begun. -/
  known : generation ≤ w.generation
  /-- It is not the current one. -/
  late : w.isCurrent generation = false

/-- What is superseded stays so. -/
theorem Superseded.step (h : w.Superseded generation) (event : EngineEvent) :
    (w.step event).Superseded generation where
  ordered := h.ordered.step event
  distinct := h.distinct.step h.ordered event
  known := h.known.trans (w.generation_le_step event)
  late := by
    have later := w.generation_le_step event
    have known := h.known
    have late := h.late
    simp only [isCurrent, Bool.and_eq_false_iff, Bool.not_eq_false', beq_eq_false_iff_ne]
      at late ⊢
    rcases late with stopped | other
    · exact .inl (stopped_step stopped event)
    · exact .inr (by omega)

/-- **A superseded loop that waits** pulls when it is told to go on, and waits
until then or until the engine is torn down. -/
theorem Superseded.of_resting (h : w.Superseded generation)
    (waits : w.stageOf? generation = some .resting) (event : EngineEvent) :
    (w.pull? event = some generation ↔ event.wakes generation = true) ∧
      ((w.step event).stageOf? generation = some .resting ↔
        event.isStop = false ∧ event.wakes generation = false) := by
  rw [pull?_eq_some_iff h.distinct h.known, stageOf?_step h.distinct h.known, waits]
  cases event with
  | pull other =>
    by_cases same : generation = other <;>
      simp [same, EngineEvent.wakes, EngineEvent.isStop, Ne.symm]
  | _ => simp [EngineEvent.wakes, EngineEvent.isStop]

/-- **A superseded loop that does not wait** pulls no more, and never comes to
wait. -/
theorem Superseded.of_ne_resting (h : w.Superseded generation)
    (tried : w.stageOf? generation ≠ some .queued)
    (busy : w.stageOf? generation ≠ some .resting) (event : EngineEvent) :
    w.pull? event ≠ some generation ∧ (w.step event).stageOf? generation ≠ some .resting := by
  rw [Ne, pull?_eq_some_iff h.distinct h.known, stageOf?_step h.distinct h.known]
  cases stage : w.stageOf? generation with
  | none => cases event <;> simp
  | some s =>
    cases s with
    | queued => exact absurd stage tried
    | resting => exact absurd stage busy
    | pulling =>
      refine ⟨fun both => both.1 rfl, ?_⟩
      cases event with
      | pull other => simp
      | landed other result =>
        simp only [h.late]
        split <;> simp
      | _ => simp

/-- What supersedes the current generation is the end of the engine or a new
generation, and that leaves the loop where it is. -/
theorem stageOf?_of_supersedes (distinct : w.Distinct) (event : EngineEvent)
    (current : w.isCurrent generation = true)
    (late : (w.step event).isCurrent generation = false) :
    (w.step event).stageOf? generation = some .resting ↔
      w.stageOf? generation = some .resting ∧ (w.step event).stopped = false := by
  obtain ⟨running, rfl⟩ : w.stopped = false ∧ w.generation = generation := by
    simpa [isCurrent] using current
  have stays (same : (w.step event).isCurrent w.generation = w.isCurrent w.generation) : False := by
    rw [same, current] at late
    cases late
  have begun (same : w.step event = w.begin) :
      (w.step event).stageOf? w.generation = some .resting ↔
        w.stageOf? w.generation = some .resting ∧ (w.step event).stopped = false := by
    rw [same, stageOf?_begin_of_le le_rfl]
    exact (and_iff_left running).symm
  cases event with
  | delta event => exact (stays rfl).elim
  | channel s =>
    cases s with
    | connected => exact begun (by simp [Workings.step, running])
    | connecting | disconnected | error => exact (stays rfl).elim
  | refresh => exact begun (by simp [Workings.step, running])
  | pull other =>
    refine (stays ?_).elim
    rw [isCurrent, generation_pull, stopped_pull, isCurrent]
  | landed other result =>
    refine (stays ?_).elim
    rw [isCurrent, generation_landed, stopped_landed, isCurrent]
  | stop =>
    rw [distinct.stageOf?_stop]
    refine iff_of_false ?_ fun both => Bool.noConfusion both.2
    split
    · simp
    · assumption

end Workings

/-- A wait is over with the first event, or later if that does not tear the
engine down. -/
theorem Occasion.wakes_cons (generation : Nat) (o : Occasion) (os : List Occasion) :
    wakes generation (o :: os)
      = (o.event.wakes generation || !o.event.isStop && wakes generation os) := by
  obtain ⟨event, cache, now⟩ := o
  cases event <;> simp [wakes, EngineEvent.isStop, EngineEvent.wakes]

namespace Engine

variable {e : Engine} {generation : Nat}

/-- The loops of an engine stand where the event leads its workings. -/
theorem stageOf?_after (e : Engine) (o : Occasion) (generation : Nat) :
    (e.after o).stageOf? generation = (e.workings.step o.event).stageOf? generation :=
  congrArg (Workings.stageOf? · generation) (e.workings_after o)

/-- **The pulls of a superseded loop**, counted: it makes one if it waits and
its wait is over before the engine is torn down, and else none. -/
theorem count_pulls (h : e.workings.Superseded generation)
    (tried : e.stageOf? generation ≠ some .queued) (more : List Occasion) :
    (e.pulls more).count generation
      = if e.stageOf? generation = some .resting ∧ Occasion.wakes generation more = true
        then 1 else 0 := by
  induction more generalizing e with
  | nil => simp [Occasion.wakes]
  | cons o more ih =>
    have after := e.workings_after o
    have stage := e.stageOf?_after o generation
    have later := ih (e := e.after o) (after ▸ h.step o.event)
      (stage ▸ Workings.stageOf?_step_ne_queued h.distinct h.known tried o.event)
    have now : (e.workings.pull? o.event).toList.count generation
        = if e.workings.pull? o.event = some generation then 1 else 0 := by
      cases e.workings.pull? o.event <;> simp [List.count_singleton, beq_iff_eq]
    rw [pulls_cons, List.count_append, now, later, stage, Occasion.wakes_cons]
    by_cases waits : e.stageOf? generation = some .resting
    · obtain ⟨pulls, stays⟩ := h.of_resting waits o.event
      simp only [pulls, stays, waits, true_and]
      cases o.event.isStop <;> cases o.event.wakes generation <;> simp
    · obtain ⟨none, ends⟩ := h.of_ne_resting tried waits o.event
      simp only [none, ends, waits, false_and, if_false]

end Engine

/-- An engine is asked for a new snapshot while it makes its first pull, and
for another when the pull of the second generation has failed. -/
def Occasion.refreshedTwice : List Occasion :=
  ofEvents [.pull 1, .refresh, .pull 2, .landed 2 (.error (.transport "503")), .refresh]

/-- An engine is asked for a new snapshot when its first pull has failed. -/
def Occasion.failedThenRefreshed : List Occasion :=
  ofEvents [.pull 1, .landed 1 (.error (.transport "503")), .refresh]

namespace Launch

/-- A loop that has made a pull is of a generation that was begun, and is not
before its first pull. -/
theorem tried_of_mem_pulls (l : Launch) (os : List Occasion) {generation : Nat}
    (attempted : generation ∈ l.pulls os) :
    generation ≤ (l.run os).generation ∧ (l.run os).stageOf? generation ≠ some .queued := by
  induction os using List.reverseRecOn with
  | nil => cases attempted
  | append_singleton os o ih =>
    have ordered := l.ordered_run os
    have distinct := l.distinct_run os
    have later : (l.run os).generation ≤ ((l.run os).after o).generation :=
      ((l.run os).workings.generation_le_step o.event).trans_eq
        (congrArg Workings.generation ((l.run os).workings_after o)).symm
    rw [run_concat, Engine.stageOf?_after]
    rw [pulls_concat, List.mem_append] at attempted
    rcases attempted with earlier | now
    · obtain ⟨known, tried⟩ := ih earlier
      exact ⟨known.trans later, Workings.stageOf?_step_ne_queued distinct known tried o.event⟩
    · have pulls := Option.mem_toList.1 now
      have known := ordered.le_of_pull? pulls
      have pulling := ((Workings.pull?_eq_some_iff distinct known o.event).1 pulls).2
      exact ⟨known.trans later, by simp [pulling]⟩

/-- Once the engine has been torn down no loop waits. -/
theorem quiet_run (l : Launch) (os : List Occasion) (stopped : (l.run os).stopped = true) :
    FetchLoop.Quiet (l.run os).loops := by
  induction os using List.reverseRecOn with
  | nil =>
    have running : (l.run []).stopped = false := congrArg Workings.stopped l.workings_engine
    rw [running] at stopped
    cases stopped
  | append_singleton os o ih =>
    rw [run_concat] at stopped ⊢
    have workings := (l.run os).workings_after o
    have quiet := Workings.quiet_step (w := (l.run os).workings) ih o.event
    rw [← workings] at quiet
    exact quiet stopped

/-- **Whether a superseded loop pulls again.** Let a loop have made a pull, and
let a later generation have been begun since or the engine torn down.

* However the run goes on, the loop makes one more pull if it waits and its wait
  is over before the engine is torn down, and else none.
* So it is certain to make none just if it does not wait.
* If the engine was torn down it makes none.
* Right after it was superseded it waits just if it did before and the engine
  goes on. -/
theorem retries_run (l : Launch) (os : List Occasion) (generation : Nat)
    (attempted : generation ∈ l.pulls os)
    (superseded : generation < (l.run os).generation ∨ (l.run os).stopped = true) :
    (∀ more, ((l.run os).pulls more).count generation
        = if (l.run os).stageOf? generation = some .resting ∧
            Occasion.wakes generation more = true then 1 else 0) ∧
      ((∀ more, generation ∉ (l.run os).pulls more) ↔
        (l.run os).stageOf? generation ≠ some .resting) ∧
      ((l.run os).stopped = true → ∀ more, generation ∉ (l.run os).pulls more) ∧
      ∀ before o, os = before ++ [o] → (l.run before).isCurrent generation = true →
        ((l.run os).stageOf? generation = some .resting ↔
          (l.run before).stageOf? generation = some .resting ∧ (l.run os).stopped = false) := by
  obtain ⟨known, tried⟩ := l.tried_of_mem_pulls os attempted
  have late : (l.run os).isCurrent generation = false := by
    rw [Engine.isCurrent, Bool.and_eq_false_iff, Bool.not_eq_false', beq_eq_false_iff_ne]
    exact superseded.symm.imp_right Nat.ne_of_gt
  have stays : (l.run os).workings.Superseded generation :=
    ⟨l.ordered_run os, l.distinct_run os, known, late⟩
  have count := Engine.count_pulls stays tried
  have none_iff : (∀ more, generation ∉ (l.run os).pulls more) ↔
      (l.run os).stageOf? generation ≠ some .resting := by
    constructor
    · intro none waits
      have one := count (Occasion.ofEvents [.pull generation])
      rw [List.count_eq_zero.2 (none _), waits] at one
      simp [Occasion.wakes, Occasion.ofEvents, EngineEvent.isStop, EngineEvent.wakes] at one
    · intro busy more
      rw [← List.count_eq_zero, count, if_neg (fun both => busy both.1)]
  refine ⟨count, none_iff, fun stopped => none_iff.2 fun waits => ?_, ?_⟩
  · have resting := stays.distinct.stageOf?_eq_some_iff.1 waits
    exact l.quiet_run os stopped _ resting rfl
  · rintro before o rfl current
    have moment := Workings.stageOf?_of_supersedes (l.distinct_run before) o.event current
    rw [← (l.run before).workings_after o, ← run_concat] at moment
    exact moment late

/-- With a second snapshot asked for during the first pull, and a third after
the second pull has failed, the first loop pulls no more, and the second once. -/
theorem retries_run_refreshed :
    (bare 1).pulls Occasion.refreshedTwice = [1, 2] ∧
      ((bare 1).run Occasion.refreshedTwice).generation = 3 ∧
      (∀ more, 1 ∉ ((bare 1).run Occasion.refreshedTwice).pulls more) ∧
      (((bare 1).run Occasion.refreshedTwice).pulls (Occasion.ofEvents
        [.pull 2, .landed 2 (.error (.transport "503")), .pull 2, .stop])).count 2 = 1 := by
  have pulled : (bare 1).pulls Occasion.refreshedTwice = [1, 2] := rfl
  have generation : ((bare 1).run Occasion.refreshedTwice).generation = 3 := rfl
  obtain ⟨-, never, -⟩ := retries_run (bare 1) Occasion.refreshedTwice 1
    (by simp [pulled]) (.inl (by simp [generation]))
  obtain ⟨count, -⟩ := retries_run (bare 1) Occasion.refreshedTwice 2
    (by simp [pulled]) (.inl (by simp [generation]))
  exact ⟨pulled, generation, never.2 (by decide), count _⟩

/-- **A superseded loop that pulls again.** Its first pull has failed, and it
waits when the second generation is begun; when its wait is over it pulls, for a
generation that is not the current one. -/
theorem retried_superseded :
    1 ∈ (bare 1).pulls Occasion.failedThenRefreshed ∧
      1 < ((bare 1).run Occasion.failedThenRefreshed).generation ∧
      1 ∈ ((bare 1).run Occasion.failedThenRefreshed).pulls (Occasion.ofEvents [.pull 1]) := by
  decide

end Launch

end Liveboard
