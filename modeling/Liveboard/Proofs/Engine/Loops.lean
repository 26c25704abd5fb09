import Liveboard.Proofs.Engine.Record

/-!
# Fetch loops and the record

A snapshot is installed, and a failure noted, only while the loop of the
current generation has a pull under way. That loop is gone once its generation
has landed, so a generation lands at most once; and it can only have a pull
under way if one was begun since the generation was.

The stages of the loops are no part of the record, and the record knows nothing
of loops. `Workings.Fits` ties the two together and is kept by every occasion;
after that whoever wants to know whether a pull may land asks the record
(`Workings.Fits.landed_eq_false`).
-/

namespace Liveboard

open Record

namespace Deed

/-- Whether the deed says how a pull of the current generation ended. -/
def isOutcome : Deed → Bool
  | .failed _ | .installed _ _ => true
  | _ => false

/-- A snapshot ends a pull. -/
theorem isInstalled_of_not_isOutcome {d : Deed} (h : d.isOutcome = false) :
    d.isInstalled = false := by
  cases d <;> simp_all [isOutcome, isInstalled]

end Deed

namespace Workings

variable {w : Workings} {log : List Deed}

theorem stageOf?_begin (h : ∀ l ∈ w.loops, l.generation ≤ w.generation) :
    w.begin.stageOf? (w.generation + 1) = some .queued := by
  have none : w.loops.find? (·.generation = w.generation + 1) = none := by
    rw [List.find?_eq_none]
    intro l hl
    have := h l hl
    simp only [decide_eq_true_eq]
    omega
  simp [stageOf?, begin, List.find?_append, none]

theorem stageOf?_setStage (w : Workings) (generation other : Nat) (stage : FetchStage) :
    (w.setStage generation stage).stageOf? other
      = if other = generation then (w.stageOf? other).map fun _ => stage
        else w.stageOf? other := by
  have same : (fun l : FetchLoop => decide (l.generation = other))
      ∘ (fun l => if l.generation = generation then { l with stage := stage } else l)
      = fun l => decide (l.generation = other) := by
    funext l
    simp only [Function.comp_apply]
    split <;> rfl
  unfold stageOf? setStage
  rw [List.find?_map, same]
  cases found : w.loops.find? (fun l => decide (l.generation = other)) with
  | none => simp
  | some l =>
    have hl : l.generation = other := by simpa using List.find?_some found
    by_cases h : other = generation
    · simp [h, hl]
    · simp [h, hl]

theorem stageOf?_endLoop (w : Workings) (generation other : Nat) :
    (w.endLoop generation).stageOf? other
      = if other = generation then none else w.stageOf? other := by
  unfold stageOf? endLoop
  dsimp only
  rw [List.find?_filter]
  by_cases h : other = generation
  · subst h
    rw [if_pos rfl, List.find?_eq_none.2]
    · rfl
    · simp
  · rw [if_neg h]
    congr 2
    funext l
    by_cases hl : l.generation = other
    · simp [hl, h]
    · simp [hl]

@[simp] theorem generation_setStage (w : Workings) (generation : Nat) (stage : FetchStage) :
    (w.setStage generation stage).generation = w.generation := rfl

@[simp] theorem generation_endLoop (w : Workings) (generation : Nat) :
    (w.endLoop generation).generation = w.generation := rfl

@[simp] theorem generation_pull (w : Workings) (generation : Nat) :
    (w.step (.pull generation)).generation = w.generation := by
  simp only [step]
  split <;> rfl

@[simp] theorem stopped_pull (w : Workings) (generation : Nat) :
    (w.step (.pull generation)).stopped = w.stopped := by
  simp only [step]
  split <;> rfl

@[simp] theorem generation_landed (w : Workings) (generation : Nat)
    (result : Except FetchError Snapshot) :
    (w.step (.landed generation result)).generation = w.generation := by
  have steps := w.steps (.landed generation result)
  generalize w.step (.landed generation result) = w' at steps ⊢
  cases steps with
  | begins _ asked => simp at asked
  | stays | rests | ends => rfl

@[simp] theorem stopped_landed (w : Workings) (generation : Nat)
    (result : Except FetchError Snapshot) :
    (w.step (.landed generation result)).stopped = w.stopped := by
  have steps := w.steps (.landed generation result)
  generalize w.step (.landed generation result) = w' at steps ⊢
  cases steps with
  | begins _ asked => simp at asked
  | stays | rests | ends => rfl

/-- A loop that is told to go on has a pull under way. -/
theorem stageOf?_pull (w : Workings) (generation other : Nat) :
    (w.step (.pull other)).stageOf? generation
      = if generation = other then (w.stageOf? generation).map fun _ => .pulling
        else w.stageOf? generation := by
  simp only [step]
  split
  · exact stageOf?_setStage w other generation .pulling
  · exact stageOf?_setStage w other generation .pulling
  · rename_i notQueued notResting
    split
    · rename_i same
      subst same
      cases stage : w.stageOf? generation with
      | none => rfl
      | some s =>
        cases s with
        | queued => exact absurd stage notQueued
        | resting => exact absurd stage notResting
        | pulling => rfl
    · rfl

/-- A loop whose pull has landed waits if the pull failed and its generation is
the current one, and ends otherwise. -/
theorem stageOf?_landed (w : Workings) (generation other : Nat)
    (result : Except FetchError Snapshot) :
    (w.step (.landed other result)).stageOf? generation
      = if generation = other ∧ w.stageOf? generation = some .pulling then
          if w.isCurrent generation ∧ result.isOk = false then some .resting else none
        else w.stageOf? generation := by
  by_cases due : generation = other ∧ w.stageOf? generation = some .pulling
  · rw [if_pos due]
    obtain ⟨rfl, pulling⟩ := due
    simp only [step, pulling]
    split
    · rw [stageOf?_setStage, if_pos rfl, pulling, Option.map_some]
    · rw [stageOf?_endLoop, if_pos rfl]
  · rw [if_neg due]
    simp only [step]
    split
    · rename_i pulling
      have different : generation ≠ other := fun same => due ⟨same, same ▸ pulling⟩
      split
      · rw [stageOf?_setStage, if_neg different]
      · rw [stageOf?_endLoop, if_neg different]
    · rfl

/-- **No loop is ahead** of the current generation. -/
def Ordered (w : Workings) : Prop :=
  ∀ l ∈ w.loops, l.generation ≤ w.generation

namespace Ordered

theorem begin (h : w.Ordered) : w.begin.Ordered := by
  intro l hl
  rcases List.mem_append.1 hl with hl | hl
  · exact (h l hl).trans (Nat.le_succ _)
  · obtain rfl := List.mem_singleton.1 hl
    exact le_rfl

theorem setStage (h : w.Ordered) (generation : Nat) (stage : FetchStage) :
    (w.setStage generation stage).Ordered := by
  intro l hl
  obtain ⟨l', hl', rfl⟩ := List.mem_map.1 hl
  split
  · exact h l' hl'
  · exact h l' hl'

theorem endLoop (h : w.Ordered) (generation : Nat) : (w.endLoop generation).Ordered :=
  fun l hl => h l (List.mem_filter.1 hl).1

theorem step (h : w.Ordered) (event : EngineEvent) : (w.step event).Ordered := by
  have steps := w.steps event
  generalize w.step event = w' at steps ⊢
  cases steps with
  | stays => exact h
  | begins => exact h.begin
  | pulls | rests => exact h.setStage _ _
  | ends => exact h.endLoop _
  | stops => exact fun l hl => h l (List.mem_filter.1 hl).1

end Ordered

/-- A stopped engine stays stopped. -/
theorem stopped_step (h : w.stopped = true) (event : EngineEvent) :
    (w.step event).stopped = true := by
  have steps := w.steps event
  generalize w.step event = w' at steps ⊢
  cases steps with
  | stays | begins | pulls | rests | ends => exact h
  | stops => rfl

/-- Who is running after an event was running before. -/
theorem running_of_step {event : EngineEvent} (running : (w.step event).stopped = false) :
    w.stopped = false := by
  by_contra stopped
  rw [stopped_step (by simpa using stopped) event] at running
  cases running

/-- A pull ends only while it is under way. -/
theorem pulling_of_isOutcome {o : Occasion} {d : Deed} (hd : w.deed? o = some d)
    (outcome : d.isOutcome = true) :
    w.stopped = false ∧ w.stageOf? w.generation = some .pulling := by
  cases does_of_deed? hd with
  | failed running _ pulling | installed running _ pulling => exact ⟨running, pulling⟩
  | _ => cases outcome

/-- A snapshot is installed when a pull of the current generation brings
it. -/
theorem landed_of_installed {o : Occasion} {snapshot : Snapshot} {time : Nat}
    (hd : w.deed? o = some (.installed snapshot time)) :
    o.event = .landed w.generation (.ok snapshot) ∧ o.now = time := by
  cases does_of_deed? hd with
  | installed _ event _ => exact ⟨event, rfl⟩

/-- A pull of the current generation that is under way ends with its
result. -/
theorem outcome_of_pulling (running : w.stopped = false)
    (pulling : w.stageOf? w.generation = some .pulling) {o : Occasion}
    {result : Except FetchError Snapshot} (event : o.event = .landed w.generation result) :
    ∃ d, w.deed? o = some d ∧ d.isOutcome = true := by
  have current : w.isCurrent w.generation ∧ w.stageOf? w.generation = some .pulling := by
    simp [isCurrent, running, pulling]
  simp only [deed?, event]
  rw [if_pos current]
  cases result with
  | ok snapshot => exact ⟨.installed snapshot o.now, rfl, rfl⟩
  | error error => exact ⟨.failed error, rfl, rfl⟩

/-- With a pull of the current generation its loop has one under way. -/
theorem pulling_of_pulled {o : Occasion} {again : Bool} (hd : w.deed? o = some (.pulled again)) :
    o.event = .pull w.generation ∧ (w.step o.event).generation = w.generation ∧
      (w.step o.event).stageOf? w.generation = some .pulling := by
  cases does_of_deed? hd with
  | pulled _ event due =>
    rw [event]
    refine ⟨rfl, w.generation_pull w.generation, ?_⟩
    rw [stageOf?_pull, if_pos rfl, due]
    rfl

/-- **A pull of the current generation stays under way** until it ends or
the next generation is begun. -/
theorem pulling_step {o : Occasion} (running : (w.step o.event).stopped = false)
    (pulling : w.stageOf? w.generation = some .pulling)
    (open_ : ∀ d ∈ (w.deed? o).toList, d.isBegun = false ∧ d.isOutcome = false) :
    (w.step o.event).generation = w.generation ∧
      (w.step o.event).stageOf? w.generation = some .pulling := by
  have before : w.stopped = false := running_of_step running
  obtain ⟨event, cache, now⟩ := o
  cases event with
  | delta event => exact ⟨rfl, pulling⟩
  | channel s =>
    cases s with
    | connected => simp [deed?, before, Deed.isBegun] at open_
    | connecting | disconnected | error => exact ⟨rfl, pulling⟩
  | refresh => simp [deed?, before, Deed.isBegun] at open_
  | pull generation =>
    refine ⟨w.generation_pull generation, ?_⟩
    rw [stageOf?_pull, pulling]
    split <;> rfl
  | landed generation result =>
    have other : w.generation ≠ generation := by
      rintro rfl
      obtain ⟨d, hd, outcome⟩ : ∃ d, w.deed? ⟨.landed w.generation result, cache, now⟩ = some d ∧
          d.isOutcome = true := outcome_of_pulling before pulling rfl
      simp [open_ d (by simp [hd])] at outcome
    refine ⟨w.generation_landed generation result, ?_⟩
    rw [stageOf?_landed, if_neg fun due => other due.1, pulling]
  | stop => cases running

/-- **The workings fit the record**: while the engine is not stopped, the
loop of a generation is gone when it has landed, and it has a pull under way
only if one was begun that has not ended. -/
structure Fits (w : Workings) (log : List Deed) : Prop where
  /-- When a generation has landed, its loop is gone. -/
  gone : w.stopped = false → landed log = true → w.stageOf? w.generation = none
  /-- A pull that is under way was begun and has not ended. -/
  pulled : w.stopped = false → w.stageOf? w.generation = some .pulling →
    ∃ earlier again since, sinceBegun log = earlier ++ .pulled again :: since ∧
      ∀ d ∈ since, d.isOutcome = false

namespace Fits

/-- **What is said of a pull that landed is said of a generation that has
not.** -/
theorem landed_eq_false (fits : w.Fits log) {o : Occasion} {d : Deed} (hd : w.deed? o = some d)
    (outcome : d.isOutcome = true) : landed log = false := by
  obtain ⟨running, pulling⟩ := pulling_of_isOutcome hd outcome
  by_contra h
  rw [fits.gone running (by simpa using h)] at pulling
  cases pulling

/-- A stopped engine fits any record. -/
theorem of_stopped (stopped : w.stopped = true) : w.Fits log where
  gone := fun running => by simp [stopped] at running
  pulled := fun running => by simp [stopped] at running

/-- A new generation has its loop queued. -/
theorem begin (ordered : w.Ordered) : w.begin.Fits (log ++ [.begun]) where
  gone := by simp
  pulled := by
    intro _ pulling
    rw [show w.begin.generation = w.generation + 1 from rfl, stageOf?_begin ordered] at pulling
    cases pulling

/-- Deeds that neither begin a generation nor end a pull keep the fit when the
loop of the current generation stays as it is. -/
theorem of_stageOf?_eq (fits : w.Fits log) (w' : Workings) (stopped : w'.stopped = w.stopped)
    (same : w'.stageOf? w'.generation = w.stageOf? w.generation) {ds : List Deed}
    (h : ∀ d ∈ ds, d.isBegun = false ∧ d.isOutcome = false) : w'.Fits (log ++ ds) := by
  have since := sinceBegun_append log fun d hd => (h d hd).1
  have none : ds.any (·.isInstalled) = false := by
    rw [List.any_eq_false]
    exact fun d hd => by simp [Deed.isInstalled_of_not_isOutcome (h d hd).2]
  constructor
  · rw [stopped, same, landed, since, List.any_append, none, Bool.or_false]
    exact fits.gone
  · rw [stopped, same, since]
    intro running pulling
    obtain ⟨earlier, again, later, split, open_⟩ := fits.pulled running pulling
    refine ⟨earlier, again, later ++ ds, by simp [split], fun d hd => ?_⟩
    rcases List.mem_append.1 hd with hd | hd
    · exact open_ d hd
    · exact (h d hd).2

/-- The loop of the current generation begins a pull. -/
theorem pull (fits : w.Fits log) (again : Bool) (due : w.stageOf? w.generation ≠ none) :
    (w.setStage w.generation .pulling).Fits (log ++ [.pulled again]) where
  gone := by
    rw [landed_concat rfl]
    intro running h
    exact absurd (fits.gone running (by simpa [Deed.isInstalled] using h)) due
  pulled := by
    rw [sinceBegun_concat rfl]
    exact fun _ _ => ⟨sinceBegun log, again, [], rfl, by simp⟩

/-- A pull of the current generation that failed is not under way. -/
theorem failed (fits : w.Fits log) (error : FetchError)
    (pulling : w.stageOf? w.generation = some .pulling) :
    (w.setStage w.generation .resting).Fits (log ++ [.failed error]) where
  gone := by
    rw [landed_concat rfl]
    intro running h
    rw [fits.gone running (by simpa [Deed.isInstalled] using h)] at pulling
    cases pulling
  pulled := by
    rw [generation_setStage, stageOf?_setStage, if_pos rfl, pulling]
    intro _ resting
    cases resting

/-- With its snapshot the loop of the current generation ends. -/
theorem installed (w : Workings) (log : List Deed) (snapshot : Snapshot) (time : Nat) :
    (w.endLoop w.generation).Fits (log ++ [.installed snapshot time]) := by
  have gone : (w.endLoop w.generation).stageOf? (w.endLoop w.generation).generation = none := by
    rw [generation_endLoop, stageOf?_endLoop, if_pos rfl]
  exact ⟨fun _ _ => gone, fun _ pulling => by rw [gone] at pulling; cases pulling⟩

/-- Whatever loop makes its next pull. -/
theorem step_pull (fits : w.Fits log) (running : w.stopped = false) (generation : Nat)
    (cache : SnapshotCache) (now : Nat) :
    (w.step (.pull generation)).Fits
      (log ++ (w.deed? ⟨.pull generation, cache, now⟩).toList) := by
  have stays : w.Fits (log ++ []) := fits.of_stageOf?_eq _ rfl rfl (by simp)
  simp only [Workings.step, deed?, isCurrent, running, Bool.not_false, Bool.true_and, beq_iff_eq]
  by_cases current : w.generation = generation
  · subst current
    rw [if_pos rfl]
    cases due : w.stageOf? w.generation with
    | none => exact stays
    | some stage =>
      cases stage with
      | queued | resting => exact fits.pull _ (by simp [due])
      | pulling => exact stays
  · -- The loop of an earlier generation may still move, unseen by the record.
    have moves : (w.setStage generation .pulling).Fits (log ++ []) :=
      fits.of_stageOf?_eq (w.setStage generation .pulling) rfl
        (by rw [generation_setStage, stageOf?_setStage, if_neg current]) (by simp)
    rw [if_neg current]
    split
    · exact moves
    · exact moves
    · exact stays

/-- Whatever pull has landed. -/
theorem step_landed (fits : w.Fits log) (running : w.stopped = false) (generation : Nat)
    (result : Except FetchError Snapshot) (cache : SnapshotCache) (now : Nat) :
    (w.step (.landed generation result)).Fits
      (log ++ (w.deed? ⟨.landed generation result, cache, now⟩).toList) := by
  by_cases pulling : w.stageOf? generation = some .pulling
  · simp only [Workings.step, deed?, isCurrent, running, pulling, Bool.not_false, Bool.true_and,
      beq_iff_eq, and_true]
    by_cases current : w.generation = generation
    · subst current
      cases result with
      | ok snapshot => simpa [Except.isOk, Except.toBool] using installed w log snapshot now
      | error error => simpa [Except.isOk, Except.toBool] using fits.failed error pulling
    · have ends : (w.endLoop generation).Fits (log ++ []) :=
        fits.of_stageOf?_eq (w.endLoop generation) rfl
          (by rw [generation_endLoop, stageOf?_endLoop, if_neg current]) (by simp)
      simpa [current] using ends
  · simpa [Workings.step, deed?, pulling] using fits

/-- **Every occasion keeps the fit.** -/
theorem step (fits : w.Fits log) (ordered : w.Ordered) (o : Occasion) :
    (w.step o.event).Fits (log ++ (w.deed? o).toList) := by
  obtain ⟨event, cache, now⟩ := o
  cases running : w.stopped with
  | true => exact of_stopped (stopped_step running event)
  | false =>
    cases event with
    | delta event =>
      refine fits.of_stageOf?_eq _ rfl rfl ?_
      simp only [deed?, running]
      cases event.usage? <;> simp [Deed.isBegun, Deed.isOutcome]
    | channel s =>
      cases s with
      | connecting => exact fits.of_stageOf?_eq _ rfl rfl (by simp [deed?])
      | connected =>
        simp only [Workings.step, deed?, running]
        exact begin ordered
      | disconnected | error =>
        exact fits.of_stageOf?_eq _ rfl rfl (by simp [deed?, Deed.isBegun, Deed.isOutcome])
    | refresh =>
      simp only [Workings.step, deed?, running]
      exact begin ordered
    | pull generation => exact fits.step_pull running generation cache now
    | landed generation result => exact fits.step_landed running generation result cache now
    | stop => exact of_stopped rfl

end Fits

end Workings

/-- The loops of a run stay behind its generation. -/
theorem Launch.ordered_run (l : Launch) (os : List Occasion) : (l.run os).workings.Ordered := by
  induction os using List.reverseRecOn with
  | nil =>
    rw [show (l.run []).workings = l.engine.workings from rfl, l.workings_engine]
    intro loop hl
    dsimp only at hl
    split at hl
    · cases hl
    · obtain rfl := List.mem_singleton.1 hl
      exact le_rfl
  | append_singleton os o ih =>
    rw [run_concat, Engine.workings_after]
    exact ih.step o.event

/-- **The workings and the record of a run fit together.** -/
theorem Launch.fits_run (l : Launch) (os : List Occasion) :
    (l.run os).workings.Fits (l.record os) := by
  induction os using List.reverseRecOn with
  | nil =>
    rw [show (l.run []).workings = l.engine.workings from rfl, l.workings_engine,
      Launch.record, Engine.record_nil, List.append_nil, opening]
    cases l.seed? with
    | none =>
      constructor
      · exact fun _ landed => by cases landed
      · exact fun _ pulling => by cases pulling
    | some snapshot =>
      constructor
      · exact fun _ _ => rfl
      · exact fun _ pulling => by cases pulling
  | append_singleton os o ih =>
    rw [run_concat, record_concat, Engine.workings_after]
    exact ih.step (l.ordered_run os) o

namespace Launch

/-- **Where a snapshot comes from**: it was cached when the engine was
started, or a pull of what was then the current generation brought it. -/
def Brought (l : Launch) (os : List Occasion) (before : List Deed) (snapshot : Snapshot)
    (time : Nat) : Prop :=
  (before = [.begun] ∧ l.seed? = some snapshot ∧ l.now = time) ∨
    ∃ earlier o later, os = earlier ++ o :: later ∧ before = l.record earlier ∧
      (l.run earlier).stopped = false ∧
      (l.run earlier).stageOf? (l.run earlier).generation = some .pulling ∧
      o.event = .landed (l.run earlier).generation (.ok snapshot) ∧ o.now = time

/-- Whatever was installed was brought so. -/
theorem brought_of_record_eq {l : Launch} {os : List Occasion} {before after : List Deed}
    {snapshot : Snapshot} {time : Nat}
    (h : l.record os = before ++ .installed snapshot time :: after) :
    l.Brought os before snapshot time := by
  rcases exists_of_record_eq h with ⟨rest, opening⟩ | ⟨earlier, o, later, rfl, rfl, deed, -⟩
  · left
    rw [Launch.opening] at opening
    cases before with
    | nil => cases (List.cons.inj opening).1
    | cons d before =>
      obtain ⟨rfl, seeded⟩ := List.cons.inj opening
      cases seed : l.seed? with
      | none => simp [seed] at seeded
      | some s =>
        cases before with
        | nil =>
          obtain ⟨⟨rfl, rfl⟩, -⟩ : (s = snapshot ∧ l.now = time) ∧ [] = rest := by
            simpa [seed] using seeded
          exact ⟨rfl, rfl, rfl⟩
        | cons => simp [seed] at seeded
  · right
    obtain ⟨event, now⟩ := Workings.landed_of_installed deed
    obtain ⟨running, pulling⟩ := Workings.pulling_of_isOutcome deed rfl
    exact ⟨earlier, o, later, rfl, rfl, running, pulling, event, now⟩

end Launch

end Liveboard
