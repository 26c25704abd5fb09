import Mathlib.Data.List.Induction
import Liveboard.Engine.Basic

/-!
# Runs of an engine

An engine is started beside a cache and then handles one event after the
other. Between two events those who share the cache may do with it what they
like, and any time may pass; so a run is a list of *occasions*, each with a
cache and a time of its own.

What an engine knows falls into two parts. Its *workings* are the current
generation and the fetch loops; its *figures* are the phase, the view, the
deltas held back and what consumers see. The workings never look at the
figures, and all that the figures learn of the workings is a list of
*deeds*: a generation was begun, a pull was begun or failed, a snapshot was
installed, a delta was received, the channel lapsed. The *record* of a run
is the list of its deeds, and statements about runs are statements about
their records.

The handlers are opened in this module only. `Engine.workings_after` and
`Engine.figures_after` say all that an occasion does, and
`Launch.figures_run` says of a whole run that its figures are those of its
record. What the workings can do at an event is `Workings.Steps`, one case for
each way; `Workings.Does` goes from a deed back to its occasion.
-/

namespace Liveboard

/-- The delta an event tells of, if its data can be read. -/
def Event.usage? (event : Event) : Option UsageDelta :=
  (event.decode UsageDelta.ofJson).toOption

/-- **An occasion**: an event with the cache as it is and the time it is
then. -/
structure Occasion where
  /-- What happens. -/
  event : EngineEvent
  /-- What the cache holds. -/
  cache : SnapshotCache
  /-- The time, in milliseconds. -/
  now : Nat

/-- **What came about in a run.** -/
inductive Deed where
  /-- A generation was begun. -/
  | begun
  /-- A pull of the current generation was begun; whether an earlier one of
  that generation had failed. -/
  | pulled (again : Bool)
  /-- A pull of the current generation failed. -/
  | failed (error : FetchError)
  /-- The snapshot of the current generation was installed, at a time. -/
  | installed (snapshot : Snapshot) (time : Nat)
  /-- A delta was received and could be read. -/
  | delta (event : Event) (delta : UsageDelta)
  /-- The channel was lost, or an attempt to open it failed. -/
  | lapsed

namespace Deed

/-- Whether a generation was begun. -/
def isBegun : Deed → Bool
  | .begun => true
  | _ => false

/-- Whether a snapshot was installed. -/
def isInstalled : Deed → Bool
  | .installed _ _ => true
  | _ => false

/-- Whether the channel lapsed. -/
def isLapsed : Deed → Bool
  | .lapsed => true
  | _ => false

/-- Whether an earlier pull of the generation had failed and another was
begun. -/
def isRetry : Deed → Bool
  | .pulled true => true
  | _ => false

/-- Only one deed begins a generation. -/
theorem eq_begun {d : Deed} (h : d.isBegun = true) : d = .begun := by
  cases d <;> simp_all [isBegun]

/-- The delta that was received, with its time. -/
def delta? : Deed → Option (UsageDelta × Int)
  | .delta event d => some (d, event.receivedAt)
  | _ => none

end Deed

/-! ## Workings -/

/-- **The workings of an engine**: how it is set up, the current generation
and the fetch loops. -/
structure Workings where
  /-- The period the engine keeps the view of. -/
  period : Period
  /-- How it is set up. -/
  settings : EngineSettings
  /-- The current generation. -/
  generation : Nat
  /-- Whether the engine was stopped. -/
  stopped : Bool
  /-- The fetch loops that have not ended, the earliest first. -/
  loops : List FetchLoop

namespace Workings

/-- Where the fetch loop of a generation stands. -/
def stageOf? (w : Workings) (generation : Nat) : Option FetchStage :=
  (w.loops.find? (·.generation = generation)).map (·.stage)

/-- Whether a generation is the current one of an engine that was not
stopped. -/
def isCurrent (w : Workings) (generation : Nat) : Bool :=
  !w.stopped && w.generation == generation

/-- The next generation is begun, with a fetch loop of its own. -/
def begin (w : Workings) : Workings :=
  { w with
    generation := w.generation + 1
    loops := w.loops ++ [⟨w.generation + 1, .queued⟩] }

/-- The fetch loop of a generation comes to a stage. -/
def setStage (w : Workings) (generation : Nat) (stage : FetchStage) : Workings :=
  { w with loops := w.loops.map fun l =>
      if l.generation = generation then { l with stage := stage } else l }

/-- The fetch loop of a generation ends. -/
def endLoop (w : Workings) (generation : Nat) : Workings :=
  { w with loops := w.loops.filter (·.generation ≠ generation) }

/-- **What an event does to the workings.** -/
def step (w : Workings) : EngineEvent → Workings
  | .delta _ => w
  | .channel .connected | .refresh => if w.stopped then w else w.begin
  | .channel _ => w
  | .pull generation =>
    match w.stageOf? generation with
    | some .queued | some .resting => w.setStage generation .pulling
    | _ => w
  | .landed generation result =>
    match w.stageOf? generation with
    | some .pulling =>
      if w.isCurrent generation ∧ result.isOk = false then w.setStage generation .resting
      else w.endLoop generation
    | _ => w
  | .stop => { w with stopped := true, loops := w.loops.filter (·.stage ≠ .resting) }

/-- **What comes about on an occasion**, if anything does. A pull counts
only if it is one of the current generation. -/
def deed? (w : Workings) (o : Occasion) : Option Deed :=
  match o.event with
  | .delta event => if w.stopped then none else event.usage?.map (Deed.delta event)
  | .channel .connected | .refresh => if w.stopped then none else some .begun
  | .channel .error | .channel .disconnected => some .lapsed
  | .channel .connecting | .stop => none
  | .pull generation =>
    if w.isCurrent generation then
      match w.stageOf? generation with
      | some .queued => some (.pulled false)
      | some .resting => some (.pulled true)
      | _ => none
    else none
  | .landed generation result =>
    if w.isCurrent generation ∧ w.stageOf? generation = some .pulling then
      match result with
      | .ok snapshot => some (.installed snapshot o.now)
      | .error error => some (.failed error)
    else none

/-- **What a deed says of its occasion.** -/
inductive Does (w : Workings) (o : Occasion) : Deed → Prop where
  /-- A generation is begun on a connection or on demand. -/
  | begun (running : w.stopped = false)
      (event : o.event = .channel .connected ∨ o.event = .refresh) : Does w o .begun
  /-- A pull is the next of the current generation. -/
  | pulled {again : Bool} (running : w.stopped = false) (event : o.event = .pull w.generation)
      (due : w.stageOf? w.generation = some (if again then .resting else .queued)) :
      Does w o (.pulled again)
  /-- A pull that fails is that of the current generation. -/
  | failed {error : FetchError} (running : w.stopped = false)
      (event : o.event = .landed w.generation (.error error))
      (pulling : w.stageOf? w.generation = some .pulling) : Does w o (.failed error)
  /-- A snapshot is installed when the pull of the current generation brings
  it. -/
  | installed {snapshot : Snapshot} (running : w.stopped = false)
      (event : o.event = .landed w.generation (.ok snapshot))
      (pulling : w.stageOf? w.generation = some .pulling) : Does w o (.installed snapshot o.now)
  /-- A delta comes from an event. -/
  | delta {event : Event} {usage : UsageDelta} (running : w.stopped = false)
      (received : o.event = .delta event) (read : event.usage? = some usage) :
      Does w o (.delta event usage)
  /-- The channel lapses when it fails or is closed. -/
  | lapsed (event : o.event = .channel .error ∨ o.event = .channel .disconnected) :
      Does w o .lapsed

theorem does_of_deed? {w : Workings} {o : Occasion} {d : Deed} (hd : w.deed? o = some d) :
    w.Does o d := by
  obtain ⟨event, cache, now⟩ := o
  cases event with
  | delta event =>
    obtain ⟨running, usage, read, rfl⟩ : w.stopped = false ∧ ∃ usage,
        event.usage? = some usage ∧ Deed.delta event usage = d := by simpa [deed?] using hd
    exact .delta running rfl read
  | channel s =>
    cases s with
    | connecting => cases hd
    | connected =>
      obtain ⟨running, rfl⟩ : w.stopped = false ∧ Deed.begun = d := by simpa [deed?] using hd
      exact .begun running (.inl rfl)
    | disconnected =>
      obtain rfl : Deed.lapsed = d := by simpa [deed?] using hd
      exact .lapsed (.inr rfl)
    | error =>
      obtain rfl : Deed.lapsed = d := by simpa [deed?] using hd
      exact .lapsed (.inl rfl)
  | refresh =>
    obtain ⟨running, rfl⟩ : w.stopped = false ∧ Deed.begun = d := by simpa [deed?] using hd
    exact .begun running (.inr rfl)
  | pull generation =>
    simp only [deed?] at hd
    split at hd
    · rename_i current
      obtain ⟨running, rfl⟩ : w.stopped = false ∧ w.generation = generation := by
        simpa [isCurrent] using current
      split at hd
      · rename_i queued
        cases hd
        exact .pulled running rfl queued
      · rename_i resting
        cases hd
        exact .pulled running rfl resting
      · cases hd
    · cases hd
  | landed generation result =>
    simp only [deed?] at hd
    split at hd
    · rename_i due
      obtain ⟨current, pulling⟩ := due
      obtain ⟨running, rfl⟩ : w.stopped = false ∧ w.generation = generation := by
        simpa [isCurrent] using current
      cases result with
      | ok snapshot =>
        cases hd
        exact .installed running rfl pulling
      | error error =>
        cases hd
        exact .failed running rfl pulling
    · cases hd
  | stop => cases hd

/-- **What an event may do to the workings**, and when it does. -/
inductive Steps (w : Workings) : EngineEvent → Workings → Prop where
  /-- Nothing changes. -/
  | stays {event : EngineEvent} : Steps w event w
  /-- A generation is begun on a connection or on demand. -/
  | begins {event : EngineEvent} (running : w.stopped = false)
      (asked : event = .channel .connected ∨ event = .refresh) : Steps w event w.begin
  /-- The loop of a generation makes its next pull. -/
  | pulls {generation : Nat}
      (due : w.stageOf? generation = some .queued ∨ w.stageOf? generation = some .resting) :
      Steps w (.pull generation) (w.setStage generation .pulling)
  /-- A pull of the current generation has failed, and its loop waits before the next. -/
  | rests {generation : Nat} {result : Except FetchError Snapshot}
      (pulling : w.stageOf? generation = some .pulling) (current : w.isCurrent generation = true)
      (failed : result.isOk = false) :
      Steps w (.landed generation result) (w.setStage generation .resting)
  /-- A pull has landed that is the last of its loop. -/
  | ends {generation : Nat} {result : Except FetchError Snapshot}
      (pulling : w.stageOf? generation = some .pulling) :
      Steps w (.landed generation result) (w.endLoop generation)
  /-- The engine is stopped, and the loops that wait end. -/
  | stops : Steps w .stop
      { w with stopped := true, loops := w.loops.filter (·.stage ≠ .resting) }

theorem steps (w : Workings) (event : EngineEvent) : w.Steps event (w.step event) := by
  have begins (asked : event = .channel .connected ∨ event = .refresh) :
      w.Steps event (if w.stopped then w else w.begin) := by
    cases running : w.stopped with
    | true => exact .stays
    | false => exact .begins running asked
  cases event with
  | delta event => exact .stays
  | channel s =>
    cases s with
    | connected => exact begins (.inl rfl)
    | disconnected | connecting | error => exact .stays
  | refresh => exact begins (.inr rfl)
  | pull generation =>
    simp only [step]
    split
    · exact .pulls (.inl ‹_›)
    · exact .pulls (.inr ‹_›)
    · exact .stays
  | landed generation result =>
    simp only [step]
    split
    · split
      · rename_i pulling failed
        exact .rests pulling failed.1 failed.2
      · exact .ends ‹_›
    · exact .stays
  | stop => exact .stops

end Workings

/-! ## Figures -/

/-- **The figures of an engine**: what its deeds change. -/
structure Figures where
  /-- What the engine is doing. -/
  phase : Phase
  /-- The view. -/
  view : Option View
  /-- The deltas held back. -/
  pending : List (UsageDelta × Int)
  /-- The number of deltas held back and then dropped. -/
  dropped : Nat
  /-- What consumers see. -/
  published : ViewStatus

namespace Figures

/-- The figures of an engine that has not begun its first generation. -/
def blank : Figures where
  phase := .seeding
  view := none
  pending := []
  dropped := 0
  published := .loading

/-- What consumers see once the view may lag behind. -/
def stale (f : Figures) : ViewStatus :=
  match f.view with
  | some v => .stale v
  | none => f.published

/-- A delta is held back. If there are `limit` of them, the earliest is
dropped. -/
def holdBack (limit : Nat) (f : Figures) (d : UsageDelta × Int) : Figures :=
  if limit ≤ f.pending.length then
    { f with pending := f.pending.drop 1 ++ [d], dropped := f.dropped + 1 }
  else { f with pending := f.pending ++ [d] }

/-- A delta is merged into the view, if there is one. -/
def merge (f : Figures) (d : UsageDelta × Int) : Figures :=
  match f.view with
  | some v => { f with view := some (v.apply d.1 d.2), published := .live (v.apply d.1 d.2) }
  | none => f

/-- **What a deed does to the figures**, where at most `limit` deltas are
held back. -/
def take (limit : Nat) (f : Figures) : Deed → Figures
  | .begun =>
    { f with
      phase := if f.view.isSome then .resyncing else .seeding
      pending := []
      published := f.stale }
  | .pulled _ => f
  | .failed _ | .lapsed => { f with published := f.stale }
  | .installed snapshot time =>
    let view := (View.ofSnapshot snapshot time).applyAll f.pending
    { f with phase := .live, view := some view, pending := [], published := .live view }
  | .delta event d =>
    match f.phase with
    | .live => f.merge (d, event.receivedAt)
    | .seeding | .resyncing => f.holdBack limit (d, event.receivedAt)

/-- The figures after a list of deeds. -/
def takeAll (limit : Nat) (f : Figures) (deeds : List Deed) : Figures :=
  deeds.foldl (take limit) f

@[simp] theorem takeAll_nil (limit : Nat) (f : Figures) : f.takeAll limit [] = f := rfl

@[simp] theorem takeAll_cons (limit : Nat) (f : Figures) (d : Deed) (ds : List Deed) :
    f.takeAll limit (d :: ds) = (f.take limit d).takeAll limit ds := rfl

theorem takeAll_append (limit : Nat) (f : Figures) (ds es : List Deed) :
    f.takeAll limit (ds ++ es) = (f.takeAll limit ds).takeAll limit es :=
  List.foldl_append

end Figures

namespace Engine

/-- The workings of an engine. -/
def workings (e : Engine) : Workings where
  period := e.period
  settings := e.settings
  generation := e.generation
  stopped := e.stopped
  loops := e.loops

/-- The figures of an engine. -/
def figures (e : Engine) : Figures where
  phase := e.phase
  view := e.view
  pending := e.pending
  dropped := e.dropped
  published := e.published

/-- The engine after an occasion. -/
def after (e : Engine) (o : Occasion) : Engine :=
  (e.handle o.event o.cache o.now).engine

/-- **The engine after a list of occasions.** -/
def run (e : Engine) (os : List Occasion) : Engine :=
  os.foldl after e

/-- **The deeds of a run**, the first first. -/
def record (e : Engine) : List Occasion → List Deed
  | [] => []
  | o :: os => (e.workings.deed? o).toList ++ (e.after o).record os

@[simp] theorem run_nil (e : Engine) : e.run [] = e := rfl

@[simp] theorem run_cons (e : Engine) (o : Occasion) (os : List Occasion) :
    e.run (o :: os) = (e.after o).run os := rfl

theorem run_append (e : Engine) (os ps : List Occasion) :
    e.run (os ++ ps) = (e.run os).run ps :=
  List.foldl_append

@[simp] theorem run_concat (e : Engine) (os : List Occasion) (o : Occasion) :
    e.run (os ++ [o]) = (e.run os).after o := by
  rw [run_append]
  rfl

@[simp] theorem record_nil (e : Engine) : e.record [] = [] := rfl

/-- The record of a run that goes on goes on with what comes about then. -/
theorem record_append (e : Engine) (os ps : List Occasion) :
    e.record (os ++ ps) = e.record os ++ (e.run os).record ps := by
  induction os generalizing e with
  | nil => rfl
  | cons o os ih =>
    show (e.workings.deed? o).toList ++ (e.after o).record (os ++ ps) = _
    rw [ih, run_cons, record, List.append_assoc]

@[simp] theorem record_concat (e : Engine) (os : List Occasion) (o : Occasion) :
    e.record (os ++ [o]) = e.record os ++ ((e.run os).workings.deed? o).toList := by
  rw [record_append]
  simp [record]

/-- **Every deed came about on an occasion.** -/
theorem exists_of_record_eq {e : Engine} {os : List Occasion} {before after : List Deed}
    {d : Deed} (h : e.record os = before ++ d :: after) :
    ∃ earlier o later, os = earlier ++ o :: later ∧ before = e.record earlier ∧
      (e.run earlier).workings.deed? o = some d ∧
      after = (e.run (earlier ++ [o])).record later := by
  induction os generalizing e before with
  | nil => simp at h
  | cons o os ih =>
    rw [record] at h
    cases hd : e.workings.deed? o with
    | none =>
      rw [hd] at h
      obtain ⟨earlier, o', later, rfl, rfl, rest⟩ := ih h
      refine ⟨o :: earlier, o', later, rfl, ?_, rest⟩
      simp [record, hd]
    | some d' =>
      rw [hd] at h
      cases before with
      | nil =>
        obtain ⟨rfl, rfl⟩ := List.cons.inj h
        exact ⟨[], o, os, rfl, rfl, hd, rfl⟩
      | cons b before =>
        obtain ⟨rfl, tail⟩ := List.cons.inj h
        obtain ⟨earlier, o', later, rfl, rfl, rest⟩ := ih tail
        refine ⟨o :: earlier, o', later, rfl, ?_, rest⟩
        simp [record, hd]

/-! ## What the handlers do

Each handler is described twice, by what it does to the workings and by what
it does to the figures. -/

theorem publishStale_eq (e : Engine) :
    e.publishStale = { e with published := e.figures.stale } := by
  obtain ⟨_, _, _, view, _, _, _, _, _, _, _, _⟩ := e
  cases view <;> rfl

theorem workings_publishStale (e : Engine) : e.publishStale.workings = e.workings := by
  rw [publishStale_eq]
  rfl

theorem figures_publishStale (e : Engine) :
    e.publishStale.figures = { e.figures with published := e.figures.stale } := by
  rw [publishStale_eq]
  rfl

theorem workings_install (e : Engine) (generation : Nat) (snapshot : Snapshot) (now : Nat) :
    (e.install generation snapshot now).1.workings = e.workings := by
  unfold install
  split <;> rfl

theorem figures_install {e : Engine} (running : e.stopped = false) (snapshot : Snapshot)
    (now limit : Nat) :
    (e.install e.generation snapshot now).1.figures
      = e.figures.take limit (.installed snapshot now) := by
  rw [install, if_neg (by simp [running])]
  rfl

theorem workings_fetchFailed (e : Engine) (generation : Nat) (error : FetchError) :
    (e.fetchFailed generation error).workings = e.workings := by
  unfold fetchFailed
  split
  · rfl
  · exact workings_publishStale _

theorem figures_fetchFailed (e : Engine) (error : FetchError) (limit : Nat) :
    (e.fetchFailed e.generation error).figures = e.figures.take limit (.failed error) := by
  rw [fetchFailed, if_neg (by simp)]
  exact figures_publishStale _

theorem workings_nextGeneration (e : Engine) :
    e.nextGeneration.workings = { e.workings with generation := e.generation + 1 } :=
  workings_publishStale _

theorem figures_nextGeneration (e : Engine) (limit : Nat) :
    e.nextGeneration.figures = e.figures.take limit .begun := by
  rw [nextGeneration, figures_publishStale]
  rfl

theorem workings_spawn (e : Engine) :
    e.spawn.workings = { e.workings with loops := e.loops ++ [⟨e.generation, .queued⟩] } := rfl

theorem workings_beginFetch (e : Engine) (cache : SnapshotCache) (now : Nat) :
    (e.beginFetch true cache now).engine.workings
      = if e.stopped then e.workings else e.workings.begin := by
  unfold beginFetch
  split
  · rfl
  · have next := e.workings_nextGeneration
    have loops : e.nextGeneration.loops = e.loops := congrArg Workings.loops next
    have generation : e.nextGeneration.generation = e.generation + 1 :=
      congrArg Workings.generation next
    show e.nextGeneration.spawn.workings = _
    rw [workings_spawn, next, loops, generation]
    rfl

theorem figures_beginFetch {e : Engine} (running : e.stopped = false) (cache : SnapshotCache)
    (now limit : Nat) :
    (e.beginFetch true cache now).engine.figures = e.figures.take limit .begun := by
  rw [beginFetch, if_neg (by simp [running]), if_pos rfl]
  exact e.figures_nextGeneration limit

theorem figures_takeDelta (e : Engine) (event : Event) (d : UsageDelta) :
    (e.takeDelta d event.receivedAt).1.figures
      = e.figures.take e.settings.maxPending (.delta event d) := by
  have held : (e.holdBack d event.receivedAt).figures
      = e.figures.holdBack e.settings.maxPending (d, event.receivedAt) := by
    unfold holdBack Figures.holdBack
    by_cases full : e.settings.maxPending ≤ e.pending.length
    · simp [figures, full]
    · simp [figures, full]
  obtain ⟨_, _, phase, view, _, _, _, _, _, _, _, _⟩ := e
  cases phase with
  | live => cases view <;> rfl
  | seeding => exact held
  | resyncing => exact held

theorem workings_takeEvent (e : Engine) (event : Event) :
    (e.takeEvent event).1.workings = e.workings := by
  have taken (d : UsageDelta) : (e.takeDelta d event.receivedAt).1.workings = e.workings := by
    unfold takeDelta
    cases e.phase with
    | live => cases e.view <;> rfl
    | seeding | resyncing => rfl
  unfold takeEvent
  split
  · rfl
  · cases event.decode UsageDelta.ofJson with
    | ok d => exact taken d
    | error fault => rfl

theorem figures_takeEvent (e : Engine) (event : Event) (cache : SnapshotCache) (now : Nat) :
    (e.takeEvent event).1.figures
      = e.figures.takeAll e.settings.maxPending
        (e.workings.deed? ⟨.delta event, cache, now⟩).toList := by
  unfold takeEvent
  cases running : e.stopped with
  | true => simp [Workings.deed?, workings, running]
  | false =>
    simp only [Workings.deed?, workings, running, Event.usage?]
    cases event.decode UsageDelta.ofJson with
    | error _ => simp [Except.toOption]
    | ok d => exact e.figures_takeDelta event d

theorem workings_takeState (e : Engine) (s : ChannelState) (cache : SnapshotCache) (now : Nat) :
    (e.takeState s cache now).engine.workings = e.workings.step (.channel s) := by
  cases s with
  | disconnected => exact e.workings_publishStale
  | connecting => rfl
  | connected => exact workings_beginFetch { e with liveUpdates := true } cache now
  | error => exact workings_publishStale { e with liveUpdates := false }

theorem figures_takeState (e : Engine) (s : ChannelState) (cache : SnapshotCache)
    (now limit : Nat) :
    (e.takeState s cache now).engine.figures
      = e.figures.takeAll limit (e.workings.deed? ⟨.channel s, cache, now⟩).toList := by
  cases s with
  | disconnected => exact e.figures_publishStale
  | connecting => rfl
  | connected =>
    cases running : e.stopped with
    | true =>
      simp only [takeState, beginFetch, Workings.deed?, workings, running]
      rfl
    | false =>
      simp only [Workings.deed?, workings, running]
      exact figures_beginFetch (e := { e with liveUpdates := true }) running cache now limit
  | error => exact figures_publishStale { e with liveUpdates := false }

@[simp] theorem stageOf?_workings (e : Engine) (generation : Nat) :
    e.workings.stageOf? generation = e.stageOf? generation := rfl

@[simp] theorem isCurrent_workings (e : Engine) (generation : Nat) :
    e.workings.isCurrent generation = e.isCurrent generation := rfl

theorem isCurrent_iff {e : Engine} {generation : Nat} :
    e.isCurrent generation = true ↔ e.stopped = false ∧ e.generation = generation := by
  simp [isCurrent]

theorem workings_land (e : Engine) (generation : Nat) (result : Except FetchError Snapshot)
    (cache : SnapshotCache) (now : Nat) (pulling : e.stageOf? generation = some .pulling) :
    (e.land generation result cache now).engine.workings
      = e.workings.step (.landed generation result) := by
  simp only [Workings.step, stageOf?_workings, pulling, isCurrent_workings]
  unfold land
  by_cases current : e.isCurrent generation = true
  · cases result with
    | ok snapshot =>
      simp only [current, Bool.not_true, Bool.false_eq_true, if_false]
      exact workings_install (e.endLoop generation) generation snapshot now
    | error error =>
      have failed := e.workings_fetchFailed generation error
      have loops : (e.fetchFailed generation error).loops = e.loops :=
        congrArg Workings.loops failed
      simp only [current, Bool.not_true, Bool.false_eq_true, if_false]
      show Workings.setStage (e.fetchFailed generation error).workings generation .resting = _
      rw [failed]
      rfl
  · simp only [current, Bool.not_false, if_true]
    rfl

theorem figures_land (e : Engine) (generation : Nat) (result : Except FetchError Snapshot)
    (cache : SnapshotCache) (now limit : Nat) (pulling : e.stageOf? generation = some .pulling) :
    (e.land generation result cache now).engine.figures
      = e.figures.takeAll limit
        (e.workings.deed? ⟨.landed generation result, cache, now⟩).toList := by
  unfold land
  simp only [Workings.deed?, stageOf?_workings, isCurrent_workings, pulling]
  by_cases current : e.isCurrent generation = true
  · obtain ⟨running, rfl⟩ := isCurrent_iff.1 current
    simp only [current]
    cases result with
    | ok snapshot =>
      exact figures_install (e := e.endLoop e.generation) running snapshot now limit
    | error error => exact e.figures_fetchFailed error limit
  · simp only [current]
    rfl

/-- A pull that is not due is not begun. -/
theorem after_pull (e : Engine) (generation : Nat) (cache : SnapshotCache) (now : Nat) :
    e.after ⟨.pull generation, cache, now⟩
      = match e.stageOf? generation with
        | some .queued | some .resting => e.setStage generation .pulling
        | _ => e := by
  unfold after handle
  dsimp only
  cases e.stageOf? generation with
  | none => rfl
  | some stage => cases stage <;> rfl

/-- What lands without having been asked for is dropped. -/
theorem after_landed (e : Engine) (generation : Nat) (result : Except FetchError Snapshot)
    (cache : SnapshotCache) (now : Nat) :
    e.after ⟨.landed generation result, cache, now⟩
      = if e.stageOf? generation = some .pulling
        then (e.land generation result cache now).engine else e := by
  unfold after handle
  dsimp only
  split
  · rename_i pulling
    rw [if_pos pulling]
  · rename_i other
    rw [if_neg other]

/-- **What an occasion does to the workings.** -/
theorem workings_after (e : Engine) (o : Occasion) :
    (e.after o).workings = e.workings.step o.event := by
  obtain ⟨event, cache, now⟩ := o
  cases event with
  | delta event => exact e.workings_takeEvent event
  | channel s => exact e.workings_takeState s cache now
  | refresh => exact e.workings_beginFetch cache now
  | pull generation =>
    rw [after_pull]
    simp only [Workings.step, stageOf?_workings]
    split <;> rfl
  | landed generation result =>
    rw [after_landed]
    by_cases pulling : e.stageOf? generation = some .pulling
    · rw [if_pos pulling]
      exact e.workings_land generation result cache now pulling
    · rw [if_neg pulling]
      simp only [Workings.step, stageOf?_workings]
  | stop => rfl

/-- **What an occasion does to the figures**: what its deed does. -/
theorem figures_after (e : Engine) (o : Occasion) :
    (e.after o).figures
      = e.figures.takeAll e.settings.maxPending (e.workings.deed? o).toList := by
  obtain ⟨event, cache, now⟩ := o
  cases event with
  | delta event => exact e.figures_takeEvent event cache now
  | channel s => exact e.figures_takeState s cache now _
  | refresh =>
    cases running : e.stopped with
    | true => simp [after, handle, beginFetch, Workings.deed?, workings, running]
    | false =>
      simp only [Workings.deed?, workings, running]
      exact figures_beginFetch running cache now e.settings.maxPending
  | pull generation =>
    have same : (e.after ⟨.pull generation, cache, now⟩).figures = e.figures := by
      rw [after_pull]
      split <;> rfl
    rw [same]
    simp only [Workings.deed?]
    split
    · split <;> rfl
    · rfl
  | landed generation result =>
    rw [after_landed]
    by_cases pulling : e.stageOf? generation = some .pulling
    · rw [if_pos pulling]
      exact e.figures_land generation result cache now _ pulling
    · rw [if_neg pulling]
      simp [Workings.deed?, pulling]
  | stop => rfl

end Engine

/-! ## The runs of a new engine -/

/-- Nothing changes how an engine is set up. -/
theorem Workings.setup_step (w : Workings) (event : EngineEvent) :
    (w.step event).period = w.period ∧ (w.step event).settings = w.settings := by
  have steps := w.steps event
  generalize w.step event = w' at steps ⊢
  cases steps <;> exact ⟨rfl, rfl⟩

/-- **How an engine is started.** -/
structure Launch where
  /-- The period it is to keep the view of. -/
  period : Period
  /-- How it is set up. -/
  settings : EngineSettings
  /-- The state of the channel. -/
  channel : ChannelState
  /-- What the cache holds. -/
  cache : SnapshotCache
  /-- The time, in milliseconds. -/
  now : Nat

namespace Launch

/-- The new engine. -/
def engine (l : Launch) : Engine :=
  (Engine.start l.period l.settings l.channel l.cache l.now).engine

/-- The cached snapshot that spares the new engine its first pull. -/
def seed? (l : Launch) : Option Snapshot :=
  l.cache.fresh? l.period l.settings.freshness l.now

/-- What comes about at the start: the first generation is begun and may be
served from the cache. -/
def opening (l : Launch) : List Deed :=
  .begun :: (l.seed?.map fun snapshot => Deed.installed snapshot l.now).toList

/-- **The new engine after a list of occasions.** -/
def run (l : Launch) (os : List Occasion) : Engine :=
  l.engine.run os

/-- **The record of a run**: all its deeds from the start on. -/
def record (l : Launch) (os : List Occasion) : List Deed :=
  l.opening ++ l.engine.record os

@[simp] theorem run_concat (l : Launch) (os : List Occasion) (o : Occasion) :
    l.run (os ++ [o]) = (l.run os).after o :=
  l.engine.run_concat os o

@[simp] theorem record_concat (l : Launch) (os : List Occasion) (o : Occasion) :
    l.record (os ++ [o]) = l.record os ++ ((l.run os).workings.deed? o).toList := by
  rw [record, Engine.record_concat, ← List.append_assoc]
  rfl

theorem run_append (l : Launch) (os ps : List Occasion) : l.run (os ++ ps) = (l.run os).run ps :=
  l.engine.run_append os ps

theorem record_append (l : Launch) (os ps : List Occasion) :
    l.record (os ++ ps) = l.record os ++ (l.run os).record ps := by
  rw [record, Engine.record_append, ← List.append_assoc]
  rfl

/-- Every deed came about at the start or on an occasion. -/
theorem exists_of_record_eq {l : Launch} {os : List Occasion} {before after : List Deed}
    {d : Deed} (h : l.record os = before ++ d :: after) :
    (∃ rest, l.opening = before ++ d :: rest) ∨
      ∃ earlier o later, os = earlier ++ o :: later ∧ before = l.record earlier ∧
        (l.run earlier).workings.deed? o = some d ∧
        after = (l.run (earlier ++ [o])).record later := by
  rcases List.append_eq_append_iff.1 h with ⟨before', rfl, tail⟩ | ⟨rest, opening, tail⟩
  · obtain ⟨earlier, o, later, split, rfl, deed, rest⟩ := Engine.exists_of_record_eq tail
    exact .inr ⟨earlier, o, later, split, rfl, deed, rest⟩
  · cases rest with
    | nil =>
      have first : l.engine.record os = [] ++ d :: after := tail.symm
      obtain ⟨earlier, o, later, split, none, deed, rest⟩ := Engine.exists_of_record_eq first
      refine .inr ⟨earlier, o, later, split, ?_, deed, rest⟩
      rw [record, ← none, List.append_nil, opening, List.append_nil]
    | cons d' rest =>
      obtain ⟨rfl, -⟩ := List.cons.inj tail
      exact .inl ⟨rest, opening⟩

/-- The new engine is served from the cache or begins a fetch loop. -/
theorem engine_eq (l : Launch) :
    l.engine
      = match l.seed? with
        | some snapshot =>
          ((Engine.idle l.period l.settings l.channel).nextGeneration.install 1 snapshot l.now).1
        | none => (Engine.idle l.period l.settings l.channel).nextGeneration.spawn := by
  have period : (Engine.idle l.period l.settings l.channel).nextGeneration.period = l.period := rfl
  have settings :
      (Engine.idle l.period l.settings l.channel).nextGeneration.settings = l.settings := rfl
  unfold engine Engine.start Engine.beginFetch seed?
  rw [if_neg (by simp [Engine.idle])]
  dsimp only
  rw [if_neg (by simp), period, settings]
  cases l.cache.fresh? l.period l.settings.freshness l.now <;> rfl

theorem figures_engine (l : Launch) (limit : Nat) :
    l.engine.figures = Figures.blank.takeAll limit l.opening := by
  have begun := (Engine.idle l.period l.settings l.channel).figures_nextGeneration limit
  rw [engine_eq, opening]
  cases l.seed? with
  | none => exact begun
  | some snapshot =>
    have installed := Engine.figures_install
      (e := (Engine.idle l.period l.settings l.channel).nextGeneration) rfl snapshot l.now limit
    rw [begun] at installed
    exact installed

/-- A new engine is in its first generation, and pulls unless it is spared that. -/
theorem workings_engine (l : Launch) :
    l.engine.workings =
      { period := l.period
        settings := l.settings
        generation := 1
        stopped := false
        loops := if l.seed?.isSome then [] else [⟨1, .queued⟩] } := by
  rw [engine_eq]
  cases l.seed? with
  | none => rfl
  | some snapshot => exact Engine.workings_install _ _ _ _

/-- Through all of a run the engine keeps its period and its settings. -/
theorem setup_run (l : Launch) (os : List Occasion) :
    (l.run os).period = l.period ∧ (l.run os).settings = l.settings := by
  induction os using List.reverseRecOn with
  | nil =>
    have h := l.workings_engine
    exact ⟨congrArg Workings.period h, congrArg Workings.settings h⟩
  | append_singleton os o ih =>
    rw [run_concat]
    have h := (l.run os).workings_after o
    obtain ⟨period, settings⟩ := (l.run os).workings.setup_step o.event
    exact ⟨(congrArg Workings.period h).trans (period.trans ih.1),
      (congrArg Workings.settings h).trans (settings.trans ih.2)⟩

/-- **The figures of an engine are those of its record.** -/
theorem figures_run (l : Launch) (os : List Occasion) :
    (l.run os).figures = Figures.blank.takeAll l.settings.maxPending (l.record os) := by
  induction os using List.reverseRecOn with
  | nil =>
    rw [record, Engine.record_nil, List.append_nil]
    exact l.figures_engine _
  | append_singleton os o ih =>
    rw [run_concat, record_concat, Figures.takeAll_append, ← ih, Engine.figures_after,
      (l.setup_run os).2]

/-! ## Small runs

An engine beside an empty cache, and events without a meaning of their own,
for statements on single runs. -/

/-- An engine that is started beside an empty cache. -/
def bare (maxPending : Nat) : Launch where
  period := .standard
  settings := ⟨.ofMillis 1000, .ofMillis 10, none, maxPending⟩
  channel := .connected
  cache := .empty
  now := 0

end Launch

/-- The event of a delta. -/
def Event.ofRequests (requests : Nat) (sequence : Nat) : Event where
  type := usageEvents
  data := Json.ofMembers [("requests", .int requests), ("bytes", .int 0), ("avg_latency", .int 2)]
  sequence := sequence
  receivedAt := sequence

/-- A snapshot of nothing but streams. -/
def Snapshot.ofStreams (streams : Count) : Snapshot where
  period := .standard
  totalStreams := streams
  totalBytes := 0
  totalBytesGb := 0
  avgDurationMs := 0
  maxDurationMs := 0

/-- Events one after the other, with the cache left empty. -/
def Occasion.ofEvents (events : List EngineEvent) : List Occasion :=
  events.map fun event => ⟨event, .empty, 0⟩

/-- A first pull during which two deltas come in. -/
def Occasion.pullWithTwo : List Occasion :=
  ofEvents [.pull 1, .delta (.ofRequests 3 1), .delta (.ofRequests 4 2),
    .landed 1 (.ok (.ofStreams 100))]

end Liveboard
