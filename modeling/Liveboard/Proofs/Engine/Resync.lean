import Liveboard.Proofs.Engine.Published

/-!
# What a new generation rules out

When a generation is begun, everything from before is ruled out: the deltas
held back are given up, a pull under way is superseded, and the view is one
that may lag behind. Consumers see a view kept up to date again only when a
pull that was begun afterwards has brought its snapshot, and that view is
made of the snapshot and of deltas received afterwards (`Launch.live_of_begun`).

Generations are counted by the record (`Engine.generation_run`), so two states
of an engine can be compared by their generations without going back to what
happened between them, and `Engine.Fetched` says of a snapshot where in the run
its pull was begun and where it landed.
-/

namespace Liveboard

open Record

/-- The delta of an event, if its data can be read, with its time. -/
def Event.delta? (event : Event) : Option (UsageDelta × Int) :=
  event.usage?.map fun d => (d, event.receivedAt)

/-- The event that is received on an occasion, if one is. -/
def Occasion.received? (o : Occasion) : Option Event :=
  match o.event with
  | .delta event => some event
  | _ => none

/-! ## Counting generations -/

/-- Only a connection and a demand begin a generation. -/
theorem Workings.countP_isBegun_deed? {w : Workings} {o : Occasion}
    (connected : o.event ≠ .channel .connected) (refresh : o.event ≠ .refresh) :
    (w.deed? o).toList.countP (·.isBegun) = 0 := by
  cases hd : w.deed? o with
  | none => rfl
  | some d =>
    cases does_of_deed? hd with
    | begun _ event => exact absurd event (not_or.2 ⟨connected, refresh⟩)
    | _ => rfl

/-- A generation more is a generation that was begun. -/
theorem Workings.generation_step (w : Workings) (o : Occasion) :
    (w.step o.event).generation
      = w.generation + (w.deed? o).toList.countP (·.isBegun) := by
  obtain ⟨event, cache, now⟩ := o
  cases event with
  | delta event =>
    simp only [step, deed?]
    cases w.stopped <;> cases event.usage? <;> rfl
  | channel s =>
    cases s with
    | connecting | disconnected | error => rfl
    | connected =>
      simp only [step, deed?]
      cases w.stopped <;> rfl
  | refresh =>
    simp only [step, deed?]
    cases w.stopped <;> rfl
  | pull generation =>
    have none : (w.deed? ⟨.pull generation, cache, now⟩).toList.countP (·.isBegun) = 0 :=
      countP_isBegun_deed? (by simp) (by simp)
    rw [none, generation_pull, Nat.add_zero]
  | landed generation result =>
    have none : (w.deed? ⟨.landed generation result, cache, now⟩).toList.countP (·.isBegun)
        = 0 := countP_isBegun_deed? (by simp) (by simp)
    rw [none, generation_landed, Nat.add_zero]
  | stop => rfl

/-- **Generations are counted by the record.** -/
theorem Engine.generation_run (e : Engine) (os : List Occasion) :
    (e.run os).generation = e.generation + (e.record os).countP (·.isBegun) := by
  induction os generalizing e with
  | nil => rfl
  | cons o os ih =>
    have step : (e.after o).generation
        = e.generation + (e.workings.deed? o).toList.countP (·.isBegun) :=
      (congrArg Workings.generation (e.workings_after o)).trans (e.workings.generation_step o)
    rw [run_cons, ih, step, record, List.countP_append, Nat.add_assoc]

/-! ## Deltas that were received -/

/-- A delta comes from an event that is received. -/
theorem Workings.deltas_deed? (w : Workings) (o : Occasion) :
    (deltas (w.deed? o).toList).Sublist (o.received?.toList.filterMap Event.delta?) := by
  cases hd : w.deed? o with
  | none => exact List.nil_sublist _
  | some d =>
    cases does_of_deed? hd with
    | delta _ received read => simp [Occasion.received?, received, Event.delta?, read]
    | _ => exact List.nil_sublist _

/-- The deltas of a run come from the events that are received. -/
theorem Engine.deltas_record (e : Engine) (os : List Occasion) :
    (deltas (e.record os)).Sublist ((os.filterMap Occasion.received?).filterMap Event.delta?) := by
  induction os generalizing e with
  | nil => exact List.nil_sublist _
  | cons o os ih =>
    have events : (o :: os).filterMap Occasion.received?
        = o.received?.toList ++ os.filterMap Occasion.received? := by
      cases h : o.received? <;> simp [h]
    rw [record, deltas_append, events, List.filterMap_append]
    exact (e.workings.deltas_deed? o).append (ih (e.after o))

/-! ## After a generation was begun -/

/-- What has come since a generation was begun is of that generation or a
later one. -/
theorem Record.sinceBegun_append_begun (log after : List Deed) :
    sinceBegun (log ++ .begun :: after) = sinceBegun after := by
  induction after using List.reverseRecOn with
  | nil => exact sinceBegun_concat_begun log
  | append_singleton after d ih =>
    rw [← List.cons_append, ← List.append_assoc]
    cases begun : d.isBegun with
    | true =>
      obtain rfl := Deed.eq_begun begun
      rw [sinceBegun_concat_begun, sinceBegun_concat_begun]
    | false => rw [sinceBegun_concat begun, sinceBegun_concat begun, ih]

/-- Consumers are told of a view kept up to date only while the engine is
live. -/
theorem ViewStatus.of_eq_live {phase : Phase} {lapsed : Bool} {view : Option View} {v : View}
    (h : ViewStatus.of phase lapsed view = .live v) : phase = .live ∧ view = some v := by
  cases view with
  | none => cases h
  | some w =>
    unfold ViewStatus.of at h
    dsimp only at h
    split at h
    · rename_i live
      cases h
      exact ⟨live.1, rfl⟩
    · cases h

/-- The snapshot of a generation that has landed is the last one, and it
came after the generation was begun. -/
theorem Record.HasView.landed_after {limit : Nat} {log after : List Deed} {v : View}
    (h : HasView limit (log ++ .begun :: after) (some v))
    (live : landed (log ++ .begun :: after) = true) :
    ∃ early snapshot, ∃ time : Nat, ∃ rest, after = early ++ .installed snapshot time :: rest ∧
      v = (View.ofSnapshot snapshot time).applyAll
        ((deltas (sinceBegun early)).rtake limit ++ deltas rest) := by
  obtain ⟨before, snapshot, time, rest, split, last, rfl⟩ := h.exists_eq rfl
  rw [split, landed_append_installed before snapshot time last] at live
  have open_ : ∀ d ∈ rest, d.isBegun = false := by simpa using live
  rcases List.append_eq_append_iff.1 split with ⟨early, rfl, tail⟩ | ⟨late, -, tail⟩
  · cases early with
    | nil => cases (List.cons.inj tail).1
    | cons d early =>
      obtain ⟨rfl, rfl⟩ := List.cons.inj tail
      refine ⟨early, snapshot, time, rest, rfl, ?_⟩
      rw [viewOf, sinceBegun_append_begun, untilBegun_eq_self open_]
  · have mem : Deed.begun ∈ Deed.installed snapshot time :: rest := by simp [tail]
    rcases List.mem_cons.1 mem with h | h
    · cases h
    · cases open_ _ h

namespace Engine

variable {e : Engine} {os : List Occasion}

/-- A stopped engine stays stopped. -/
theorem stopped_run (stopped : e.stopped = true) (os : List Occasion) :
    (e.run os).stopped = true := by
  induction os generalizing e with
  | nil => exact stopped
  | cons o os ih =>
    refine ih ?_
    show (e.after o).workings.stopped = true
    rw [workings_after]
    exact Workings.stopped_step stopped o.event

/-- An engine that runs after a run was running before it. -/
theorem running_of_run (running : (e.run os).stopped = false) : e.stopped = false := by
  by_contra stopped
  rw [stopped_run (eq_true_of_ne_false stopped) os] at running
  cases running

/-- While a pull of the current generation is under way, no pull of that
generation lands. -/
theorem event_ne_landed (running : (e.run os).stopped = false)
    (pulling : e.workings.stageOf? e.generation = some .pulling)
    (open_ : ∀ d ∈ e.record os, d.isBegun = false ∧ d.isOutcome = false) :
    ∀ o ∈ os, ∀ result, o.event ≠ .landed e.generation result := by
  induction os generalizing e with
  | nil => simp
  | cons o os ih =>
    have next : (e.workings.step o.event).stopped = false := by
      rw [← workings_after]
      exact running_of_run (e := e.after o) running
    have first : ∀ d ∈ (e.workings.deed? o).toList, d.isBegun = false ∧ d.isOutcome = false :=
      fun d hd => open_ d (List.mem_append_left _ hd)
    obtain ⟨same, still⟩ := Workings.pulling_step next pulling first
    rw [← workings_after] at same still
    have same : (e.after o).generation = e.generation := same
    intro o' ho result event
    rcases List.mem_cons.1 ho with rfl | ho
    · have before : e.workings.stopped = false := Workings.running_of_step next
      obtain ⟨d, hd, outcome⟩ := Workings.outcome_of_pulling before pulling event
      simp [first d (by simp [hd])] at outcome
    · refine ih running ?_ (fun d hd => open_ d (List.mem_append_right _ hd)) o' ho result ?_
      · rw [same]
        exact still
      · rw [same]
        exact event

/-- **A snapshot was fetched** in a run: a pull was begun, it is the next of
its generation to land, and its snapshot was installed then. -/
def Fetched (e : Engine) (os : List Occasion) (snapshot : Snapshot) (time : Nat) : Prop :=
  ∃ early p late i rest generation again, os = early ++ p :: (late ++ i :: rest) ∧
    p.event = .pull generation ∧ (e.run early).workings.deed? p = some (.pulled again) ∧
    (∀ o ∈ late, ∀ result, o.event ≠ .landed generation result) ∧
    i.event = .landed generation (.ok snapshot) ∧
    (e.run (early ++ p :: late)).workings.deed? i = some (.installed snapshot time)

/-- A snapshot was fetched when it was installed after a pull of its
generation that had not ended. -/
theorem fetched {first last : List Occasion} {i : Occasion} {snapshot : Snapshot} {time : Nat}
    (install : (e.run first).workings.deed? i = some (.installed snapshot time))
    {earlier since : List Deed} {again : Bool}
    (pulled : sinceBegun (e.record first) = earlier ++ .pulled again :: since)
    (unended : ∀ d ∈ since, d.isOutcome = false) :
    e.Fetched (first ++ i :: last) snapshot time := by
  obtain ⟨running, -⟩ := Workings.pulling_of_isOutcome install rfl
  obtain ⟨landing, -⟩ := Workings.landed_of_installed install
  obtain ⟨old, current⟩ := List.rtakeWhile_suffix (!·.isBegun) (e.record first)
  rw [show List.rtakeWhile _ _ = _ from pulled, ← List.append_assoc] at current
  obtain ⟨early, p, late, rfl, started, pull, rfl⟩ := exists_of_record_eq current.symm
  obtain ⟨event, same, pulling⟩ := Workings.pulling_of_pulled pull
  -- Since that pull, no generation was begun and none of its own ended.
  have open_ : ∀ d ∈ (e.run (early ++ [p])).record late,
      d.isBegun = false ∧ d.isOutcome = false := by
    intro d hd
    have mem : d ∈ sinceBegun (e.record (early ++ p :: late)) := by
      rw [pulled]
      exact List.mem_append_right _ (List.mem_cons_of_mem _ hd)
    exact ⟨isBegun_of_mem_sinceBegun mem, unended d hd⟩
  rw [← workings_after, ← run_concat] at same pulling
  have same : (e.run (early ++ [p])).generation = (e.run early).generation := same
  have reaches : e.run (early ++ p :: late) = (e.run (early ++ [p])).run late := by
    rw [← run_append, List.append_assoc, List.singleton_append]
  have still : (e.run (early ++ p :: late)).generation = (e.run early).generation := by
    rw [reaches, generation_run, List.countP_eq_zero.2 fun d hd => by simp [open_ d hd], same,
      Nat.add_zero]
  have others : ∀ o ∈ late, ∀ result, o.event ≠ .landed (e.run early).generation result := by
    rw [← same]
    exact event_ne_landed (reaches ▸ running) (by rw [same]; exact pulling) open_
  refine ⟨early, p, late, i, last, (e.run early).generation, again, by simp, event, pull, others,
    ?_, install⟩
  rw [← still]
  exact landing

end Engine

namespace Launch

/-- **What a live view is made of once a generation was begun.** If a
generation is begun on the occasion `o` and consumers see a live view
afterwards, then its snapshot was fetched after `o`, and the deltas merged
into it were received after `o`. -/
theorem live_of_begun (l : Launch) (before : List Occasion) (o : Occasion)
    (after : List Occasion) (begun : (l.run before).workings.deed? o = some .begun) {v : View}
    (live : (l.run (before ++ o :: after)).published = .live v) :
    ∃ snapshot time, ∃ events : List Event,
      ((l.run before).after o).Fetched after snapshot time ∧
      events.Sublist (after.filterMap Occasion.received?) ∧
      v = (View.ofSnapshot snapshot time).applyAll (events.filterMap Event.delta?) := by
  have reaches : ∀ os, l.run (before ++ o :: os) = ((l.run before).after o).run os := by
    intro os
    rw [run_append, Engine.run_cons]
  have record : ∀ os, l.record (before ++ o :: os)
      = l.record before ++ .begun :: ((l.run before).after o).record os := by
    intro os
    rw [show before ++ o :: os = before ++ [o] ++ os by simp, record_append, record_concat, begun,
      run_concat]
    simp
  generalize (l.run before).after o = e at reaches record
  obtain ⟨-, published⟩ := l.shows_run (before ++ o :: after)
  obtain ⟨phase, view⟩ := ViewStatus.of_eq_live (published.symm.trans live)
  have accounts := l.accounts_run (before ++ o :: after)
  have landed := accounts.live_iff.1 phase
  have hasView := accounts.view_eq
  rw [view, record] at hasView
  rw [record] at landed
  obtain ⟨deeds, snapshot, time, rest, split, made⟩ := hasView.landed_after landed
  obtain ⟨first, i, last, rfl, rfl, install, rfl⟩ := Engine.exists_of_record_eq split
  -- The pull that has landed was under way, so it was begun in its generation.
  have fits := l.fits_run (before ++ o :: first)
  rw [reaches] at fits
  obtain ⟨running, pulling⟩ := Workings.pulling_of_isOutcome install rfl
  obtain ⟨earlier, again, since, pulled, unended⟩ := fits.pulled running pulling
  rw [record, sinceBegun_append_begun] at pulled
  -- Both the deltas held back and those merged later were received since.
  have held : ((deltas (sinceBegun (e.record first))).rtake (max l.settings.maxPending 1)).Sublist
      (deltas (e.record first)) :=
    (List.drop_sublist _ _).trans ((List.rtakeWhile_suffix _ _).sublist.filterMap _)
  have merged := held.append (List.Sublist.refl (deltas ((e.run (first ++ [i])).record last)))
  have received := e.deltas_record (first ++ i :: last)
  rw [split, deltas_append] at received
  obtain ⟨events, within, eq⟩ := List.sublist_filterMap_iff.1 (merged.trans received)
  exact ⟨snapshot, time, events, Engine.fetched install pulled unended, within,
    made.trans (by rw [eq])⟩

end Launch

end Liveboard
