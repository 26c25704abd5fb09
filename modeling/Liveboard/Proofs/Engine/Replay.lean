import Liveboard.Proofs.Engine.Loops

/-!
# The view is the snapshot with its deltas

Deltas reach the view along two ways: those that come in while a snapshot is
being pulled are held back and merged when it lands, the others are merged at
once. Whatever the order in which deltas, states of the channel, refreshes
and results of pulls come in, the view is what one would have made of the
record by hand (`Launch.view_run`): take the last snapshot that was installed,
merge the latest of the deltas that its generation had received before, as many
as may be held back, and then all that came in before the next generation was
begun.

The held-back deltas are not the view's; so the invariant has to say also
what they are. It is `Figures.Accounts`, and each deed keeps it
(`Figures.Accounts.take`).
-/

namespace Liveboard

open Record

namespace Record

/-- The view of a snapshot that landed at a time: `before` is what came about
before it and `after` what came about since. -/
def viewOf (limit : Nat) (before : List Deed) (snapshot : Snapshot) (time : Nat)
    (after : List Deed) : View :=
  (View.ofSnapshot snapshot time).applyAll
    ((deltas (sinceBegun before)).rtake limit ++ deltas (untilBegun after))

/-- Once the next generation is begun, the view stays as it is. -/
theorem viewOf_append {limit : Nat} {before : List Deed} {snapshot : Snapshot} {time : Nat}
    {after : List Deed} (h : ∃ d ∈ after, d.isBegun = true) (more : List Deed) :
    viewOf limit before snapshot time (after ++ more)
      = viewOf limit before snapshot time after := by
  rw [viewOf, viewOf, untilBegun_append_of_mem h]

/-- A deed that is no delta leaves the view as it is. -/
theorem viewOf_concat (limit : Nat) (before : List Deed) (snapshot : Snapshot) (time : Nat)
    (after : List Deed) {d : Deed} (h : d.delta? = none) :
    viewOf limit before snapshot time (after ++ [d])
      = viewOf limit before snapshot time after := by
  by_cases ended : ∃ x ∈ after, x.isBegun = true
  · exact viewOf_append ended [d]
  · have open_ : ∀ x ∈ after, x.isBegun = false := by simpa using ended
    cases begun : d.isBegun with
    | true =>
      obtain rfl := Deed.eq_begun begun
      rw [viewOf, viewOf, untilBegun_concat_begun]
    | false =>
      have all : ∀ x ∈ after ++ [d], x.isBegun = false := by
        simpa [or_imp, forall_and, begun] using open_
      rw [viewOf, viewOf, untilBegun_eq_self all, untilBegun_eq_self open_, deltas_append,
        deltas_singleton_of_none h, List.append_nil]

/-- A delta of a generation that has landed is merged last. -/
theorem viewOf_concat_delta (limit : Nat) (before : List Deed) (snapshot : Snapshot) (time : Nat)
    {after : List Deed} (h : ∀ d ∈ after, d.isBegun = false) (event : Event) (d : UsageDelta) :
    viewOf limit before snapshot time (after ++ [.delta event d])
      = (viewOf limit before snapshot time after).apply d event.receivedAt := by
  have all : ∀ x ∈ after ++ [Deed.delta event d], x.isBegun = false := by
    simpa [or_imp, forall_and, Deed.isBegun] using h
  rw [viewOf, viewOf, untilBegun_eq_self all, untilBegun_eq_self h, deltas_append, deltas_delta,
    ← List.append_assoc, View.applyAll_append]
  rfl

/-- **The view of a record**: none before a snapshot was installed, and that
of the last snapshot from then on. -/
inductive HasView (limit : Nat) : List Deed → Option View → Prop
  | absent {log : List Deed} (h : ∀ d ∈ log, d.isInstalled = false) : HasView limit log none
  | shown (before : List Deed) (snapshot : Snapshot) (time : Nat) {after : List Deed}
      (h : ∀ d ∈ after, d.isInstalled = false) :
      HasView limit (before ++ .installed snapshot time :: after)
        (some (viewOf limit before snapshot time after))

namespace HasView

variable {limit : Nat} {log : List Deed} {view : Option View}

/-- There is a view just if a snapshot was installed. -/
theorem isSome_iff (h : HasView limit log view) :
    view.isSome = true ↔ ∃ d ∈ log, d.isInstalled = true := by
  cases h with
  | absent none => simpa using none
  | shown before snapshot time last =>
    exact iff_of_true rfl ⟨.installed snapshot time, by simp, rfl⟩

/-- A view is that of the last snapshot. -/
theorem exists_eq (h : HasView limit log view) {v : View} (hv : view = some v) :
    ∃ before snapshot time after, log = before ++ .installed snapshot time :: after ∧
      (∀ d ∈ after, d.isInstalled = false) ∧ v = viewOf limit before snapshot time after := by
  cases h with
  | absent _ => cases hv
  | shown before snapshot time last =>
    cases hv
    exact ⟨before, snapshot, time, _, rfl, last, rfl⟩

/-- A deed that is neither a snapshot nor a delta leaves the view. -/
theorem concat (h : HasView limit log view) {d : Deed} (installed : d.isInstalled = false)
    (delta : d.delta? = none) : HasView limit (log ++ [d]) view := by
  cases h with
  | absent none => exact .absent (by simpa [or_imp, forall_and, installed] using none)
  | shown before snapshot time last =>
    rw [← viewOf_concat limit before snapshot time _ delta, List.append_assoc, List.cons_append]
    exact .shown _ _ _ (by simpa [or_imp, forall_and, installed] using last)

/-- A delta that is held back leaves the view. -/
theorem concat_held (h : HasView limit log view) (pulling : landed log = false) (event : Event)
    (d : UsageDelta) : HasView limit (log ++ [.delta event d]) view := by
  cases h with
  | absent none => exact .absent (by simpa [or_imp, forall_and, Deed.isInstalled] using none)
  | @shown before snapshot time after last =>
    -- A generation was begun since, or the delta would be merged.
    have ended : ∃ x ∈ after, x.isBegun = true := by
      simpa [landed_append_installed before snapshot time last] using pulling
    rw [← viewOf_append ended [.delta event d], List.append_assoc, List.cons_append]
    exact .shown _ _ _ (by simpa [or_imp, forall_and, Deed.isInstalled] using last)

/-- A delta of a generation that has landed is merged. -/
theorem concat_merged (h : HasView limit log view) (live : landed log = true) (event : Event)
    (d : UsageDelta) : ∃ v, view = some v ∧
      HasView limit (log ++ [.delta event d]) (some (v.apply d event.receivedAt)) := by
  cases h with
  | absent none =>
    obtain ⟨x, hx, installed⟩ := List.any_eq_true.1 live
    rw [none x ((List.rtakeWhile_suffix _ _).subset hx)] at installed
    cases installed
  | @shown before snapshot time after last =>
    have open_ : ∀ x ∈ after, x.isBegun = false := by
      simpa [landed_append_installed before snapshot time last] using live
    refine ⟨_, rfl, ?_⟩
    rw [← viewOf_concat_delta limit before snapshot time open_, List.append_assoc,
      List.cons_append]
    exact .shown _ _ _ (by simpa [or_imp, forall_and, Deed.isInstalled] using last)

end HasView

end Record

/-- Only a snapshot and a delta that is merged change the view. -/
theorem Figures.view_take_ne (limit : Nat) {f : Figures} {d : Deed}
    (h : (f.take limit d).view ≠ f.view) :
    d.isInstalled = true ∨ d.delta?.isSome = true ∧ f.phase = .live := by
  cases d with
  | installed snapshot time => exact .inl rfl
  | delta event d =>
    cases phase : f.phase with
    | live => exact .inr ⟨rfl, rfl⟩
    | seeding | resyncing =>
      refine absurd ?_ h
      simp only [take, phase, holdBack]
      split <;> rfl
  | begun | pulled | failed | lapsed => exact absurd rfl h

/-- **The figures account for the record**: each of them is what can be read
off the record. The latest delta is held back even where none may be. -/
structure Figures.Accounts (limit : Nat) (f : Figures) (log : List Deed) : Prop where
  /-- Deltas are merged once the snapshot of the generation has landed. -/
  live_iff : f.phase = .live ↔ landed log = true
  /-- Before that, the latest deltas of the generation are held back. -/
  pending_eq :
    f.pending = if landed log then [] else (deltas (sinceBegun log)).rtake (max limit 1)
  /-- The view is that of the record. -/
  view_eq : HasView (max limit 1) log f.view
  /-- Those deltas were dropped that were too many. -/
  dropped_eq : 1 ≤ limit → f.dropped = overflow limit log

theorem length_rtake {α : Type} (ds : List α) (n : Nat) :
    (ds.rtake n).length = min n ds.length := by
  rw [List.rtake, List.length_drop]
  omega

/-- The latest entries of a list with one more: the earliest gives way if
there are as many as may be. -/
theorem rtake_concat {α : Type} {limit : Nat} (room : 1 ≤ limit) (ds : List α) (d : α) :
    (ds ++ [d]).rtake limit
      = if limit ≤ ds.length then (ds.rtake limit).drop 1 ++ [d] else ds.rtake limit ++ [d] := by
  have latest : (ds ++ [d]).rtake limit = ds.drop (ds.length + 1 - limit) ++ [d] := by
    rw [List.rtake, List.length_append, List.length_singleton, List.drop_append_of_le_length]
    omega
  rw [latest]
  by_cases full : limit ≤ ds.length
  · rw [if_pos full, List.rtake, List.drop_drop]
    congr 2
    omega
  · rw [if_neg full, List.rtake]
    congr 2
    omega

/-- **Holding back keeps the latest deltas** and counts those that it
drops. -/
theorem Figures.holdBack_eq {limit : Nat} {f : Figures} {ds : List (UsageDelta × Int)}
    (h : f.pending = ds.rtake (max limit 1)) (d : UsageDelta × Int) :
    f.holdBack limit d
      = { f with
          pending := (ds ++ [d]).rtake (max limit 1)
          dropped := f.dropped + if limit ≤ ds.length then 1 else 0 } := by
  have full : limit ≤ f.pending.length ↔ limit ≤ ds.length := by
    rw [h, length_rtake]
    omega
  have latest : (ds ++ [d]).rtake (max limit 1)
      = if limit ≤ ds.length then f.pending.drop 1 ++ [d] else f.pending ++ [d] := by
    rw [rtake_concat (Nat.le_max_right _ _), h]
    -- The bounds `limit` and `max limit 1` differ only where nothing is held back.
    by_cases few : ds = []
    · simp [few]
    · have length := List.length_pos_iff.2 few
      have same : max limit 1 ≤ ds.length ↔ limit ≤ ds.length := by omega
      simp only [same]
  unfold holdBack
  rw [latest]
  simp only [full]
  split <;> rfl

namespace Figures.Accounts

variable {limit : Nat} {f : Figures} {log : List Deed}

/-- A deed that changes no more than what consumers see, keeps the
account. -/
theorem of_same (h : f.Accounts limit log) {d : Deed} (begun : d.isBegun = false)
    (installed : d.isInstalled = false) (delta : d.delta? = none) {g : Figures}
    (phase : g.phase = f.phase) (pending : g.pending = f.pending) (view : g.view = f.view)
    (dropped : g.dropped = f.dropped) : g.Accounts limit (log ++ [d]) where
  live_iff := by rw [phase, landed_concat begun, installed, Bool.or_false, h.live_iff]
  pending_eq := by
    rw [pending, landed_concat begun, installed, Bool.or_false, sinceBegun_concat begun,
      deltas_append, deltas_singleton_of_none delta, List.append_nil, h.pending_eq]
  view_eq := view ▸ h.view_eq.concat installed delta
  dropped_eq := by
    intro room
    have grown := overflow_concat limit log begun
    rw [dropped, h.dropped_eq room]
    -- The deed is no delta, so what its generation holds back is as before.
    cases hl : landed log with
    | true =>
      rw [heldBack_of_landed hl] at grown
      omega
    | false =>
      rw [heldBack_sinceBegun_concat hl, heldBack_sinceBegun hl, deltas_singleton_of_none delta,
        List.append_nil] at grown
      omega

/-- A generation is begun: nothing is held back for it yet. -/
theorem take_begun (h : f.Accounts limit log) :
    (f.take limit .begun).Accounts limit (log ++ [.begun]) where
  live_iff := by
    have other : (f.take limit .begun).phase ≠ .live := by
      show (if f.view.isSome then Phase.resyncing else .seeding) ≠ .live
      split <;> simp
    simp [other]
  pending_eq := by
    rw [sinceBegun_concat_begun, deltas_nil, List.rtake_nil, ite_self]
    rfl
  view_eq := h.view_eq.concat rfl rfl
  dropped_eq := fun room => (h.dropped_eq room).trans (overflow_concat_begun limit log).symm

/-- A snapshot lands: the deltas held back are merged into it. -/
theorem take_installed (h : f.Accounts limit log) (pulling : landed log = false)
    (snapshot : Snapshot) (time : Nat) :
    (f.take limit (.installed snapshot time)).Accounts limit
      (log ++ [.installed snapshot time]) where
  live_iff := by
    rw [landed_concat rfl]
    simp [Deed.isInstalled, take]
  pending_eq := by
    rw [landed_concat rfl]
    simp [Deed.isInstalled, take]
  view_eq := by
    have view : (f.take limit (.installed snapshot time)).view
        = some (viewOf (max limit 1) log snapshot time []) := by
      show some ((View.ofSnapshot snapshot time).applyAll f.pending) = _
      rw [h.pending_eq, pulling, viewOf, untilBegun]
      simp
    rw [view]
    exact .shown _ _ _ (by simp)
  dropped_eq := by
    intro room
    have same := h.dropped_eq room
    have grown := overflow_concat limit log (d := .installed snapshot time) rfl
    rw [heldBack_sinceBegun_concat pulling, heldBack_sinceBegun pulling,
      deltas_singleton_of_none rfl, List.append_nil] at grown
    show f.dropped = _
    omega

/-- A delta comes in while a snapshot is being pulled: it is held back. -/
theorem take_held (h : f.Accounts limit log) (pulling : landed log = false) (event : Event)
    (d : UsageDelta) :
    (f.take limit (.delta event d)).Accounts limit (log ++ [.delta event d]) := by
  have other : f.phase ≠ .live := by simp [h.live_iff, pulling]
  have held : f.take limit (.delta event d) = f.holdBack limit (d, event.receivedAt) := by
    unfold take
    cases phase : f.phase with
    | live => exact absurd phase other
    | seeding | resyncing => rfl
  have pending : f.pending = (deltas (sinceBegun log)).rtake (max limit 1) := by
    rw [h.pending_eq, pulling]
    rfl
  have grown := overflow_concat limit log (d := .delta event d) rfl
  rw [heldBack_sinceBegun_concat pulling, heldBack_sinceBegun pulling, deltas_delta,
    List.length_append, List.length_singleton] at grown
  rw [held, holdBack_eq pending]
  exact {
    live_iff := by
      rw [landed_concat rfl, pulling]
      simpa [Deed.isInstalled] using other
    pending_eq := by
      rw [landed_concat rfl, pulling, sinceBegun_concat rfl, deltas_append, deltas_delta]
      rfl
    view_eq := h.view_eq.concat_held pulling event d
    dropped_eq := by
      intro room
      have same := h.dropped_eq room
      dsimp only
      split <;> omega }

/-- A delta comes in once the snapshot has landed: it is merged. -/
theorem take_merged (h : f.Accounts limit log) (live : landed log = true) (event : Event)
    (d : UsageDelta) :
    (f.take limit (.delta event d)).Accounts limit (log ++ [.delta event d]) := by
  obtain ⟨v, hv, next⟩ := h.view_eq.concat_merged live event d
  have merged : f.take limit (.delta event d)
      = { f with
          view := some (v.apply d event.receivedAt)
          published := .live (v.apply d event.receivedAt) } := by
    simp only [take, h.live_iff.2 live, merge, hv]
  have grown := overflow_concat limit log (d := .delta event d) rfl
  rw [heldBack_of_landed live] at grown
  rw [merged]
  exact {
    live_iff := by
      rw [landed_concat rfl, live, Bool.true_or]
      exact iff_of_true (h.live_iff.2 live) rfl
    pending_eq := by
      rw [landed_concat rfl, live, Bool.true_or, if_pos rfl]
      simpa [live] using h.pending_eq
    view_eq := next
    dropped_eq := by
      intro room
      have same := h.dropped_eq room
      show f.dropped = _
      omega }

/-- **Every deed keeps the account.** -/
theorem take (h : f.Accounts limit log) {d : Deed}
    (outcome : d.isOutcome = true → landed log = false) :
    (f.take limit d).Accounts limit (log ++ [d]) := by
  cases d with
  | begun => exact h.take_begun
  | installed snapshot time => exact h.take_installed (outcome rfl) snapshot time
  | delta event d =>
    cases hl : landed log with
    | true => exact h.take_merged hl event d
    | false => exact h.take_held hl event d
  | pulled | failed | lapsed => exact h.of_same rfl rfl rfl rfl rfl rfl rfl

/-- The figures of an engine that has not begun account for nothing. -/
theorem blank (limit : Nat) : Figures.blank.Accounts limit [] where
  live_iff := by simp [Figures.blank, landed, sinceBegun]
  pending_eq := by simp [Figures.blank, landed, sinceBegun]
  view_eq := .absent (by simp)
  dropped_eq := by simp [Figures.blank, overflow, heldBack]

end Figures.Accounts

namespace Launch

/-- **The figures of a run account for its record.** -/
theorem accounts_run (l : Launch) (os : List Occasion) :
    (l.run os).figures.Accounts l.settings.maxPending (l.record os) := by
  induction os using List.reverseRecOn with
  | nil =>
    rw [show (l.run []).figures = l.engine.figures from rfl,
      l.figures_engine l.settings.maxPending, record, Engine.record_nil, List.append_nil, opening]
    have begun := (Figures.Accounts.blank l.settings.maxPending).take_begun
    cases l.seed? with
    | none => exact begun
    | some snapshot => exact begun.take_installed rfl snapshot l.now
  | append_singleton os o ih =>
    rw [run_concat, record_concat, Engine.figures_after, (l.setup_run os).2]
    cases hd : (l.run os).workings.deed? o with
    | none => simpa using ih
    | some d => exact ih.take ((l.fits_run os).landed_eq_false hd)

/-- **The view is the snapshot with its deltas.** Throughout a run, with room
for at least one delta:

* the view, if there is one, is made of the last snapshot installed: into it
  are merged, in the order of receipt, the latest of the deltas that its
  generation received before it, as many as may be held back, and all that
  came in since and before the next generation was begun;
* there is a view as soon as a snapshot was installed;
* only a snapshot and, once that of the generation has landed, a delta
  change the view;
* those deltas are dropped that are too many for their generation. -/
theorem view_run (l : Launch) (room : 1 ≤ l.settings.maxPending) (os : List Occasion) :
    (∀ v, (l.run os).view = some v →
      ∃ before snapshot time after,
        l.record os = before ++ .installed snapshot time :: after ∧
        (∀ d ∈ after, d.isInstalled = false) ∧
        l.Brought os before snapshot time ∧
        v = (View.ofSnapshot snapshot time).applyAll
          ((deltas (sinceBegun before)).rtake l.settings.maxPending
            ++ deltas (untilBegun after))) ∧
    ((l.run os).view.isSome = true ↔ ∃ d ∈ l.record os, d.isInstalled = true) ∧
    (∀ o, (l.run (os ++ [o])).view ≠ (l.run os).view →
      ∃ d, (l.run os).workings.deed? o = some d ∧
        (d.isInstalled = true ∨ d.delta?.isSome = true ∧ landed (l.record os) = true)) ∧
    (l.run os).dropped = overflow l.settings.maxPending (l.record os) := by
  have accounts := l.accounts_run os
  refine ⟨fun v hv => ?_, accounts.view_eq.isSome_iff, fun o changed => ?_,
    accounts.dropped_eq room⟩
  · obtain ⟨before, snapshot, time, after, split, last, rfl⟩ := accounts.view_eq.exists_eq hv
    refine ⟨before, snapshot, time, after, split, last, brought_of_record_eq split, ?_⟩
    rw [viewOf, Nat.max_eq_left room]
  · rw [run_concat] at changed
    have next := congrArg Figures.view ((l.run os).figures_after o)
    rw [(l.setup_run os).2] at next
    cases hd : (l.run os).workings.deed? o with
    | none =>
      rw [hd] at next
      exact absurd next changed
    | some d =>
      rw [hd] at next
      refine ⟨d, rfl, ?_⟩
      rw [← accounts.live_iff]
      exact Figures.view_take_ne l.settings.maxPending fun same => changed (next.trans same)

/-- Of two deltas that come in during a pull an engine with room for one
drops the first, and its view is the snapshot with the other. -/
theorem view_run_bare :
    1 ≤ (bare 1).settings.maxPending ∧ ((bare 1).run Occasion.pullWithTwo).dropped = 1 ∧
      ∃ (before : List Deed) (snapshot : Snapshot) (time : Nat) (after : List Deed),
        (bare 1).record Occasion.pullWithTwo = before ++ .installed snapshot time :: after ∧
        ((bare 1).run Occasion.pullWithTwo).view
          = some ((View.ofSnapshot snapshot time).applyAll
            ((deltas (sinceBegun before)).rtake 1 ++ deltas (untilBegun after))) := by
  have room : 1 ≤ (bare 1).settings.maxPending := le_rfl
  have record : (bare 1).record Occasion.pullWithTwo
      = [.begun, .pulled false, .delta (.ofRequests 3 1) ⟨3, 0, 2⟩,
        .delta (.ofRequests 4 2) ⟨4, 0, 2⟩, .installed (.ofStreams 100) 0] := rfl
  have installed : ∃ d ∈ (bare 1).record Occasion.pullWithTwo, d.isInstalled = true := by
    rw [record]
    exact ⟨.installed (.ofStreams 100) 0, by simp, rfl⟩
  obtain ⟨view, some, -, dropped⟩ := view_run (bare 1) room Occasion.pullWithTwo
  refine ⟨room, dropped.trans (by decide +kernel), ?_⟩
  obtain ⟨v, hv⟩ := Option.isSome_iff_exists.1 (some.2 installed)
  obtain ⟨before, snapshot, time, after, split, -, -, rfl⟩ := view v hv
  exact ⟨before, snapshot, time, after, split, hv⟩

end Launch

end Liveboard
