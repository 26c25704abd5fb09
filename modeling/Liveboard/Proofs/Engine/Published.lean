import Liveboard.Proofs.Engine.Replay

/-!
# What consumers see

A consumer is told a view, and whether it is kept up to date or may lag
behind; it is told nothing else. The phase, the view, the deltas held back
and what consumers see are written by each handler on its own, and this
module says that they always belong together (`Launch.shows_run`).

The view is said to be kept up to date as long as nothing has gone wrong
since the last snapshot or delta was merged. Only a lapse of the channel can
have gone wrong while the engine is live: a pull of the generation whose
snapshot has landed cannot fail any more.

An engine can be handed a snapshot by the cache, which engines of other
periods share. It files each snapshot under its own period
(`SnapshotCache.keyed_of_uses`), so that an engine is never handed one of
another. With this `Launch.published_run` says all that consumers can rely on.
-/

namespace Liveboard

open Record

namespace Record

/-- Whether the channel has lapsed since a snapshot or a delta was merged
last. -/
def lapsedLast (log : List Deed) : Bool :=
  ((sinceInstalled log).filter fun d => d.isLapsed || d.delta?.isSome).getLast?.any (·.isLapsed)

theorem lapsedLast_concat_installed (log : List Deed) (snapshot : Snapshot) (time : Nat) :
    lapsedLast (log ++ [.installed snapshot time]) = false := by
  rw [lapsedLast, sinceInstalled_concat_installed]
  rfl

theorem lapsedLast_concat_lapsed (log : List Deed) : lapsedLast (log ++ [.lapsed]) = true := by
  rw [lapsedLast, sinceInstalled_concat rfl, List.filter_append]
  simp [Deed.isLapsed]

theorem lapsedLast_concat_delta (log : List Deed) (event : Event) (d : UsageDelta) :
    lapsedLast (log ++ [.delta event d]) = false := by
  rw [lapsedLast, sinceInstalled_concat rfl, List.filter_append]
  simp [Deed.isLapsed, Deed.delta?]

/-- Other deeds do not count. -/
theorem lapsedLast_concat {log : List Deed} {d : Deed} (installed : d.isInstalled = false)
    (lapsed : d.isLapsed = false) (delta : d.delta? = none) :
    lapsedLast (log ++ [d]) = lapsedLast log := by
  rw [lapsedLast, sinceInstalled_concat installed, List.filter_append]
  simp [lapsed, delta, lapsedLast]

end Record

/-! ## Phase, view and status -/

/-- What consumers see of a view: it is kept up to date if the engine is live
and the channel has not lapsed. -/
def ViewStatus.of (phase : Phase) (lapsed : Bool) : Option View → ViewStatus
  | none => .loading
  | some v => if phase = .live ∧ lapsed = false then .live v else .stale v

/-- Consumers see the view that there is. -/
@[simp] theorem ViewStatus.view?_of (phase : Phase) (lapsed : Bool) (view : Option View) :
    (ViewStatus.of phase lapsed view).view? = view := by
  cases view with
  | none => rfl
  | some v =>
    unfold ViewStatus.of
    dsimp only
    split <;> rfl

/-- Consumers see that there is no view. -/
theorem ViewStatus.of_eq_loading_iff (phase : Phase) (lapsed : Bool) (view : Option View) :
    ViewStatus.of phase lapsed view = .loading ↔ view = none := by
  constructor
  · intro h
    rw [← ViewStatus.view?_of phase lapsed view, h]
    rfl
  · rintro rfl
    rfl

/-- A lapse counts only while the engine is live. -/
theorem ViewStatus.of_eq_of_ne {phase : Phase} (other : phase ≠ .live) (lapsed lapsed' : Bool)
    (view : Option View) : ViewStatus.of phase lapsed view = .of phase lapsed' view := by
  cases view <;> simp [ViewStatus.of, other]

/-- Nothing but the deltas held back and their count changes. -/
theorem Figures.holdBack_frame (f : Figures) (limit : Nat) (d : UsageDelta × Int) :
    ∃ pending dropped, f.holdBack limit d = { f with pending, dropped } := by
  unfold holdBack
  split <;> exact ⟨_, _, rfl⟩

/-- **What consumers see belongs to the phase and the view.** -/
structure Figures.Shows (f : Figures) (log : List Deed) : Prop where
  /-- Until a snapshot has landed there is no view. -/
  seeding_iff : f.phase = .seeding ↔ f.view = none
  /-- Consumers see the view. -/
  published_eq : f.published = .of f.phase (lapsedLast log) f.view

namespace Figures.Shows

variable {f : Figures} {log : List Deed}

/-- Where the engine is not live, consumers are told that the view may lag
behind. -/
theorem stale_eq (h : f.Shows log) {phase : Phase} (other : phase ≠ .live) (lapsed : Bool) :
    f.stale = .of phase lapsed f.view := by
  unfold stale
  rw [h.published_eq]
  cases f.view with
  | none => rfl
  | some v => simp [ViewStatus.of, other]

/-- **Every deed keeps it so**, provided that no pull fails while the engine
is live. -/
theorem take (h : f.Shows log) (limit : Nat) {d : Deed}
    (outcome : d.isOutcome = true → f.phase ≠ .live) : (f.take limit d).Shows (log ++ [d]) := by
  cases d with
  | begun =>
    have other : (if f.view.isSome then Phase.resyncing else .seeding) ≠ .live := by
      split <;> simp
    refine ⟨?_, h.stale_eq other _⟩
    show (if f.view.isSome then Phase.resyncing else .seeding) = .seeding ↔ f.view = none
    cases f.view <;> simp
  | pulled again =>
    refine ⟨h.seeding_iff, ?_⟩
    rw [lapsedLast_concat rfl rfl rfl]
    exact h.published_eq
  | failed error =>
    -- The engine is not live, so the view was shown as one that may lag behind.
    exact ⟨h.seeding_iff, h.stale_eq (outcome rfl) _⟩
  | lapsed =>
    refine ⟨h.seeding_iff, ?_⟩
    rw [lapsedLast_concat_lapsed]
    show f.stale = .of f.phase true f.view
    unfold stale
    rw [h.published_eq]
    cases f.view <;> simp [ViewStatus.of]
  | installed snapshot time =>
    refine ⟨?_, ?_⟩
    · simp [Figures.take]
    · rw [lapsedLast_concat_installed]
      simp [Figures.take, ViewStatus.of]
  | delta event d =>
    cases phase : f.phase with
    | live =>
      have view : f.view ≠ none := by simp [← h.seeding_iff, phase]
      obtain ⟨v, hv⟩ := Option.ne_none_iff_exists'.1 view
      have merged : f.take limit (.delta event d)
          = { f with
              view := some (v.apply d event.receivedAt)
              published := .live (v.apply d event.receivedAt) } := by
        simp only [Figures.take, phase, merge, hv]
      rw [merged]
      refine ⟨by simp [phase], ?_⟩
      rw [lapsedLast_concat_delta]
      simp [ViewStatus.of, phase]
    | seeding | resyncing =>
      obtain ⟨pending, dropped, held⟩ := f.holdBack_frame limit (d, event.receivedAt)
      have taken : f.take limit (.delta event d) = { f with pending, dropped } := by
        simp only [Figures.take, phase, held]
      rw [taken]
      refine ⟨h.seeding_iff, ?_⟩
      show f.published = _
      rw [h.published_eq]
      exact ViewStatus.of_eq_of_ne (by simp [phase]) _ _ _

end Figures.Shows

/-! ## The cache -/

/-- A use of the cache that changes it. -/
inductive CacheUse where
  /-- A snapshot is stored. -/
  | store (snapshot : Snapshot) (now : Nat)
  /-- A period is forgotten. -/
  | invalidate (period : Period)

namespace SnapshotCache

/-- The cache after a use. -/
def use (c : SnapshotCache) : CacheUse → SnapshotCache
  | .store snapshot now => c.store snapshot now
  | .invalidate period => c.invalidate period

/-- **Each snapshot is filed under its period.** -/
def Keyed (c : SnapshotCache) : Prop :=
  ∀ e ∈ c.entries, e.2.1.period = e.1

theorem Keyed.use {c : SnapshotCache} (h : c.Keyed) (u : CacheUse) : (c.use u).Keyed := by
  have forgotten : ∀ period, (c.invalidate period).Keyed :=
    fun period e he => h e (List.mem_filter.1 he).1
  cases u with
  | store snapshot now =>
    intro e he
    rcases List.mem_cons.1 he with rfl | he
    · rfl
    · exact forgotten snapshot.period e he
  | invalidate period => exact forgotten period

/-- However it is used, each snapshot is filed under its period. -/
theorem keyed_of_uses (uses : List CacheUse) : (uses.foldl use empty).Keyed := by
  have kept : ∀ c : SnapshotCache, c.Keyed → (uses.foldl use c).Keyed := by
    induction uses with
    | nil => exact fun c h => h
    | cons u uses ih => exact fun c h => ih (c.use u) (h.use u)
  exact kept empty (by simp [Keyed, empty])

/-- A snapshot found in such a cache is of the period asked for. -/
theorem Keyed.period_eq {c : SnapshotCache} (h : c.Keyed) {period : Period} {window : Span}
    {now : Nat} {snapshot : Snapshot} (found : c.fresh? period window now = some snapshot) :
    snapshot.period = period := by
  unfold fresh? at found
  obtain ⟨⟨s, time⟩, hs, kept⟩ := Option.bind_eq_some_iff.1 found
  obtain ⟨_, rfl⟩ : _ ∧ s = snapshot := by simpa using kept
  obtain ⟨_, _, split, -⟩ := List.lookup_eq_some_iff.1 hs
  exact h (period, s, time) (by simp [split])

end SnapshotCache

/-! ## All that consumers can rely on -/

/-- Deltas do not change the period of a view. -/
theorem View.period_applyAll (v : View) (ds : List (UsageDelta × Int)) :
    (v.applyAll ds).period = v.period := by
  induction ds generalizing v with
  | nil => rfl
  | cons d ds ih =>
    rw [applyAll_cons, ih]
    rfl

/-- A first pull with two deltas, after which the channel is lost. -/
def Occasion.pulledThenLost : List Occasion :=
  pullWithTwo ++ ofEvents [.channel .disconnected]

namespace Launch

/-- **Throughout a run, what consumers see belongs to the phase and the
view.** -/
theorem shows_run (l : Launch) (os : List Occasion) :
    (l.run os).figures.Shows (l.record os) := by
  induction os using List.reverseRecOn with
  | nil =>
    rw [show (l.run []).figures = l.engine.figures from rfl,
      l.figures_engine l.settings.maxPending, record, Engine.record_nil, List.append_nil, opening]
    have blank : Figures.blank.Shows [] := ⟨by simp [Figures.blank], rfl⟩
    have begun := blank.take l.settings.maxPending (d := .begun) (by simp [Deed.isOutcome])
    cases l.seed? with
    | none => exact begun
    | some snapshot =>
      exact begun.take l.settings.maxPending (d := .installed snapshot l.now)
        fun _ => by simp [Figures.take, Figures.blank]
  | append_singleton os o ih =>
    rw [run_concat, record_concat, Engine.figures_after, (l.setup_run os).2]
    cases hd : (l.run os).workings.deed? o with
    | none => simpa using ih
    | some d =>
      refine ih.take _ fun outcome => ?_
      rw [Ne, (l.accounts_run os).live_iff, (l.fits_run os).landed_eq_false hd outcome]
      simp

/-- A view that is there stays there. -/
theorem isSome_view_append (l : Launch) (os more : List Occasion)
    (h : (l.run os).view.isSome = true) :
    (l.run (os ++ more)).view.isSome = true := by
  rw [show (l.run os).view = (l.run os).figures.view from rfl,
    (l.accounts_run os).view_eq.isSome_iff] at h
  rw [show (l.run (os ++ more)).view = (l.run (os ++ more)).figures.view from rfl,
    (l.accounts_run _).view_eq.isSome_iff, record_append]
  obtain ⟨d, hd, installed⟩ := h
  exact ⟨d, List.mem_append_left _ hd, installed⟩

/-- A view is of the period of its engine, if the source answers for the
period it is asked for. -/
theorem period_view (l : Launch) (keyed : l.cache.Keyed) (os : List Occasion)
    (answers : ∀ o ∈ os, ∀ generation snapshot, o.event = .landed generation (.ok snapshot) →
      snapshot.period = l.period) {v : View} (hv : (l.run os).view = some v) :
    v.period = l.period := by
  obtain ⟨before, snapshot, time, after, split, -, rfl⟩ :=
    (l.accounts_run os).view_eq.exists_eq hv
  rw [viewOf, View.period_applyAll]
  rcases brought_of_record_eq split with
    ⟨-, seed, -⟩ | ⟨earlier, o, later, rfl, -, -, -, event, -⟩
  · exact keyed.period_eq seed
  · exact answers o (by simp) _ _ event

/-- **What consumers can rely on.** Throughout the run of an engine whose
source answers for the period it is asked for, beside a cache that others
have used as they liked, and with room for at least one delta:

* until there is a view the phase is `seeding`, and consumers see that none
  has come in;
* while a snapshot that replaces the view is pulled, consumers see the view
  as one that may lag behind;
* in the phase `live` they see the view as one kept up to date, unless the
  channel has lapsed since a snapshot or a delta was merged last;
* in that phase no deltas are held back, and never more than may be;
* a view that is there stays there;
* a view that consumers see is of the engine's own period. -/
theorem published_run (l : Launch) (room : 1 ≤ l.settings.maxPending) (uses : List CacheUse)
    (shared : l.cache = uses.foldl SnapshotCache.use .empty) (os : List Occasion)
    (answers : ∀ o ∈ os, ∀ generation snapshot, o.event = .landed generation (.ok snapshot) →
      snapshot.period = l.period) :
    ((l.run os).phase = .seeding ↔ (l.run os).view = none) ∧
      ((l.run os).view = none ↔ (l.run os).published = .loading) ∧
      ((l.run os).phase = .resyncing →
        ∃ v, (l.run os).view = some v ∧ (l.run os).published = .stale v) ∧
      ((l.run os).phase = .live →
        ∃ v, (l.run os).view = some v ∧ (l.run os).published
          = if lapsedLast (l.record os) then .stale v else .live v) ∧
      ((l.run os).phase = .live → (l.run os).pending = []) ∧
      (l.run os).pending.length ≤ l.settings.maxPending ∧
      (∀ more, (l.run os).view.isSome = true → (l.run (os ++ more)).view.isSome = true) ∧
      ∀ v, (l.run os).published.view? = some v → v.period = l.period := by
  have accounts := l.accounts_run os
  obtain ⟨seeding, published⟩ := l.shows_run os
  have keyed : l.cache.Keyed := shared ▸ SnapshotCache.keyed_of_uses uses
  have some_of_ne : (l.run os).phase ≠ .seeding → ∃ v, (l.run os).view = some v :=
    fun other => Option.ne_none_iff_exists'.1 fun none => other (seeding.2 none)
  refine ⟨seeding, ?_, fun resyncing => ?_, fun live => ?_, fun live => ?_, ?_,
    fun more => l.isSome_view_append os more, fun v hv => ?_⟩
  · rw [show (l.run os).published = _ from published]
    exact (ViewStatus.of_eq_loading_iff _ _ _).symm
  · obtain ⟨v, hv⟩ := some_of_ne (by simp [resyncing])
    refine ⟨v, hv, published.trans ?_⟩
    rw [show (l.run os).figures.phase = .resyncing from resyncing,
      show (l.run os).figures.view = some v from hv]
    rfl
  · obtain ⟨v, hv⟩ := some_of_ne (by simp [live])
    refine ⟨v, hv, published.trans ?_⟩
    rw [show (l.run os).figures.phase = .live from live,
      show (l.run os).figures.view = some v from hv]
    cases lapsedLast (l.record os) <;> rfl
  · exact accounts.pending_eq.trans (if_pos (accounts.live_iff.1 live))
  · rw [show (l.run os).pending = _ from accounts.pending_eq]
    split
    · exact Nat.zero_le _
    · rw [length_rtake, Nat.max_eq_left room]
      exact Nat.min_le_left _ _
  · rw [show (l.run os).published = _ from published, ViewStatus.view?_of] at hv
    exact l.period_view keyed os answers hv

/-- Once the channel is lost, the view may lag behind. -/
theorem published_run_lost :
    1 ≤ (bare 1).settings.maxPending ∧
      (bare 1).cache = [].foldl SnapshotCache.use .empty ∧
      (∀ o ∈ Occasion.pulledThenLost, ∀ generation snapshot,
        o.event = .landed generation (.ok snapshot) → snapshot.period = (bare 1).period) ∧
      ∃ v, ((bare 1).run Occasion.pulledThenLost).view = some v ∧
        ((bare 1).run Occasion.pulledThenLost).published = .stale v := by
  have room : 1 ≤ (bare 1).settings.maxPending := le_rfl
  have answers : ∀ o ∈ Occasion.pulledThenLost, ∀ generation snapshot,
      o.event = .landed generation (.ok snapshot) → snapshot.period = (bare 1).period := by
    intro o ho generation snapshot h
    simp only [Occasion.pulledThenLost, Occasion.pullWithTwo, Occasion.ofEvents, List.map_cons,
      List.map_nil, List.cons_append, List.nil_append, List.mem_cons, List.not_mem_nil,
      or_false] at ho
    rcases ho with rfl | rfl | rfl | rfl | rfl <;> cases h
    rfl
  obtain ⟨-, -, -, live, -⟩ := published_run (bare 1) room [] rfl Occasion.pulledThenLost answers
  refine ⟨room, rfl, answers, ?_⟩
  obtain ⟨v, hv, seen⟩ := live (by decide +kernel)
  have lapsed : lapsedLast ((bare 1).record Occasion.pulledThenLost) = true := rfl
  rw [lapsed] at seen
  exact ⟨v, hv, seen⟩

end Launch

end Liveboard
