import Liveboard.Metrics.View
import Liveboard.Timing.Span

/-!
# The cache of snapshots

The last snapshot of each period, with the time at which it was stored.
Engines of one backend share a cache, so that a second one need not ask
again for what the first has just got.

A cache knows nothing of generations or of who asked. What is too old is
left where it is and only not handed out (`SnapshotCache.fresh?`), while
`SnapshotCache.invalidate` forgets what is stored and leaves no mark: a
snapshot that is stored afterwards is there like any other, whenever it was
requested.
-/

namespace Liveboard

/-- **The latest snapshot by period.** -/
structure SnapshotCache where
  /-- The snapshots by period, each with the millisecond of its storing. -/
  entries : List (Period × Snapshot × Nat)

namespace SnapshotCache

/-- Nothing stored. -/
def empty : SnapshotCache := ⟨[]⟩

instance : Inhabited SnapshotCache := ⟨empty⟩

/-- The snapshot of a period, if it is younger than the window. -/
def fresh? (c : SnapshotCache) (period : Period) (window : Span) (now : Nat) : Option Snapshot :=
  (c.entries.lookup period).bind fun (snapshot, time) =>
    if (Span.ofMillis (now - time)).nanos < window.nanos then some snapshot else none

/-- Forgets a period. -/
def invalidate (c : SnapshotCache) (period : Period) : SnapshotCache :=
  ⟨c.entries.filter (·.1 ≠ period)⟩

/-- Stores a snapshot in place of the one of its period. -/
def store (c : SnapshotCache) (snapshot : Snapshot) (now : Nat) : SnapshotCache :=
  ⟨(snapshot.period, snapshot, now) :: (c.invalidate snapshot.period).entries⟩

/-- The number of periods with a snapshot. -/
def periods (c : SnapshotCache) : Nat :=
  c.entries.length

/-- The text of a cache, for diagnostics. -/
def summary (c : SnapshotCache) : String :=
  s!"SnapshotCache \x7b periods: {c.periods} \x7d"

/-- A period that was forgotten has no snapshot. -/
theorem lookup_invalidate_self (c : SnapshotCache) (period : Period) :
    (c.invalidate period).entries.lookup period = none := by
  simp only [invalidate, List.lookup_eq_none_iff]
  intro e he
  simpa using Ne.symm (by simpa using (List.mem_filter.1 he).2 : e.1 ≠ period)

/-- What was stored last is what a period has. -/
theorem lookup_store_self (c : SnapshotCache) (snapshot : Snapshot) (now : Nat) :
    (c.store snapshot now).entries.lookup snapshot.period = some (snapshot, now) := by
  simp [store]

end SnapshotCache

end Liveboard
