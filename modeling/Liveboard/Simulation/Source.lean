import Liveboard.Fetch.Error
import Liveboard.Metrics.View

/-!
# Sources of snapshots in memory

Two sources without a network. A *stocked* source answers from a stock of
answers, then with a snapshot it keeps for that; it can hold its answers back
for a while. A *manual* source answers each pull by hand, in any order
(`ManualSource.complete`), so that pulls can overtake each other.
-/

namespace Liveboard

/-- **A source that answers from a stock.** -/
structure StockedSource where
  /-- The answers in stock, the next first. -/
  stock : List (Except FetchError Snapshot)
  /-- The answer once the stock is empty. -/
  fallback : Option Snapshot
  /-- Whether answers are held back. -/
  paused : Bool
  /-- The number of pulls begun. -/
  started : Nat
  /-- The number of pulls answered. -/
  completed : Nat

namespace StockedSource

/-- A source with nothing in stock. -/
def empty : StockedSource where
  stock := []
  fallback := none
  paused := false
  started := 0
  completed := 0

/-- A pull begins. -/
def begin (s : StockedSource) : StockedSource :=
  { s with started := s.started + 1 }

/-- **The next answer.** A snapshot is of the period asked for. -/
def answer (s : StockedSource) (period : Period) :
    Except FetchError Snapshot × StockedSource :=
  let (result, rest) : Except FetchError Snapshot × List (Except FetchError Snapshot) :=
    match s.stock with
    | result :: rest => (result, rest)
    | [] =>
      match s.fallback with
      | some snapshot => (.ok snapshot, [])
      | none => (.error (.transport "no snapshot scripted"), [])
  (result.map fun snapshot => { snapshot with period := period },
    { s with stock := rest, completed := s.completed + 1 })

end StockedSource

/-- **A pull on a manual source.** -/
structure ManualPull where
  /-- The engine that pulls. -/
  engine : Nat
  /-- The generation it pulls for. -/
  generation : Nat
  /-- The period asked for. -/
  period : Period
  /-- The answer, once it is given. -/
  answer : Option (Except FetchError Snapshot)

/-- **A source that is answered by hand**: its pulls in the order in which
they began. -/
structure ManualSource where
  /-- The pulls so far. -/
  pulls : List ManualPull

/-- Which pull is answered. -/
inductive PullChoice where
  /-- The pull of a number. -/
  | index (n : Nat)
  /-- The earliest that is not answered. -/
  | oldest
  /-- The latest that is not answered. -/
  | newest
  deriving DecidableEq, Repr, Inhabited

namespace ManualSource

/-- A source without pulls. -/
def empty : ManualSource := ⟨[]⟩

/-- A pull begins. -/
def add (s : ManualSource) (engine generation : Nat) (period : Period) : ManualSource :=
  ⟨s.pulls ++ [⟨engine, generation, period, none⟩]⟩

/-- The numbers of the pulls that are not answered. -/
def unanswered (s : ManualSource) : List Nat :=
  (List.range s.pulls.length).filter fun n => (s.pulls[n]?).any (·.answer.isNone)

/-- The pull that a choice is about. -/
def chosen? (s : ManualSource) : PullChoice → Option Nat
  | .index n => if n < s.pulls.length then some n else none
  | .oldest => s.unanswered.head?
  | .newest => s.unanswered.getLast?

/-- **Answers a pull.** A pull that has its answer keeps it. Yields the
pull that is now answered. -/
def complete (s : ManualSource) (n : Nat) (result : Except FetchError Snapshot) :
    Option ManualPull × ManualSource :=
  match s.pulls[n]? with
  | some pull =>
    if pull.answer.isNone then
      (some pull, ⟨s.pulls.set n { pull with answer := some result }⟩)
    else (none, s)
  | none => (none, s)

/-- The answer that the latest pull of a fetch loop was given. -/
def answer? (s : ManualSource) (engine generation : Nat) : Option (Except FetchError Snapshot) :=
  (s.pulls.reverse.find? fun p => p.engine = engine ∧ p.generation = generation).bind (·.answer)

end ManualSource

end Liveboard
