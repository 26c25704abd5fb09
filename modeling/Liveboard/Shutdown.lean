import Liveboard.Timing.Span

/-!
# Shutting down

A long-running command is asked to stop by a signal or from within. The
first reason counts (`Shutdown.trigger`); every token handed out is cancelled
with it, and everyone who waits for the end is told. A signal is noticed only
while somebody waits.

Cleaning up afterwards is given a limited time. Nothing is timed here: what is
to be told is whether a span that it takes is within the time
(`Shutdown.drains`).
-/

namespace Liveboard

/-- **Why a command stops.** -/
inductive ShutdownReason where
  /-- The user interrupted it. -/
  | interrupt
  /-- It was told to terminate. -/
  | terminate
  /-- It was asked from within. -/
  | requested
  deriving DecidableEq, Repr, Inhabited

/-- The name of a reason. -/
def ShutdownReason.name : ShutdownReason → String
  | .interrupt => "Interrupt"
  | .terminate => "Terminate"
  | .requested => "Requested"

/-- **A shutdown that may come.** -/
structure Shutdown where
  /-- How long cleaning up may take. -/
  timeout : Span
  /-- Why the shutdown began, once it has. -/
  reason : Option ShutdownReason
  /-- For each token handed out, whether it was cancelled on its own. -/
  tokens : List Bool
  /-- For each who waits, what it was told. -/
  waiters : List (Option ShutdownReason)
  deriving Inhabited

namespace Shutdown

/-- How long cleaning up may take where nothing is said. -/
def standardTimeout : Span := .ofSecs 10

/-- No shutdown yet. -/
def armed (timeout : Span) : Shutdown := ⟨timeout, none, [], []⟩

/-- Whether the shutdown has begun. -/
def isInitiated (s : Shutdown) : Bool :=
  s.reason.isSome

/-- **The shutdown begins.** Everyone who waits is told the first reason. -/
def trigger (s : Shutdown) (reason : ShutdownReason) : Shutdown :=
  let reason := s.reason.getD reason
  { s with reason := some reason, waiters := s.waiters.map fun w => some (w.getD reason) }

/-- A signal arrives. It is noticed only by those who wait. -/
def signal (s : Shutdown) (reason : ShutdownReason) : Shutdown :=
  if s.waiters.any Option.isNone then s.trigger reason else s

/-- Hands a token out. -/
def handOut (s : Shutdown) : Shutdown :=
  { s with tokens := s.tokens ++ [false] }

/-- Cancels one token only. -/
def cancelToken (s : Shutdown) (n : Nat) : Shutdown :=
  { s with tokens := s.tokens.set n true }

/-- Whether each token is cancelled. -/
def cancelled (s : Shutdown) : List Bool :=
  s.tokens.map (· || s.isInitiated)

/-- Someone waits for the end. -/
def wait (s : Shutdown) : Shutdown :=
  { s with waiters := s.waiters ++ [s.reason] }

/-- **Whether cleaning up ends in time.** No span stands for one that never
ends; one that takes just the time given is in time. -/
def drains (s : Shutdown) : Option Span → Bool
  | some span => span.nanos ≤ s.timeout.nanos
  | none => false

@[simp] theorem reason_trigger_trigger (s : Shutdown) (r r' : ShutdownReason) :
    ((s.trigger r).trigger r').reason = (s.trigger r).reason := rfl

end Shutdown

end Liveboard
