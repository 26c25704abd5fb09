import Liveboard.Proofs.Channel.Attempts

/-!
# The delays of a driver

A driver keeps two counts. The failures in a row are those of the channel: calls
clear them, and so does a connection that settles. The attempts of its delays are
its own: they begin with the session, and begin anew when a connection *that had
settled* is lost. The two are cleared at different moments, and so they need not
agree. But they never drift apart: at a delay, the attempt is as many as the
failures if a settled connection was lost in the session, and one less if none
was, for then the session began with the failure that led to its first delay.

What matters for the delays of a driver is written down as a list of *beats*, and
`Driver.Timed` holds the two counts against it. A session is replaced when a later
call has cleared the failures. They count for that call then, but the driver was
told to stop before, and all that it may still do is ask for its first delay; so
the two counts have to agree only as long as the driver is not replaced. Whatever
happens to a driver keeps it on its schedule (`Driver.Takes.timed`).
-/

namespace Liveboard

open Course

/-- **What matters for the delays of a driver.** -/
inductive Beat where
  /-- A later call to connect has cleared the failures. -/
  | replaced
  /-- A connection that had settled was lost. -/
  | lapse
  /-- A delay begins. -/
  | delay
  deriving DecidableEq, Repr

namespace Beat

/-- **The delays** since a settled connection was lost, or since the session began if none
was. -/
def delays (beats : List Beat) : Nat :=
  (beats.rtakeWhile (· ≠ .lapse)).count .delay

/-- The failures that are cleared by the settling of a connection, but not by its loss. -/
def slack (beats : List Beat) : Nat :=
  if .lapse ∈ beats then 1 else 0

variable (beats : List Beat)

theorem delays_concat (b : Beat) :
    delays (beats ++ [b])
      = if b = .lapse then 0 else delays beats + (if b = .delay then 1 else 0) := by
  unfold delays
  by_cases lapse : b = .lapse
  · rw [List.rtakeWhile_concat_neg _ _ _ (by simp [lapse]), if_pos lapse]
    rfl
  · rw [List.rtakeWhile_concat_pos _ _ _ (by simp [lapse]), if_neg lapse, List.count_append,
      List.count_singleton]
    simp

@[simp] theorem delays_concat_lapse : delays (beats ++ [.lapse]) = 0 :=
  delays_concat beats .lapse

@[simp] theorem delays_concat_delay : delays (beats ++ [.delay]) = delays beats + 1 :=
  delays_concat beats .delay

@[simp] theorem delays_concat_replaced : delays (beats ++ [.replaced]) = delays beats :=
  delays_concat beats .replaced

theorem delays_of_not_mem (h : .delay ∉ beats) : delays beats = 0 :=
  List.count_eq_zero.2 fun mem => h ((List.rtakeWhile_suffix _ _).subset mem)

@[simp] theorem slack_concat_lapse : slack (beats ++ [.lapse]) = 1 :=
  if_pos (by simp)

@[simp] theorem slack_concat_delay : slack (beats ++ [.delay]) = slack beats := by
  simp [slack]

end Beat

namespace Driver

/-- Whether a driver waits for the end of a delay. -/
def isPausing (d : Driver) : Bool :=
  match d.stage with
  | .pausing _ => true
  | _ => false

/-- **What a turn means for the delays**: the driver before it and after it, and what came
about. -/
def beats (before after : Driver) (incident : Option Incident) : List Beat :=
  (if before.stage = .reading true ∧ incident = some .lost then [.lapse] else []) ++
    if after.isPausing && !before.isPausing then [.delay] else []

/-- **The two counts of a driver** that waits at a stage. Without a connection they differ
by the slack; while a connection has settled there are no failures. -/
def Agrees (failures : Nat) (beats : List Beat) : DriverStage → Prop
  | .fresh connected => failures = if connected then 0 else 1
  | .reading true => failures = 0
  | .reading false | .pausing _ | .opening => failures + Beat.slack beats = Beat.delays beats
  | .ended => True

/-- **A driver on its schedule.** -/
structure Timed (d : Driver) (c : ChannelStatus) (beats : List Beat) : Prop where
  /-- The attempts are the delays there were. -/
  attempt : d.stage ≠ .ended → d.backoff.attempt = Beat.delays beats
  /-- Before its first turn there was nothing. -/
  early : ∀ connected, d.stage = .fresh connected → .delay ∉ beats ∧ .lapse ∉ beats
  /-- It is not replaced before it was told to stop. -/
  told : .replaced ∈ beats → d.cancelled = true
  /-- As long as it is not replaced the failures are its own. -/
  agrees : .replaced ∉ beats → Agrees c.failures beats d.stage

/-- **A driver without a connection**, which asks for a delay unless it is out of
attempts. -/
structure Due (d : Driver) (c : ChannelStatus) (beats : List Beat) : Prop where
  /-- The attempts are the delays there were. -/
  attempt : d.backoff.attempt = Beat.delays beats
  /-- It is not replaced before it was told to stop. -/
  told : .replaced ∈ beats → d.cancelled = true
  /-- As long as it is not replaced the failures are its own. -/
  agrees : .replaced ∉ beats → c.failures + Beat.slack beats = Beat.delays beats + 1
  /-- There were not more delays than failures. -/
  few : Beat.delays beats ≤ c.failures

variable {d : Driver} {c : ChannelStatus} {now : Int} {draw : Float} {beats : List Beat}

/-- **The delay that begins**: the attempt it is computed for, and how this attempt and the
failures compare. -/
structure Pauses (d : Driver) (c : ChannelStatus) (draw : Float) (beats : List Beat) : Prop where
  /-- The delay is the one of this attempt. -/
  delay : ∃ delay, d.stage = .pausing delay ∧
    d.backoff.policy.delay? (Beat.delays beats) draw = some delay
  /-- The attempts are below the bound of the failures. -/
  below : Beat.delays beats < d.backoff.policy.maxFailures
  /-- How they compare with the failures. -/
  failures : .replaced ∉ beats →
    c.failures = Beat.delays beats + if .lapse ∈ beats then 0 else 1

/-- Nothing is left to be on time for. -/
theorem timed_of_ended (ended : d.stage = .ended) (told : .replaced ∈ beats → d.cancelled = true) :
    d.Timed c beats where
  attempt := fun going => absurd ended going
  early := fun connected stage => by
    rw [ended] at stage
    cases stage
  told := told
  agrees := fun _ => by
    rw [ended]
    trivial

/-- **A driver without a connection** stays on its schedule, and what it waits out is the
delay that is due. -/
theorem Due.timed {turn : DriverTurn} (h : d.Due c beats)
    (small : d.backoff.policy.maxFailures ≤ Backoff.maxAttempt) (resumes : d.Resumes c draw turn) :
    (turn.driver.isPausing = false ∧ turn.driver.Timed turn.status beats) ∨
      (turn.driver.isPausing = true ∧ turn.driver.Pauses turn.status draw beats ∧
        turn.driver.Timed turn.status (beats ++ [.delay])) := by
  cases resumes with
  | givesUp | stalls => exact .inl ⟨rfl, timed_of_ended rfl h.told⟩
  | @pauses delay left after =>
    have below : Beat.delays beats < d.backoff.policy.maxFailures := h.few.trans_lt left
    have next : d.backoff.advance.attempt = Beat.delays beats + 1 := by
      rw [Backoff.advance, h.attempt]
      exact Nat.min_eq_left (Nat.succ_le_of_lt (below.trans_le small))
    refine .inr ⟨rfl, ⟨⟨delay, rfl, h.attempt ▸ after⟩, below, fun own => ?_⟩, ?_⟩
    · have counts := h.agrees own
      unfold Beat.slack at counts
      show c.failures = _
      split_ifs at counts ⊢ <;> omega
    · refine ⟨fun _ => (Beat.delays_concat_delay beats).symm ▸ next, fun _ no => (by cases no),
        fun replaced => h.told (by simpa using replaced), fun own => ?_⟩
      show c.failures + Beat.slack (beats ++ [.delay]) = Beat.delays (beats ++ [.delay])
      rw [Beat.slack_concat_delay, Beat.delays_concat_delay]
      exact h.agrees (by simpa using own)

/-- **A turn after which there is no connection** brings one more delay or none. -/
theorem Due.takes {d' : Driver} {c' : ChannelStatus} {more : List Beat} {turn : DriverTurn}
    (h : d'.Due c' (beats ++ more)) (small : d'.backoff.policy.maxFailures ≤ Backoff.maxAttempt)
    (resumes : d'.Resumes c' draw turn) (going : d.isPausing = false) (incident : Option Incident)
    (lapse : (if d.stage = .reading true ∧ incident = some .lost then [.lapse] else []) = more) :
    turn.driver.Timed turn.status (beats ++ d.beats turn.driver incident) ∧
      (.delay ∈ d.beats turn.driver incident →
        ∃ earlier, beats ++ d.beats turn.driver incident = earlier ++ [.delay] ∧
          turn.driver.Pauses turn.status draw earlier) := by
  unfold Driver.beats
  rw [going, Bool.not_false, Bool.and_true]
  rcases h.timed small resumes with ⟨none, timed⟩ | ⟨one, pauses, timed⟩
  · rw [none, if_neg Bool.false_ne_true, List.append_nil]
    refine ⟨lapse.symm ▸ timed, fun mem => ?_⟩
    split at mem <;> simp at mem
  · rw [one, if_pos rfl, lapse, ← List.append_assoc]
    exact ⟨timed, fun _ => ⟨_, rfl, pauses⟩⟩

/-- A turn with which no delay begins and no connection is lost. -/
theorem Timed.quiet {incident : Option Incident} {turn : DriverTurn}
    (timed : turn.driver.Timed turn.status beats) (kept : incident ≠ some .lost)
    (still : turn.driver.isPausing = false ∨ turn.driver.isPausing = d.isPausing) :
    turn.driver.Timed turn.status (beats ++ d.beats turn.driver incident) ∧
      (.delay ∈ d.beats turn.driver incident →
        ∃ earlier, beats ++ d.beats turn.driver incident = earlier ++ [.delay] ∧
          turn.driver.Pauses turn.status draw earlier) := by
  have none : d.beats turn.driver incident = [] := by
    rw [Driver.beats, if_neg fun lapse => kept lapse.2, List.nil_append, if_neg]
    rcases still with still | still <;> simp [still]
  rw [none, List.append_nil]
  exact ⟨timed, fun mem => (List.not_mem_nil mem).elim⟩

/-- A driver with a connection, or about to have one. -/
theorem Timed.goesOn (h : d.Timed c beats) (going : d.stage ≠ .ended) {stage : DriverStage}
    {c' : ChannelStatus} (begun : ∀ connected, stage ≠ .fresh connected)
    (agrees : .replaced ∉ beats → Agrees c'.failures beats stage) :
    Driver.Timed { d with stage := stage } c' beats :=
  ⟨fun _ => h.attempt going, fun connected fresh => absurd fresh (begun connected), h.told, agrees⟩

/-- A session that begins without a connection begins with one failure. -/
theorem Timed.due_of_fresh (h : d.Timed c beats) (stage : d.stage = .fresh false) :
    d.Due c beats := by
  obtain ⟨undelayed, unlapsed⟩ := h.early false stage
  have zero : Beat.delays beats = 0 := Beat.delays_of_not_mem beats undelayed
  refine ⟨h.attempt (by simp [stage]), h.told, fun own => ?_, by omega⟩
  have first : c.failures = 1 := by simpa [stage, Agrees] using h.agrees own
  rw [first, zero, Beat.slack, if_neg unlapsed]

/-- When a settled connection is lost the attempts begin anew; the failures were cleared when
it settled. -/
theorem Timed.due_of_lapse (h : d.Timed c beats) (stage : d.stage = .reading true)
    (own : .replaced ∉ beats) (error : ChannelError) :
    Driver.Due { d with backoff := d.backoff.reset }
      ((c.recordError error).setState .disconnected).1 (beats ++ [.lapse]) := by
  refine ⟨by simp, fun replaced => h.told (by simpa using replaced), fun _ => ?_, by simp⟩
  have cleared : c.failures = 0 := by simpa [stage, Agrees] using h.agrees own
  simpa [ChannelStatus.recordError] using cleared

/-- When an attempt fails, or a connection that has not settled is lost, there is one more
failure. -/
theorem Timed.due_of_failure (h : d.Timed c beats)
    (stage : d.stage = .reading false ∨ d.stage = .opening) (own : .replaced ∉ beats)
    {c' : ChannelStatus} (more : c'.failures = c.failures + 1) : d.Due c' beats := by
  have slack : Beat.slack beats ≤ 1 := by
    unfold Beat.slack
    split <;> omega
  have counts : c.failures + Beat.slack beats = Beat.delays beats := by
    have agrees := h.agrees own
    rcases stage with stage | stage <;> simpa [stage, Agrees] using agrees
  have attempt : d.backoff.attempt = Beat.delays beats :=
    h.attempt (by rcases stage with stage | stage <;> simp [stage])
  exact ⟨attempt, h.told, fun _ => by omega, by omega⟩

/-- **What happens to a driver keeps it on its schedule**, and where a delay begins it is the
one that is due. -/
theorem Takes.timed {event : DriverEvent} {incident : Option Incident} {turn : DriverTurn}
    (h : d.Timed c beats) (small : d.backoff.policy.maxFailures ≤ Backoff.maxAttempt)
    (takes : d.Takes c now draw event incident turn) :
    turn.driver.Timed turn.status (beats ++ d.beats turn.driver incident) ∧
      (.delay ∈ d.beats turn.driver incident →
        ∃ earlier, beats ++ d.beats turn.driver incident = earlier ++ [.delay] ∧
          turn.driver.Pauses turn.status draw earlier) := by
  have own : d.cancelled = false → .replaced ∉ beats := by
    intro running replaced
    rw [h.told replaced] at running
    cases running
  -- A failure brings no beat but the delay that begins.
  have alone : ∀ {c' : ChannelStatus}, d.Due c' beats → d.Due c' (beats ++ []) :=
    fun due => (List.append_nil beats).symm ▸ due
  cases takes with
  | seeks stage resumes =>
    exact (alone (h.due_of_fresh stage)).takes small resumes (by simp [isPausing, stage]) none
      (if_neg (by simp [stage]))
  | @loses settled error _ _ stage running resumes =>
    have going : d.isPausing = false := by simp [isPausing, stage]
    cases settled with
    | true =>
      exact (h.due_of_lapse stage (own running) error).takes small resumes going (some .lost)
        (if_pos ⟨stage, rfl⟩)
    | false =>
      have due := h.due_of_failure (.inl stage) (own running)
        (((c.recordError error).countFailure).failures_setState .disconnected)
      exact (alone due).takes small resumes going (some .lost) (if_neg (by simp [stage]))
  | @fails error _ stage running retryable resumes =>
    have more : (c.attemptFailed error).1.failures = c.failures + 1 := by simp [retryable]
    exact (alone (h.due_of_failure (.inr stage) (own running) more)).takes small resumes
      (by simp [isPausing, stage]) (some (.refused error)) (if_neg (by simp [stage]))
  | begins stage =>
    obtain ⟨undelayed, unlapsed⟩ := h.early true stage
    refine Timed.quiet (h.goesOn (by simp [stage]) (by simp) fun own => ?_) (by simp) (.inl rfl)
    have first : c.failures = 0 := by simpa [stage, Agrees] using h.agrees own
    rw [Agrees, first, Beat.delays_of_not_mem beats undelayed, Beat.slack, if_neg unlapsed]
  | outlives stage running =>
    exact Timed.quiet (h.goesOn (by simp [stage]) (by simp) fun _ => rfl) (by simp) (.inl rfl)
  | @reads settled text stage running =>
    refine Timed.quiet (h.goesOn (by simp [stage]) (by simp) fun own => ?_) (by simp) (.inl rfl)
    cases settled with
    | true =>
      have cleared : c.failures = 0 := by simpa [stage, Agrees] using h.agrees own
      simpa [Agrees] using cleared
    | false => simp [Agrees]
  | drops stage running =>
    exact Timed.quiet ⟨h.attempt, h.early, h.told, h.agrees⟩ (by simp) (.inr rfl)
  | dials stage running | connects stage running =>
    refine Timed.quiet (h.goesOn (by simp [stage]) (by simp) fun own => ?_) (by simp) (.inl rfl)
    have counts := h.agrees own
    rw [stage] at counts
    simpa [Agrees] using counts
  | rejected stage running => exact Timed.quiet (timed_of_ended rfl h.told) (by simp) (.inl rfl)
  | stops cancelled => exact Timed.quiet (timed_of_ended rfl h.told) (by simp) (.inl rfl)
  | waits => exact Timed.quiet h (by simp) (.inr rfl)

/-- Only the failures matter. -/
theorem Timed.congr (h : d.Timed c beats) {c' : ChannelStatus} (same : c'.failures = c.failures) :
    d.Timed c' beats :=
  ⟨h.attempt, h.early, h.told, fun own => same ▸ h.agrees own⟩

/-- The failures of a session that was replaced are not its own. -/
theorem Timed.of_replaced (h : d.Timed c beats) (replaced : .replaced ∈ beats)
    (c' : ChannelStatus) : d.Timed c' beats :=
  ⟨h.attempt, h.early, h.told, fun own => absurd replaced own⟩

/-- A session is replaced. -/
theorem Timed.replace (h : d.Timed c beats) (cancelled : d.cancelled = true) (c' : ChannelStatus) :
    d.Timed c' (beats ++ [.replaced]) where
  attempt := fun going => (Beat.delays_concat_replaced beats).symm ▸ h.attempt going
  early := fun connected stage => by simpa using h.early connected stage
  told := fun _ => cancelled
  agrees := fun own => absurd (by simp) own

/-- A driver is told to stop. -/
theorem Timed.cancel (h : d.Timed c beats) (told : Bool) :
    Driver.Timed { d with cancelled := d.cancelled || told } c beats :=
  ⟨h.attempt, h.early, fun replaced => by simp [h.told replaced], h.agrees⟩

/-- A session begins. -/
theorem timed_fresh (policy : BackoffPolicy) (token : String) {connected : Bool}
    (failures : c.failures = if connected then 0 else 1) :
    (fresh policy token connected).Timed c [] where
  attempt := fun _ => rfl
  early := fun _ _ => ⟨List.not_mem_nil, List.not_mem_nil⟩
  told := fun replaced => absurd replaced List.not_mem_nil
  agrees := fun _ => failures

end Driver

end Liveboard
