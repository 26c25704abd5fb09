import Mathlib.Data.List.Induction
import Mathlib.Logic.Function.Iterate
import Liveboard.Proofs.Registry.Errand

/-!
# Calls on the registry that overlap

A crowd is a registry with any number of calls that take their steps in any order.
Between two steps of a call the others may do to the lists what they like. Still no
entry is lost and none is doubled, for a call adds its entry to a list or makes a
list of it, but never both, and only the call that has marked a registration as
ended takes its entry out.

What a step does is said in `ErrandStage.Step`; here the places of the calls are
told apart. Every fact about the entries is about where calls stand: an entry is in
a list exactly if some call has registered it and none has taken it out. This is
`Crowd.Orderly`, and it holds after every list of moves.

How often a call is overtaken (`Crowd.fits_run`), and that each of its steps brings
it nearer to its return (`Crowd.left_run`), does not depend on the entries.
`Crowd.subscriptions_run` is what all calls come to. A call that no other
interrupts does what the registry does at once (`Crowd.subscribe_alone`,
`Crowd.unsubscribe_alone`), so the steps are a refinement of that.
-/

namespace Liveboard

variable {κ : Type}

/-! ## Any number of calls -/

/-- **What can happen**: someone makes a call, or a call takes its next step. -/
inductive CrowdMove (κ : Type) where
  /-- Someone registers. -/
  | subscribe (type : String) (callback : κ)
  /-- Someone ends the registration that the call in a place has returned. -/
  | unsubscribe (place : Nat)
  /-- The call in a place takes its next step. -/
  | advance (place : Nat)

/-- What a move asks to register. -/
def CrowdMove.asked? : CrowdMove κ → Option (String × κ)
  | .subscribe type callback => some (type, callback)
  | .unsubscribe _ | .advance _ => none

/-- Whether the call in a place takes a step in a move. -/
def CrowdMove.advances (place : Nat) : CrowdMove κ → Bool
  | .advance i => i = place
  | .subscribe _ _ | .unsubscribe _ => false

/-- **A registry and the calls on it**, in the order in which they were made. -/
structure Crowd (κ : Type) where
  /-- The registry. -/
  registry : Registry κ
  /-- The calls, those that have returned included. -/
  calls : List (Errand κ)

namespace Crowd

/-- Nobody has called. -/
def start : Crowd κ := ⟨.empty, []⟩

/-- Where the call in a place stands. -/
def stage? (c : Crowd κ) (place : Nat) : Option (ErrandStage κ) :=
  c.calls[place]?.map (·.stage)

/-- **What a move does.** To end a registration takes its handle, which is not given
out before the call that registers has returned. -/
def move (c : Crowd κ) : CrowdMove κ → Crowd κ
  | .subscribe type callback => { c with calls := c.calls ++ [⟨.entering type callback, 0, 0⟩] }
  | .unsubscribe place =>
    match c.stage? place with
    | some (.registered type e) =>
      { c with calls := c.calls ++ [⟨.ending ⟨e.id, .events type⟩, 0, 0⟩] }
    | _ => c
  | .advance place =>
    match c.calls[place]? with
    | some call =>
      let (call, registry) := call.advance c.registry
      ⟨registry, c.calls.set place call⟩
    | none => c

/-- **The crowd after a list of moves.** -/
def run (c : Crowd κ) (ms : List (CrowdMove κ)) : Crowd κ :=
  ms.foldl move c

/-- What was registered, by type. -/
def registrations (c : Crowd κ) : List (String × Entry κ) :=
  c.calls.filterMap (·.stage.registered?)

/-- Whether someone has called to end a registration. -/
def isUnsubscribed (c : Crowd κ) (h : Handle) : Bool :=
  c.calls.any (·.stage.ends? = some h)

/-- **The registrations for a type that were not unsubscribed.** -/
def kept (c : Crowd κ) (type : String) : List (Entry κ) :=
  (c.registrations.filter fun g =>
    g.1 = type && !c.isUnsubscribed ⟨g.2.id, .events type⟩).map (·.2)

theorem run_append (c : Crowd κ) (ms ms' : List (CrowdMove κ)) :
    c.run (ms ++ ms') = (c.run ms).run ms' :=
  List.foldl_append

theorem run_concat (c : Crowd κ) (ms : List (CrowdMove κ)) (m : CrowdMove κ) :
    c.run (ms ++ [m]) = (c.run ms).move m :=
  List.foldl_concat ..

/-! ## Where the entries are -/

/-- **Where the entries of the calls are**, given where each call stands. -/
structure Orderly (r : Registry κ) (stage? : Nat → Option (ErrandStage κ)) : Prop where
  /-- Active registrations have numbers that were handed out. -/
  active : ∀ id, r.isActive id = true → id < r.nextId
  /-- The entries of the calls have numbers that were handed out. -/
  issued : ∀ i type e, (stage? i).bind (·.enrolled?) = some (type, e) → e.id < r.nextId
  /-- No two calls have the same number. -/
  apart : ∀ i j type type' e e', (stage? i).bind (·.enrolled?) = some (type, e) →
    (stage? j).bind (·.enrolled?) = some (type', e') → e.id = e'.id → i = j
  /-- A call ends what another one has registered and returned. -/
  given : ∀ i h, (stage? i).bind (·.ends?) = some h →
    ∃ j type e, stage? j = some (.registered type e) ∧ h = ⟨e.id, .events type⟩
  /-- What is not registered yet is active. -/
  underway : ∀ i type e, (stage? i).bind (·.enrolled?) = some (type, e) →
    stage? i = some (.registered type e) ∨ r.isActive e.id = true
  /-- What a call has marked is not. -/
  marked : ∀ i h, (stage? i).bind (·.ends?) = some h →
    stage? i = some (.ending h) ∨ r.isActive h.id = false
  /-- What is in a list was registered. -/
  listed : ∀ type, ∀ e ∈ r.entries (.events type), ∃ j, stage? j = some (.registered type e)
  /-- It is there once. -/
  once : ∀ type, ((r.entries (.events type)).map (·.id)).Nodup
  /-- What was registered and is active is in its list. -/
  stands : ∀ j type e, stage? j = some (.registered type e) →
    r.isActive e.id = true → e ∈ r.entries (.events type)
  /-- What was ended and is still in its list is taken out by some call. -/
  leaving : ∀ type, ∀ e ∈ r.entries (.events type),
    r.isActive e.id = true ∨ ∃ i, stage? i = some (.removing ⟨e.id, .events type⟩)
  /-- What is not active was ended by some call. -/
  blamed : ∀ j type e, stage? j = some (.registered type e) →
    r.isActive e.id = true ∨ ∃ i, (stage? i).bind (·.ends?) = some ⟨e.id, .events type⟩

section

variable {r r' : Registry κ} {stage? : Nat → Option (ErrandStage κ)} {i : Nat}
  {s : ErrandStage κ}

theorem entry_of_registered {j : Nat} {type : String} {e : Entry κ}
    (found : stage? j = some (.registered type e)) :
    (stage? j).bind (·.enrolled?) = some (type, e) := by
  rw [found]
  rfl

/-- Two calls that have the same number are one, so they have the same entry. -/
theorem Orderly.eq_of_id_eq (h : Orderly r stage?) {j k : Nat} {type type' : String}
    {e e' : Entry κ} (found : (stage? j).bind (·.enrolled?) = some (type, e))
    (found' : (stage? k).bind (·.enrolled?) = some (type', e')) (same : e.id = e'.id) :
    j = k ∧ type = type' ∧ e = e' := by
  obtain rfl := h.apart j k type type' e e' found found' same
  obtain ⟨rfl, rfl⟩ := Prod.mk.inj (Option.some.inj (found.symm.trans found'))
  exact ⟨rfl, rfl, rfl⟩

/-- A call that ends a registration has the handle of that registration. -/
theorem Orderly.handle_eq (h : Orderly r stage?) {g : Handle}
    (ends : (stage? i).bind (·.ends?) = some g)
    {j : Nat} {type : String} {e : Entry κ} (found : (stage? j).bind (·.enrolled?) = some (type, e))
    (same : e.id = g.id) : stage? j = some (.registered type e) ∧ g = ⟨e.id, .events type⟩ := by
  obtain ⟨k, type', e', registered, rfl⟩ := h.given i g ends
  obtain ⟨rfl, rfl, rfl⟩ := h.eq_of_id_eq found (entry_of_registered registered) same
  exact ⟨registered, rfl⟩

/-- Its number was handed out. -/
theorem Orderly.handle_lt (h : Orderly r stage?) {g : Handle}
    (ends : (stage? i).bind (·.ends?) = some g) : g.id < r.nextId := by
  obtain ⟨k, type, e, registered, rfl⟩ := h.given i g ends
  exact h.issued k type e (entry_of_registered registered)

/-- What was handed out and is not active does not become so. -/
theorem was_active (step : ErrandStage.Step r (stage? i) s r') {id : Nat} (old : id < r.nextId)
    (active : r'.isActive id = true) : r.isActive id = true := by
  refine (step.active active).resolve_right fun ⟨new, _⟩ => ?_
  omega

/-- Calls that have registered stay where they are. -/
theorem stays (step : ErrandStage.Step r (stage? i) s r') {j : Nat} {type : String} {e : Entry κ}
    (found : stage? j = some (.registered type e)) :
    Function.update stage? i (some s) j = some (.registered type e) := by
  rw [Function.update_of_ne, found]
  rintro rfl
  exact step.ne_registered type e found

/-- Entries are old, or this step gave them their number. -/
theorem held (step : ErrandStage.Step r (stage? i) s r') {j : Nat} {type : String} {e : Entry κ}
    (found : (Function.update stage? i (some s) j).bind (·.enrolled?) = some (type, e)) :
    (stage? j).bind (·.enrolled?) = some (type, e) ∨
      (j = i ∧ e.id = r.nextId ∧ r'.nextId = r.nextId + 1 ∧ r'.isActive e.id = true) := by
  by_cases same : j = i
  · subst same
    rw [Function.update_self] at found
    exact (step.entry found).imp_right fun new => ⟨rfl, new⟩
  · rw [Function.update_of_ne same] at found
    exact .inl found

/-- Only a call that ends a registration makes it inactive. -/
theorem Orderly.goes (h : Orderly r stage?) (step : ErrandStage.Step r (stage? i) s r') {j : Nat}
    {type : String} {e : Entry κ} (found : (stage? j).bind (·.enrolled?) = some (type, e))
    (active : r.isActive e.id = true) :
    r'.isActive e.id = true ∨
      (stage? j = some (.registered type e) ∧ s = .removing ⟨e.id, .events type⟩) := by
  rcases step.still_active active with still | ⟨g, before, now, same⟩
  · exact .inl still
  · have ends : (stage? i).bind (·.ends?) = some g := by
      rw [before]
      rfl
    obtain ⟨stands, rfl⟩ := h.handle_eq ends found same
    exact .inr ⟨stands, now⟩

/-- An entry that a step puts into its list is active. -/
theorem Orderly.fresh (h : Orderly r stage?) (step : ErrandStage.Step r (stage? i) s r')
    {type : String} {e : Entry κ} (found : (stage? i).bind (·.enrolled?) = some (type, e)) :
    r'.isActive e.id = true := by
  have active : r.isActive e.id = true :=
    (h.underway i type e found).resolve_left (step.ne_registered type e)
  exact (h.goes step found active).resolve_right fun back => step.ne_registered type e back.1

/-- A call that ends a registration ends one that was returned before. -/
theorem Orderly.given_step (h : Orderly r stage?) (step : ErrandStage.Step r (stage? i) s r')
    (given : stage? i = none → ∀ g, s = .ending g →
      ∃ j type e, stage? j = some (.registered type e) ∧ g = ⟨e.id, .events type⟩) {j : Nat}
    {g : Handle} (ends : (Function.update stage? i (some s) j).bind (·.ends?) = some g) :
    ∃ k type e, Function.update stage? i (some s) k = some (.registered type e) ∧
      g = ⟨e.id, .events type⟩ := by
  have origin : ∃ k type e, stage? k = some (.registered type e) ∧ g = ⟨e.id, .events type⟩ := by
    by_cases same : j = i
    · subst same
      rw [Function.update_self] at ends
      exact (step.ends ends).elim (fun new => given new.1 g new.2) (h.given j g)
    · exact h.given j g (Function.update_of_ne same (some s) stage? ▸ ends)
  obtain ⟨k, type, e, found, eq⟩ := origin
  exact ⟨k, type, e, stays step found, eq⟩

/-- What a call has marked does not become active. -/
theorem Orderly.ended_step (h : Orderly r stage?) (step : ErrandStage.Step r (stage? i) s r')
    {j : Nat} {g : Handle} (ends : (stage? j).bind (·.ends?) = some g)
    (inactive : r.isActive g.id = false) : r'.isActive g.id = false := by
  refine Bool.eq_false_iff.2 fun active => ?_
  rw [was_active step (h.handle_lt ends) active] at inactive
  cases inactive

/-- A call is about to mark a registration, or it is not active. -/
theorem Orderly.marked_step (h : Orderly r stage?) (step : ErrandStage.Step r (stage? i) s r')
    {j : Nat} {g : Handle}
    (ends : (Function.update stage? i (some s) j).bind (·.ends?) = some g) :
    Function.update stage? i (some s) j = some (.ending g) ∨ r'.isActive g.id = false := by
  by_cases same : j = i
  · subst same
    rw [Function.update_self] at ends ⊢
    rcases step.marked_ended ends with before | inactive | removing
    · exact .inl (congrArg some before)
    · exact .inr inactive
    · have before : (stage? j).bind (·.ends?) = some g := by
        rw [removing]
        rfl
      refine .inr (h.ended_step step before ((h.marked j g before).resolve_left ?_))
      rw [removing]
      nofun
  · rw [Function.update_of_ne same] at ends ⊢
    exact (h.marked j g ends).imp_right (h.ended_step step ends)

/-- What is registered and active stays in its list: only what was marked before is taken
out. -/
theorem Orderly.stands_step (h : Orderly r stage?) (step : ErrandStage.Step r (stage? i) s r')
    {j : Nat} {type : String} {e : Entry κ}
    (found : Function.update stage? i (some s) j = some (.registered type e))
    (active : r'.isActive e.id = true) : e ∈ r'.entries (.events type) := by
  by_cases same : j = i
  · subst same
    rw [Function.update_self] at found
    exact (step.mem_of_registered (Option.some.inj found)).2.2
  · rw [Function.update_of_ne same] at found
    have before := was_active step (h.issued j type e (entry_of_registered found)) active
    refine (step.still_mem (h.stands j type e found before)).resolve_right ?_
    rintro ⟨g, removing, id⟩
    have ends : (stage? i).bind (·.ends?) = some g := by
      rw [removing]
      rfl
    rcases h.marked i g ends with ending | inactive
    · cases removing.symm.trans ending
    · rw [← id, before] at inactive
      cases inactive

/-- What is in a list and not active is taken out by the call that has marked it. -/
theorem Orderly.leaving_step (h : Orderly r stage?) (step : ErrandStage.Step r (stage? i) s r')
    {type : String} {e : Entry κ} (mem : e ∈ r'.entries (.events type)) :
    r'.isActive e.id = true ∨
      ∃ k, Function.update stage? i (some s) k = some (.removing ⟨e.id, .events type⟩) := by
  rcases step.mem_entries mem with old | ⟨-, found⟩
  · obtain ⟨j, found⟩ := h.listed type e old
    rcases h.leaving type e old with active | ⟨k, removing⟩
    · refine (h.goes step (entry_of_registered found) active).imp_right fun back => ⟨i, ?_⟩
      rw [Function.update_self, back.2]
    · refine .inr ⟨k, (Function.update_of_ne ?_ ..).trans removing⟩
      rintro rfl
      exact step.gone mem removing
  · exact .inl (h.fresh step found)

/-- What is registered and not active was ended by some call. -/
theorem Orderly.blamed_step (h : Orderly r stage?) (step : ErrandStage.Step r (stage? i) s r')
    {j : Nat} {type : String} {e : Entry κ}
    (found : Function.update stage? i (some s) j = some (.registered type e)) :
    r'.isActive e.id = true ∨
      ∃ k, (Function.update stage? i (some s) k).bind (·.ends?) = some ⟨e.id, .events type⟩ := by
  by_cases same : j = i
  · subst same
    rw [Function.update_self] at found
    exact .inl (h.fresh step (step.mem_of_registered (Option.some.inj found)).1)
  · rw [Function.update_of_ne same] at found
    rcases h.blamed j type e found with active | ⟨k, ends⟩
    · refine (h.goes step (entry_of_registered found) active).imp_right fun back => ⟨i, ?_⟩
      rw [Function.update_self, back.2]
      rfl
    · refine .inr ⟨k, ?_⟩
      by_cases other : k = i
      · subst other
        rw [Function.update_self]
        exact step.still_ends ends
      · rw [Function.update_of_ne other]
        exact ends

/-- **A step keeps the entries in order.** -/
theorem Orderly.step (h : Orderly r stage?) (step : ErrandStage.Step r (stage? i) s r')
    (given : stage? i = none → ∀ g, s = .ending g →
      ∃ j type e, stage? j = some (.registered type e) ∧ g = ⟨e.id, .events type⟩) :
    Orderly r' (Function.update stage? i (some s)) where
  active := by
    intro id active
    rcases step.active active with before | ⟨rfl, next⟩
    · exact Nat.lt_of_lt_of_le (h.active id before) step.nextId_le
    · omega
  issued := by
    intro j type e found
    rcases held step found with before | ⟨-, new, next, -⟩
    · exact Nat.lt_of_lt_of_le (h.issued j type e before) step.nextId_le
    · omega
  apart := by
    intro j k type type' e e' found found' same
    rcases held step found with before | ⟨rfl, new, -⟩ <;>
      rcases held step found' with before' | ⟨rfl, new', -⟩
    · exact h.apart j k type type' e e' before before' same
    · have := h.issued j type e before
      omega
    · have := h.issued k type' e' before'
      omega
    · rfl
  given := fun _ _ ends => h.given_step step given ends
  underway := by
    intro j type e found
    rcases held step found with before | ⟨-, -, -, active⟩
    · rcases h.underway j type e before with stands | active
      · exact .inl (stays step stands)
      · exact (h.goes step before active).symm.imp_left fun back => stays step back.1
    · exact .inr active
  marked := fun _ _ ends => h.marked_step step ends
  listed := by
    intro type e mem
    rcases step.mem_entries mem with old | ⟨new, -⟩
    · obtain ⟨j, found⟩ := h.listed type e old
      exact ⟨j, stays step found⟩
    · exact ⟨i, (Function.update_self ..).trans (congrArg some new)⟩
  once := by
    intro type
    refine step.once (h.once type) fun e found e' mem same => ?_
    obtain ⟨j, found'⟩ := h.listed type e' mem
    obtain ⟨rfl, -⟩ := h.eq_of_id_eq (entry_of_registered found') found same
    exact step.ne_registered type e' found'
  stands := fun _ _ _ found active => h.stands_step step found active
  leaving := fun _ _ mem => h.leaving_step step mem
  blamed := fun _ _ _ found => h.blamed_step step found

/-! ## A list of moves -/

variable {c : Crowd κ}

theorem stage?_concat (c : Crowd κ) (r : Registry κ) (call : Errand κ) :
    (⟨r, c.calls ++ [call]⟩ : Crowd κ).stage?
      = Function.update c.stage? c.calls.length (some call.stage) := by
  funext j
  by_cases same : j = c.calls.length
  · subst same
    simp [stage?]
  · rw [Function.update_of_ne same, stage?, stage?]
    rcases Nat.lt_or_gt_of_ne same with before | after
    · rw [List.getElem?_append_left before]
    · rw [List.getElem?_eq_none (by rw [List.length_append, List.length_singleton]; omega),
        List.getElem?_eq_none (Nat.le_of_lt after)]

theorem stage?_set (c : Crowd κ) (r : Registry κ) {place : Nat} (within : place < c.calls.length)
    (call : Errand κ) :
    (⟨r, c.calls.set place call⟩ : Crowd κ).stage?
      = Function.update c.stage? place (some call.stage) := by
  funext j
  by_cases same : j = place
  · subst same
    simp [stage?, within]
  · rw [Function.update_of_ne same, stage?, stage?, List.getElem?_set_ne (Ne.symm same)]

theorem orderly_move (h : Orderly c.registry c.stage?) (m : CrowdMove κ) :
    Orderly (c.move m).registry (c.move m).stage? := by
  have none : c.stage? c.calls.length = none := by
    rw [stage?, List.getElem?_eq_none (Nat.le_refl _)]
    rfl
  cases m with
  | subscribe type callback =>
    rw [move, stage?_concat]
    exact h.step (none ▸ .asked type callback) fun _ => nofun
  | unsubscribe place =>
    rw [move]
    split
    · rename_i type e registered
      rw [stage?_concat]
      refine h.step (none ▸ .called ⟨e.id, .events type⟩) fun _ g eq => ?_
      cases eq
      exact ⟨place, type, e, registered, rfl⟩
    · exact h
  | advance place =>
    rw [move]
    split
    · rename_i call found
      obtain ⟨within, -⟩ := List.getElem?_eq_some_iff.1 found
      have stands : c.stage? place = some call.stage := congrArg (Option.map _) found
      show Orderly (call.advance c.registry).2 (Crowd.mk (call.advance c.registry).2
        (c.calls.set place (call.advance c.registry).1)).stage?
      rw [stage?_set c _ within]
      cases returned : call.stage.hasReturned with
      | true =>
        rw [Errand.advance_of_hasReturned returned, ← stands, Function.update_eq_self]
        exact h
      | false =>
        have step := call.step_advance c.registry returned
        rw [← stands] at step
        refine h.step step fun unmade => ?_
        rw [stands] at unmade
        cases unmade
    · exact h

theorem orderly_start : Orderly (start : Crowd κ).registry start.stage? := by
  constructor <;> simp [start, stage?, Registry.empty, Registry.isActive, Registry.entries]

/-- **The entries are in order after every list of moves.** -/
theorem orderly_run (ms : List (CrowdMove κ)) :
    Orderly (start.run ms).registry (start.run ms).stage? := by
  induction ms using List.reverseRecOn with
  | nil => exact orderly_start
  | append_singleton ms m ih =>
    rw [run_concat]
    exact orderly_move ih m

end

/-! ## What all calls come to -/

section

variable {c : Crowd κ}

theorem hasList_move (c : Crowd κ) (m : CrowdMove κ) {type : String}
    (list : c.registry.hasList type = true) : (c.move m).registry.hasList type = true := by
  cases m with
  | subscribe => exact list
  | unsubscribe place =>
    rw [move]
    split <;> exact list
  | advance place =>
    rw [move]
    split
    · rename_i call _
      cases returned : call.stage.hasReturned with
      | true =>
        rw [Errand.advance_of_hasReturned returned]
        exact list
      | false => exact (call.step_advance c.registry returned).hasList list
    · exact list

theorem fits_move (h : ∀ call ∈ c.calls, call.Fits c.registry) (m : CrowdMove κ) :
    ∀ call ∈ (c.move m).calls, call.Fits (c.move m).registry := by
  have others : ∀ call ∈ c.calls, call.Fits (c.move m).registry :=
    fun call mem => (h call mem).mono fun type => c.hasList_move m
  cases m with
  | subscribe type callback =>
    intro call mem
    rcases List.mem_append.1 mem with old | new
    · exact others call old
    · obtain rfl := List.mem_singleton.1 new
      exact ⟨rfl, rfl⟩
  | unsubscribe place =>
    rw [move] at others ⊢
    split
    · intro call mem
      rcases List.mem_append.1 mem with old | new
      · exact h call old
      · obtain rfl := List.mem_singleton.1 new
        exact ⟨Nat.zero_le 1, Nat.zero_le 1⟩
    · exact h
  | advance place =>
    rw [move] at others ⊢
    split
    · rename_i call found
      rw [found] at others
      intro other mem
      rcases List.mem_or_eq_of_mem_set mem with old | rfl
      · exact others other old
      · exact Errand.fits_advance (h call (List.mem_of_getElem? found))
    · exact h

/-- **How often each call has failed** after every list of moves. -/
theorem fits_run (h : ∀ call ∈ c.calls, call.Fits c.registry) (ms : List (CrowdMove κ)) :
    ∀ call ∈ (c.run ms).calls, call.Fits (c.run ms).registry := by
  induction ms using List.reverseRecOn with
  | nil => exact h
  | append_singleton ms m ih =>
    rw [run_concat]
    exact fits_move ih m

theorem left_move (h : ∀ call ∈ c.calls, call.Fits c.registry) (m : CrowdMove κ) {place : Nat}
    {call : Errand κ} (found : c.calls[place]? = some call) :
    ∃ call', (c.move m).calls[place]? = some call' ∧
      call'.left ≤ call.left - [m].countP (·.advances place) := by
  have within : place < c.calls.length := (List.getElem?_eq_some_iff.1 found).1
  cases m with
  | subscribe =>
    exact ⟨call, (List.getElem?_append_left within).trans found, Nat.le_refl _⟩
  | unsubscribe =>
    rw [move]
    split
    · exact ⟨call, (List.getElem?_append_left within).trans found, Nat.le_refl _⟩
    · exact ⟨call, found, Nat.le_refl _⟩
  | advance i =>
    rw [move, List.countP_singleton]
    by_cases same : i = place
    · subst same
      rw [found, if_pos (by simp [CrowdMove.advances])]
      exact ⟨_, List.getElem?_set_self within,
        Errand.left_advance (h call (List.mem_of_getElem? found))⟩
    · rw [if_neg (by simpa [CrowdMove.advances] using same)]
      split
      · exact ⟨call, (List.getElem?_set_ne same).trans found, Nat.le_refl _⟩
      · exact ⟨call, found, Nat.le_refl _⟩

/-- **Every step of a call brings it nearer to its return**, whatever the others do
meanwhile. -/
theorem left_run (h : ∀ call ∈ c.calls, call.Fits c.registry) (ms : List (CrowdMove κ))
    {place : Nat} {call : Errand κ} (found : c.calls[place]? = some call) :
    ∃ call', (c.run ms).calls[place]? = some call' ∧
      call'.left ≤ call.left - ms.countP (·.advances place) := by
  induction ms using List.reverseRecOn with
  | nil => exact ⟨call, found, Nat.le_refl _⟩
  | append_singleton ms m ih =>
    obtain ⟨call', found', le⟩ := ih
    obtain ⟨call'', found'', le'⟩ := left_move (fits_run h ms) m found'
    rw [run_concat, List.countP_append]
    exact ⟨call'', found'', by omega⟩

/-- Every call that was made to register is among the calls. -/
theorem asked?_move (c : Crowd κ) (m : CrowdMove κ) :
    (c.move m).calls.filterMap (·.stage.asked?)
      = c.calls.filterMap (·.stage.asked?) ++ [m].filterMap (·.asked?) := by
  cases m with
  | subscribe => exact List.filterMap_append
  | unsubscribe place =>
    rw [move]
    split
    · exact List.filterMap_append
    · exact (List.append_nil _).symm
  | advance place =>
    rw [move]
    split
    · rename_i call found
      obtain ⟨within, here⟩ := List.getElem?_eq_some_iff.1 found
      have same : (c.calls.set place (call.advance c.registry).1).map (·.stage.asked?)
          = c.calls.map (·.stage.asked?) := by
        rw [List.map_set, Errand.asked?_advance, ← List.map_set, ← here, List.set_getElem_self]
      have values := congrArg (List.filterMap id) same
      rw [List.filterMap_map, List.filterMap_map] at values
      exact values.trans (List.append_nil _).symm
    · exact (List.append_nil _).symm

theorem asked?_run (c : Crowd κ) (ms : List (CrowdMove κ)) :
    (c.run ms).calls.filterMap (·.stage.asked?)
      = c.calls.filterMap (·.stage.asked?) ++ ms.filterMap (·.asked?) := by
  induction ms using List.reverseRecOn with
  | nil => exact (List.append_nil _).symm
  | append_singleton ms m ih =>
    rw [run_concat, asked?_move, ih, List.filterMap_append, List.append_assoc]

theorem mem_registrations {type : String} {e : Entry κ} :
    (type, e) ∈ c.registrations ↔ ∃ j, c.stage? j = some (.registered type e) := by
  have registered : ∀ s : ErrandStage κ,
      s.registered? = some (type, e) ↔ s = .registered type e := by
    intro s
    cases s <;> simp [ErrandStage.registered?]
  simp only [registrations, List.mem_filterMap, registered, stage?, Option.map_eq_some_iff]
  exact ⟨fun ⟨call, mem, stands⟩ =>
      (List.getElem?_of_mem mem).imp fun j found => ⟨call, found, stands⟩,
    fun ⟨j, call, found, stands⟩ => ⟨call, List.mem_of_getElem? found, stands⟩⟩

theorem isUnsubscribed_iff {h : Handle} :
    c.isUnsubscribed h = true ↔ ∃ i, (c.stage? i).bind (·.ends?) = some h := by
  simp only [isUnsubscribed, List.any_eq_true, decide_eq_true_iff, stage?, Option.bind_map,
    Option.bind_eq_some_iff, Function.comp]
  exact ⟨fun ⟨call, mem, ends⟩ => (List.getElem?_of_mem mem).imp fun i found => ⟨call, found, ends⟩,
    fun ⟨i, call, found, ends⟩ => ⟨call, List.mem_of_getElem? found, ends⟩⟩

theorem mem_kept {type : String} {e : Entry κ} :
    e ∈ c.kept type ↔
      (type, e) ∈ c.registrations ∧ c.isUnsubscribed ⟨e.id, .events type⟩ = false := by
  simp only [kept, List.mem_map, List.mem_filter, Bool.and_eq_true, decide_eq_true_iff,
    Bool.not_eq_true']
  constructor
  · rintro ⟨⟨_, _⟩, ⟨mem, rfl, not⟩, rfl⟩
    exact ⟨mem, not⟩
  · exact fun ⟨mem, not⟩ => ⟨(type, e), ⟨mem, rfl, not⟩, rfl⟩

/-- **No two registrations have the same number.** -/
theorem Orderly.nodup_registrations (h : Orderly c.registry c.stage?) :
    (c.registrations.map (·.2.id)).Nodup := by
  rw [registrations, List.Nodup, List.pairwise_map, List.pairwise_filterMap,
    List.pairwise_iff_getElem]
  intro i j hi hj before g found g' found' same
  have entry : ∀ {s : ErrandStage κ} {g}, s.registered? = some g → s.enrolled? = some g := by
    intro s g
    cases s <;> simp [ErrandStage.registered?, ErrandStage.enrolled?]
  have stands : ∀ (k : Nat) (hk : k < c.calls.length) {g},
      c.calls[k].stage.registered? = some g → (c.stage? k).bind (·.enrolled?) = some g := by
    intro k hk g found
    rw [stage?, List.getElem?_eq_getElem hk]
    exact entry found
  exact Nat.ne_of_lt before (h.apart i j _ _ _ _ (stands i hi found) (stands j hj found') same)

/-- **What is in the lists once all calls have returned.** -/
theorem Orderly.perm_kept (h : Orderly c.registry c.stage?)
    (returned : ∀ call ∈ c.calls, call.stage.hasReturned = true) (type : String) :
    (c.registry.entries (.events type)).Perm (c.kept type) := by
  have done : ∀ {i s}, c.stage? i = some s → s.hasReturned = true := by
    intro i s found
    obtain ⟨call, stands, rfl⟩ := Option.map_eq_some_iff.1 found
    exact returned call (List.mem_of_getElem? stands)
  have once : (c.kept type).Nodup := by
    have sub : ((c.kept type).map (·.id)).Sublist (c.registrations.map (·.2.id)) := by
      rw [kept, List.map_map]
      exact List.filter_sublist.map _
    exact (sub.nodup h.nodup_registrations).of_map
  refine (List.perm_ext_iff_of_nodup (h.once type).of_map once).2 fun e => ?_
  rw [mem_kept, mem_registrations, ← Bool.not_eq_true, isUnsubscribed_iff]
  constructor
  · intro mem
    refine ⟨h.listed type e mem, fun ⟨i, ends⟩ => ?_⟩
    -- A call that has returned has taken the entry out.
    have active : c.registry.isActive e.id = true := by
      refine (h.leaving type e mem).resolve_right fun ⟨k, removing⟩ => ?_
      cases done removing
    rcases h.marked i _ ends with ending | inactive
    · cases done ending
    · rw [active] at inactive
      cases inactive
  · rintro ⟨⟨j, found⟩, kept⟩
    exact h.stands j type e found ((h.blamed j type e found).resolve_right kept)

/-- When all calls have returned, what was asked for is what was registered. -/
theorem registrations_of_returned (returned : ∀ call ∈ c.calls, call.stage.hasReturned = true) :
    c.registrations.map (fun g => (g.1, g.2.callback)) = c.calls.filterMap (·.stage.asked?) := by
  rw [registrations, List.map_filterMap]
  refine List.filterMap_congr fun call mem => ?_
  have done := returned call mem
  cases stage : call.stage <;> rw [stage] at done
  case registered | ended => rfl
  all_goals cases done

/-- **What all calls come to**, however their steps interleave. A call finds no list at
most once, and is overtaken at most once, so it returns when it has taken four steps.
Once all calls have returned, what was asked for is registered, each under a number of
its own, and each list has the registrations that were not unsubscribed, each once, and
no others. -/
theorem subscriptions_run (ms : List (CrowdMove κ)) :
    (∀ call ∈ (start.run ms).calls, call.failedAppends ≤ 1 ∧ call.failedCreates ≤ 1) ∧
    (∀ place < (start.run ms).calls.length, ∀ ms' : List (CrowdMove κ),
      4 ≤ ms'.countP (·.advances place) →
        ((start.run (ms ++ ms')).stage? place).any (·.hasReturned) = true) ∧
    ((∀ call ∈ (start.run ms).calls, call.stage.hasReturned = true) →
      (start.run ms).registrations.map (fun g => (g.1, g.2.callback)) = ms.filterMap (·.asked?) ∧
      ((start.run ms).registrations.map (·.2.id)).Nodup ∧
      ∀ type,
        ((start.run ms).registry.entries (.events type)).Perm ((start.run ms).kept type)) := by
  have fits : ∀ call ∈ (start.run ms).calls, call.Fits (start.run ms).registry :=
    fits_run (by simp [start]) ms
  have orderly := orderly_run ms
  refine ⟨fun call mem => (fits call mem).le_one, fun place within ms' steps => ?_,
    fun returned => ⟨?_, orderly.nodup_registrations, orderly.perm_kept returned⟩⟩
  · obtain ⟨call, found, le⟩ := left_run fits ms' (List.getElem?_eq_getElem within)
    have bound := Errand.left_le (start.run ms).calls[place]
    rw [run_append, stage?, found]
    exact Errand.hasReturned_of_left (by omega)
  · rw [registrations_of_returned returned, asked?_run]
    rfl

end

/-- Two calls want to make the list of a type at once. The one that is overtaken adds its
entry to the list of the other, and keeps it when the other registration is ended. -/
def rivals : List (CrowdMove Nat) :=
  [.subscribe "a" 10, .subscribe "a" 20, .advance 0, .advance 1, .advance 0, .advance 1,
    .advance 0, .advance 1, .advance 1, .unsubscribe 0, .advance 2, .advance 2]

theorem subscriptions_run_rivals :
    (∀ call ∈ (start.run rivals).calls, call.stage.hasReturned = true) ∧
    (start.run rivals).calls.map (fun call => (call.failedAppends, call.failedCreates))
      = [(1, 0), (1, 1), (0, 0)] ∧
    ((start.run rivals).registry.entries (.events "a")).map (·.callback) = [20] ∧
    (start.run rivals).registrations.map (fun g => (g.1, g.2.callback)) = [("a", 10), ("a", 20)] ∧
    ((start.run rivals).registry.entries (.events "a")).Perm ((start.run rivals).kept "a") ∧
    ((start.run (rivals.take 2 ++ List.replicate 4 (.advance 0))).stage? 0).any
      (·.hasReturned) = true := by
  have returned : ∀ call ∈ (start.run rivals).calls, call.stage.hasReturned = true := by decide
  have within : 0 < (start.run (rivals.take 2)).calls.length := by decide
  obtain ⟨-, -, settled⟩ := subscriptions_run rivals
  obtain ⟨registered, -, kept⟩ := settled returned
  refine ⟨returned, by decide, by decide, registered, kept "a", ?_⟩
  exact (subscriptions_run (rivals.take 2)).2.1 0 within _ (by decide)

/-! ## Calls that are not interrupted -/

/-- The last call takes its steps while the others wait. -/
theorem run_alone (calls : List (Errand κ)) (call : Errand κ) (r : Registry κ) (n : Nat) :
    (Crowd.mk r (calls ++ [call])).run (List.replicate n (.advance calls.length))
      = ⟨((fun p : Errand κ × Registry κ => p.1.advance p.2)^[n] (call, r)).2,
          calls ++ [((fun p : Errand κ × Registry κ => p.1.advance p.2)^[n] (call, r)).1]⟩ := by
  induction n generalizing call r with
  | zero => rfl
  | succ n ih =>
    have first : (Crowd.mk r (calls ++ [call])).move (.advance calls.length)
        = ⟨(call.advance r).2, calls ++ [(call.advance r).1]⟩ := by
      simp [move]
    rw [List.replicate_succ, run, List.foldl_cons, first]
    exact ih _ _

/-- **A call to register that no other call interrupts** does what the registry does at
once. -/
theorem subscribe_alone (c : Crowd κ) (type : String) (callback : κ) :
    (c.run (.subscribe type callback :: List.replicate 3 (.advance c.calls.length))).registry
      = (c.registry.subscribe (.events type) callback).2 := by
  rw [run, List.foldl_cons]
  refine (congrArg registry
    (run_alone c.calls ⟨.entering type callback, 0, 0⟩ c.registry 3)).trans ?_
  show (Errand.advance (Errand.advance ⟨.appending type _, 0, 0⟩ c.registry.issue).1 _).2 = _
  rw [Registry.subscribe, Registry.insert]
  cases appended : c.registry.issue.append? type ⟨c.registry.nextId, callback⟩ with
  | some r' => simp [Errand.advance, appended]
  | none =>
    cases created : c.registry.issue.create? type ⟨c.registry.nextId, callback⟩ with
    | some r' => simp [Errand.advance, appended, created]
    | none => simp [Errand.advance, appended, created]

/-- **A call to end a registration that no other call interrupts**, likewise. -/
theorem unsubscribe_alone (c : Crowd κ) {place : Nat} {type : String} {e : Entry κ}
    (registered : c.stage? place = some (.registered type e)) :
    (c.run (.unsubscribe place :: List.replicate 2 (.advance c.calls.length))).registry
      = c.registry.unsubscribe ⟨e.id, .events type⟩ := by
  have made : c.move (.unsubscribe place)
      = ⟨c.registry, c.calls ++ [⟨.ending ⟨e.id, .events type⟩, 0, 0⟩]⟩ := by
    rw [move, registered]
  rw [run, List.foldl_cons, made]
  refine (congrArg registry (run_alone _ _ _ 2)).trans ?_
  show (Errand.advance (Errand.advance ⟨.ending _, 0, 0⟩ c.registry).1 _).2 = _
  rw [Registry.unsubscribe]
  cases active : c.registry.isActive e.id <;> simp [Errand.advance, active]

end Crowd

end Liveboard
