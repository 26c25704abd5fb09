import Liveboard.Proofs.Registry.Registrations

/-!
# Calls on the registry, step by step

To register for the events of a type takes several steps, and other calls may take
steps of theirs in between. A number is taken, then the entry is added to the list
of the type. If the type has no list, the call makes one, unless another call has
done so in the meantime; then it adds its entry after all. To end a registration
takes two steps: it is marked as ended, and its entry is taken out of its list.

Since no list is ever taken away, a call that comes too late to make one finds it.
So a call finds no list at most once, and is overtaken at most once: `Errand.Fits`
says how often it has failed, by where it stands, and `Errand.left` how many steps
it takes at most before it returns. Neither needs to know what the other calls do,
but for one thing, that lists stay.
-/

namespace Liveboard

variable {κ : Type}

/-! ## Calls -/

/-- **Where a call on the registry stands.** -/
inductive ErrandStage (κ : Type) where
  /-- It registers a callback, and takes a number next. -/
  | entering (type : String) (callback : κ)
  /-- It adds its entry to the list of the type next. -/
  | appending (type : String) (e : Entry κ)
  /-- It has found no list and makes one next. -/
  | creating (type : String) (e : Entry κ)
  /-- It has registered its entry and returned. -/
  | registered (type : String) (e : Entry κ)
  /-- It ends a registration, and marks it as ended next. -/
  | ending (h : Handle)
  /-- It takes the entry out of its list next. -/
  | removing (h : Handle)
  /-- The registration is ended, and the call has returned. -/
  | ended (h : Handle)

namespace ErrandStage

/-- The entry of a call that registers, once it has a number. -/
def enrolled? : ErrandStage κ → Option (String × Entry κ)
  | .appending type e | .creating type e | .registered type e => some (type, e)
  | .entering _ _ | .ending _ | .removing _ | .ended _ => none

/-- What a call was asked to register. -/
def asked? : ErrandStage κ → Option (String × κ)
  | .entering type callback => some (type, callback)
  | .appending type e | .creating type e | .registered type e => some (type, e.callback)
  | .ending _ | .removing _ | .ended _ => none

/-- What a call has registered. -/
def registered? : ErrandStage κ → Option (String × Entry κ)
  | .registered type e => some (type, e)
  | _ => none

/-- The handle of the registration that a call ends. -/
def ends? : ErrandStage κ → Option Handle
  | .ending h | .removing h | .ended h => some h
  | _ => none

/-- Whether a call has returned. -/
def hasReturned : ErrandStage κ → Bool
  | .registered _ _ | .ended _ => true
  | _ => false

end ErrandStage

/-- **A call on the registry**, between two of its steps. -/
structure Errand (κ : Type) where
  /-- Where it stands. -/
  stage : ErrandStage κ
  /-- How often it has found no list to add its entry to. -/
  failedAppends : Nat
  /-- How often it has found a list where it wanted to make one. -/
  failedCreates : Nat

/-- **The next step of a call**, which nothing interrupts. -/
def Errand.advance (c : Errand κ) (r : Registry κ) : Errand κ × Registry κ :=
  match c.stage with
  | .entering type callback =>
    ({ c with stage := .appending type ⟨r.nextId, callback⟩ }, r.issue)
  | .appending type e =>
    match r.append? type e with
    | some r' => ({ c with stage := .registered type e }, r')
    | none => ({ c with stage := .creating type e, failedAppends := c.failedAppends + 1 }, r)
  | .creating type e =>
    match r.create? type e with
    | some r' => ({ c with stage := .registered type e }, r')
    | none => ({ c with stage := .appending type e, failedCreates := c.failedCreates + 1 }, r)
  | .ending h =>
    if r.isActive h.id then ({ c with stage := .removing h }, r.deactivate h.id)
    else ({ c with stage := .ended h }, r)
  | .removing h => ({ c with stage := .ended h }, r.remove h)
  | .registered _ _ | .ended _ => (c, r)

/-! ## What a step does -/

namespace ErrandStage

/-- **What a call does next**, from where it stands to where it stands then, with what
becomes of the registry. A call that is only made now stood nowhere before. -/
inductive Step (r : Registry κ) : Option (ErrandStage κ) → ErrandStage κ → Registry κ → Prop where
  /-- Someone registers. -/
  | asked (type : String) (callback : κ) : Step r none (.entering type callback) r
  /-- Someone ends a registration. -/
  | called (h : Handle) : Step r none (.ending h) r
  /-- The call takes a number. -/
  | numbered (type : String) (callback : κ) :
    Step r (some (.entering type callback)) (.appending type ⟨r.nextId, callback⟩) r.issue
  /-- It adds its entry to a list. -/
  | appended {type : String} {e : Entry κ} {r' : Registry κ} (takes : r.Takes type e r') :
    Step r (some (.appending type e)) (.registered type e) r'
  /-- There is no list to add it to. -/
  | unlisted {type : String} (e : Entry κ) (missing : r.hasList type = false) :
    Step r (some (.appending type e)) (.creating type e) r
  /-- It makes a list of its entry. -/
  | created {type : String} {e : Entry κ} {r' : Registry κ} (takes : r.Takes type e r') :
    Step r (some (.creating type e)) (.registered type e) r'
  /-- Another call has made the list. -/
  | overtaken {type : String} (e : Entry κ) (made : r.hasList type = true) :
    Step r (some (.creating type e)) (.appending type e) r
  /-- It marks a registration as ended. -/
  | marked {h : Handle} (active : r.isActive h.id = true) :
    Step r (some (.ending h)) (.removing h) (r.deactivate h.id)
  /-- Another call has marked it. -/
  | late {h : Handle} (ended : r.isActive h.id = false) :
    Step r (some (.ending h)) (.ended h) r
  /-- It takes an entry out of its list. -/
  | removed (h : Handle) : Step r (some (.removing h)) (.ended h) (r.remove h)

namespace Step

variable {r r' : Registry κ} {o : Option (ErrandStage κ)} {s : ErrandStage κ}

/-- A call keeps its entry. It gets one when it takes a number, which is active then. -/
theorem entry (step : Step r o s r') {type : String} {e : Entry κ}
    (entry : s.enrolled? = some (type, e)) :
    o.bind enrolled? = some (type, e) ∨
      (e.id = r.nextId ∧ r'.nextId = r.nextId + 1 ∧ r'.isActive e.id = true) := by
  cases step with
  | asked | called | marked | late | removed => cases entry
  | numbered =>
    cases entry
    refine .inr ⟨rfl, rfl, ?_⟩
    rw [Registry.isActive_issue, beq_self_eq_true, Bool.true_or]
  | appended | unlisted | created | overtaken => exact .inl entry

/-- Numbers are only handed out. -/
theorem nextId_le (step : Step r o s r') : r.nextId ≤ r'.nextId := by
  cases step with
  | numbered => exact Nat.le_succ _
  | appended takes | created takes => exact Nat.le_of_eq takes.nextId.symm
  | removed h => exact Nat.le_of_eq (r.frame_remove h).1.symm
  | asked | called | unlisted | overtaken | marked | late => exact Nat.le_refl _

/-- A number is active when it is handed out. -/
theorem active (step : Step r o s r') {id : Nat} (active : r'.isActive id = true) :
    r.isActive id = true ∨ (id = r.nextId ∧ r'.nextId = r.nextId + 1) := by
  cases step with
  | numbered =>
    rw [Registry.isActive_issue, Bool.or_eq_true, beq_iff_eq] at active
    exact active.symm.imp_right fun new => ⟨new, rfl⟩
  | appended takes | created takes => exact .inl (takes.isActive id ▸ active)
  | marked =>
    rw [Registry.isActive_deactivate, Bool.and_eq_true] at active
    exact .inl active.1
  | removed h => exact .inl (r.isActive_remove h id ▸ active)
  | asked | called | unlisted | overtaken | late => exact .inl active

/-- It stays so until a call marks it as ended. -/
theorem still_active (step : Step r o s r') {id : Nat} (active : r.isActive id = true) :
    r'.isActive id = true ∨ ∃ h, o = some (.ending h) ∧ s = .removing h ∧ id = h.id := by
  cases step with
  | numbered =>
    rw [Registry.isActive_issue, active, Bool.or_true]
    exact .inl rfl
  | appended takes | created takes => exact .inl ((takes.isActive id).trans active)
  | @marked h _ =>
    by_cases this : id = h.id
    · exact .inr ⟨h, rfl, rfl, this⟩
    · rw [Registry.isActive_deactivate, active, bne_iff_ne.2 this]
      exact .inl rfl
  | removed h => exact .inl ((r.isActive_remove h id).trans active)
  | asked | called | unlisted | overtaken | late => exact .inl active

/-- What a call has marked is ended. -/
theorem marked_ended (step : Step r o s r') {h : Handle} (ends : s.ends? = some h) :
    s = .ending h ∨ r'.isActive h.id = false ∨ o = some (.removing h) := by
  cases step with
  | called =>
    obtain rfl := Option.some.inj ends
    exact .inl rfl
  | marked =>
    obtain rfl := Option.some.inj ends
    rw [Registry.isActive_deactivate, bne_self_eq_false, Bool.and_false]
    exact .inr (.inl rfl)
  | late ended =>
    obtain rfl := Option.some.inj ends
    exact .inr (.inl ended)
  | removed =>
    obtain rfl := Option.some.inj ends
    exact .inr (.inr rfl)
  | asked | numbered | appended | unlisted | created | overtaken => cases ends

/-- No list is ever taken away. -/
theorem hasList (step : Step r o s r') {type : String} (list : r.hasList type = true) :
    r'.hasList type = true := by
  cases step with
  | appended takes | created takes => rw [takes.hasList, list, Bool.or_true]
  | removed h => exact (r.hasList_remove h type).trans list
  | asked | called | numbered | unlisted | overtaken | marked | late => exact list

/-- **What is in the lists** was there or was put in by this step. -/
theorem mem_entries (step : Step r o s r') {type : String} {e : Entry κ}
    (mem : e ∈ r'.entries (.events type)) :
    e ∈ r.entries (.events type) ∨
      (s = .registered type e ∧ o.bind enrolled? = some (type, e)) := by
  have taken : ∀ {other : String} {e' : Entry κ}, r.Takes other e' r' →
      e ∈ r.entries (.events type) ∨ (type = other ∧ e = e') := by
    intro other e' takes
    rw [takes.entries] at mem
    split at mem
    · rename_i same
      rcases List.mem_append.1 mem with old | new
      · exact .inl old
      · exact .inr ⟨Topic.events.inj same, List.mem_singleton.1 new⟩
    · exact .inl mem
  cases step with
  | appended takes | created takes =>
    rcases taken takes with old | ⟨rfl, rfl⟩
    · exact .inl old
    · exact .inr ⟨rfl, rfl⟩
  | removed h =>
    rw [Registry.entries_remove] at mem
    split at mem
    · exact .inl (List.mem_of_mem_filter mem)
    · exact .inl mem
  | asked | called | numbered | unlisted | overtaken | marked | late => exact .inl mem

/-- **What was in the lists** is there until a call takes it out. -/
theorem still_mem (step : Step r o s r') {type : String} {e : Entry κ}
    (mem : e ∈ r.entries (.events type)) :
    e ∈ r'.entries (.events type) ∨ ∃ h, o = some (.removing h) ∧ e.id = h.id := by
  cases step with
  | appended takes | created takes =>
    rw [takes.entries]
    split
    · exact .inl (List.mem_append_left _ mem)
    · exact .inl mem
  | removed h =>
    by_cases this : e.id = h.id
    · exact .inr ⟨h, rfl, this⟩
    · rw [Registry.entries_remove]
      split
      · exact .inl (List.mem_filter.2 ⟨mem, by simpa using this⟩)
      · exact .inl mem
  | asked | called | numbered | unlisted | overtaken | marked | late => exact .inl mem

/-- A call that returns after it has registered has its entry in the list. -/
theorem mem_of_registered (step : Step r o s r') {type : String} {e : Entry κ}
    (registered : s = .registered type e) :
    o.bind enrolled? = some (type, e) ∧ o ≠ some (.registered type e) ∧
      e ∈ r'.entries (.events type) := by
  cases step with
  | appended takes | created takes =>
    cases registered
    refine ⟨rfl, nofun, ?_⟩
    rw [takes.entries, if_pos rfl]
    exact List.mem_append_right _ (List.mem_singleton_self _)
  | asked | called | numbered | unlisted | overtaken | marked | late | removed => cases registered

/-- No entry gets into a list twice, if it was not there before. -/
theorem once (step : Step r o s r') {type : String}
    (once : ((r.entries (.events type)).map (·.id)).Nodup)
    (new : ∀ e, o.bind enrolled? = some (type, e) → ∀ e' ∈ r.entries (.events type), e'.id ≠ e.id) :
    ((r'.entries (.events type)).map (·.id)).Nodup := by
  have taken : ∀ {other : String} {e : Entry κ}, r.Takes other e r' →
      o.bind enrolled? = some (other, e) → ((r'.entries (.events type)).map (·.id)).Nodup := by
    intro other e takes holds
    rw [takes.entries]
    split
    · rename_i same
      cases same
      rw [List.map_append, List.nodup_append]
      refine ⟨once, List.nodup_singleton _, fun id old id' mem => ?_⟩
      obtain ⟨e', mem', rfl⟩ := List.mem_map.1 old
      rw [List.map_singleton, List.mem_singleton] at mem
      exact mem ▸ new e holds e' mem'
    · exact once
  cases step with
  | appended takes | created takes => exact taken takes rfl
  | removed h =>
    rw [Registry.entries_remove]
    split
    · exact (List.filter_sublist.map _).nodup once
    · exact once
  | asked | called | numbered | unlisted | overtaken | marked | late => exact once

/-- What a call takes out is not in its list any more. -/
theorem gone (step : Step r o s r') {type : String} {e : Entry κ}
    (mem : e ∈ r'.entries (.events type)) : o ≠ some (.removing ⟨e.id, .events type⟩) := by
  rintro rfl
  cases step with
  | removed =>
    rw [Registry.entries_remove, if_pos rfl] at mem
    simpa using (List.mem_filter.1 mem).2

/-- What a call ends stays the same. -/
theorem ends (step : Step r o s r') {h : Handle} (ends : s.ends? = some h) :
    (o = none ∧ s = .ending h) ∨ o.bind ends? = some h := by
  cases step with
  | called =>
    obtain rfl := Option.some.inj ends
    exact .inl ⟨rfl, rfl⟩
  | marked | late | removed => exact .inr ends
  | asked | numbered | appended | unlisted | created | overtaken => cases ends

theorem still_ends (step : Step r o s r') {h : Handle} (ends : o.bind ends? = some h) :
    s.ends? = some h := by
  cases step with
  | marked | late | removed => exact ends
  | asked | called | numbered | appended | unlisted | created | overtaken => cases ends

/-- A call to register that has returned takes no step. -/
theorem ne_registered (step : Step r o s r') (type : String) (e : Entry κ) :
    o ≠ some (.registered type e) := by
  cases step <;> nofun

end Step
end ErrandStage

/-- **A call takes a step**, unless it has returned. -/
theorem Errand.step_advance (call : Errand κ) (r : Registry κ)
    (going : call.stage.hasReturned = false) :
    ErrandStage.Step r (some call.stage) (call.advance r).1.stage (call.advance r).2 := by
  obtain ⟨stage, _, _⟩ := call
  cases stage with
  | registered | ended => cases going
  | entering type callback => exact .numbered type callback
  | removing h => exact .removed h
  | appending type e =>
    cases found : r.append? type e with
    | some r' =>
      simp only [advance, found]
      exact .appended (Registry.takes_append? found)
    | none =>
      simp only [advance, found]
      exact .unlisted e (Registry.append?_eq_none_iff.1 found)
  | creating type e =>
    cases found : r.create? type e with
    | some r' =>
      simp only [advance, found]
      exact .created (Registry.takes_create? found)
    | none =>
      simp only [advance, found]
      exact .overtaken e (Registry.create?_eq_none_iff.1 found)
  | ending h =>
    cases active : r.isActive h.id with
    | true =>
      simp only [advance, active, if_true]
      exact .marked active
    | false =>
      simp only [advance, active]
      exact .late active

theorem Errand.advance_of_hasReturned {call : Errand κ} (returned : call.stage.hasReturned = true)
    (r : Registry κ) : call.advance r = (call, r) := by
  obtain ⟨stage, _, _⟩ := call
  cases stage with
  | registered | ended => rfl
  | entering | appending | creating | ending | removing => cases returned

/-! ## How often a call fails -/

namespace Errand

variable {r r' : Registry κ} {call : Errand κ}

/-- **How often a call has failed**, by where it stands. A call that was overtaken when
it wanted to make a list finds that list. -/
def Fits (r : Registry κ) (call : Errand κ) : Prop :=
  match call.stage with
  | .entering _ _ => call.failedAppends = 0 ∧ call.failedCreates = 0
  | .appending type _ =>
    (call.failedAppends = 0 ∧ call.failedCreates = 0) ∨
      (call.failedAppends = 1 ∧ call.failedCreates = 1 ∧ r.hasList type = true)
  | .creating _ _ => call.failedAppends = 1 ∧ call.failedCreates = 0
  | .registered _ _ | .ending _ | .removing _ | .ended _ =>
    call.failedAppends ≤ 1 ∧ call.failedCreates ≤ 1

/-- How many steps a call takes at most before it returns. -/
def left (call : Errand κ) : Nat :=
  match call.stage with
  | .entering _ _ => 4
  | .appending _ _ => if call.failedCreates = 0 then 3 else 1
  | .creating _ _ | .ending _ => 2
  | .removing _ => 1
  | .registered _ _ | .ended _ => 0

theorem Fits.le_one (h : call.Fits r) : call.failedAppends ≤ 1 ∧ call.failedCreates ≤ 1 := by
  unfold Fits at h
  split at h <;> omega

/-- Lists that are made by others do not disturb a call. -/
theorem Fits.mono (h : call.Fits r)
    (grows : ∀ type, r.hasList type = true → r'.hasList type = true) : call.Fits r' := by
  obtain ⟨stage, _, _⟩ := call
  cases stage with
  | appending type e => exact h.imp_right fun again => ⟨again.1, again.2.1, grows type again.2.2⟩
  | entering | creating | registered | ending | removing | ended => exact h

theorem fits_advance (h : call.Fits r) : (call.advance r).1.Fits (call.advance r).2 := by
  obtain ⟨stage, failedAppends, failedCreates⟩ := call
  cases stage with
  | entering type callback => exact .inl h
  | appending type e =>
    cases found : r.append? type e with
    | some r' =>
      simp only [advance, found]
      exact h.le_one
    | none =>
      simp only [advance, found]
      rcases h with ⟨first, first'⟩ | ⟨-, -, list⟩
      · exact ⟨congrArg (· + 1) first, first'⟩
      · rw [Registry.append?_eq_none_iff.1 found] at list
        cases list
  | creating type e =>
    cases found : r.create? type e with
    | some r' =>
      simp only [advance, found]
      exact h.le_one
    | none =>
      simp only [advance, found]
      exact .inr ⟨h.1, congrArg (· + 1) h.2, Registry.create?_eq_none_iff.1 found⟩
  | ending g =>
    simp only [advance]
    split <;> exact h
  | removing | registered | ended => exact h

/-- **A step brings a call nearer to its return.** -/
theorem left_advance (h : call.Fits r) : (call.advance r).1.left ≤ call.left - 1 := by
  obtain ⟨stage, failedAppends, failedCreates⟩ := call
  cases stage with
  | entering type callback =>
    obtain ⟨-, first⟩ := h
    show (if failedCreates = 0 then 3 else 1) ≤ 3
    exact Nat.le_of_eq (if_pos first)
  | appending type e =>
    cases found : r.append? type e with
    | some r' =>
      simp only [advance, found]
      exact Nat.zero_le _
    | none =>
      simp only [advance, found]
      rcases h with ⟨-, first⟩ | ⟨-, -, list⟩
      · show 2 ≤ (if failedCreates = 0 then 3 else 1) - 1
        rw [show failedCreates = 0 from first]
        exact Nat.le_refl 2
      · rw [Registry.append?_eq_none_iff.1 found] at list
        cases list
  | creating type e =>
    cases found : r.create? type e with
    | some r' =>
      simp only [advance, found]
      exact Nat.zero_le _
    | none =>
      simp only [advance, found]
      show (if failedCreates + 1 = 0 then 3 else 1) ≤ 1
      exact Nat.le_of_eq (if_neg (Nat.succ_ne_zero failedCreates))
  | ending g =>
    simp only [advance]
    split
    · exact Nat.le_refl 1
    · exact Nat.zero_le 1
  | removing | registered | ended => exact Nat.le_refl _

theorem hasReturned_of_left (h : call.left = 0) : call.stage.hasReturned = true := by
  obtain ⟨stage, _, _⟩ := call
  cases stage with
  | registered | ended => rfl
  | appending =>
    simp only [left] at h
    split at h <;> cases h
  | entering | creating | ending | removing => cases h

theorem left_le (call : Errand κ) : call.left ≤ 4 := by
  unfold left
  split <;> (try split) <;> omega

/-- A step does not change what a call was asked. -/
theorem asked?_advance (call : Errand κ) (r : Registry κ) :
    (call.advance r).1.stage.asked? = call.stage.asked? := by
  unfold advance
  split <;> (try split) <;> simp_all [ErrandStage.asked?]

end Errand

end Liveboard
