import Liveboard.Proofs.Registry.Registrations
import Liveboard.Registry.Callback

/-!
# Deliveries that change the registry

A delivery goes over a copy of the list of its topic, while the callbacks that
it calls register, end registrations and deliver in turn. All that a callback
can do to the registry is a series of changes, a delivery of its own included
(`Registry.changes_deliver`). So between two turns of a delivery there is a series
of changes, whatever the callbacks do, and a registration that was ended in one
of them is not called any more: it never becomes active again
(`Registry.not_mem_of_ended`).

A delivery that is under way is one that still has a list of entries to go
over. What is shown here of any list of entries holds for all deliveries that
are under way, however deep they lie in one another.

Callbacks are functions on the state of someone who has a registry, and all that
is asked of them is that they change it step by step (`Registry.Behaved`). The
callbacks of a rehearsal are of this kind, those that deliver in turn among them
(`Rehearsal.behaved_answer`).
-/

namespace Liveboard

namespace Registry

variable {κ σ : Type} {registry : σ → Registry κ} {call : Entry κ → σ → σ}

/-! ## What was ended stays so -/

/-- Every active registration stands in a list. -/
theorem isListed_of_isActive {r : Registry κ} (reached : empty.Changes r) {id : Nat}
    (active : r.isActive id = true) : ∃ topic, ∃ e ∈ r.entries topic, e.id = id := by
  induction reached with
  | refl => simp [empty, isActive] at active
  | @subscribe r topic callback _ ih =>
    rw [isActive_subscribe, Bool.or_eq_true, beq_iff_eq] at active
    rcases active with rfl | old
    · exact ⟨topic, ⟨r.nextId, callback⟩, by simp [entries_subscribe], rfl⟩
    · obtain ⟨other, e, mem, same⟩ := ih old
      refine ⟨other, e, ?_, same⟩
      rw [entries_subscribe]
      split
      · rename_i here
        exact List.mem_append_left _ (here ▸ mem)
      · exact mem
  | @unsubscribe r handle _ ih =>
    rw [isActive_unsubscribe, Bool.and_eq_true, bne_iff_ne] at active
    obtain ⟨topic, e, mem, rfl⟩ := ih active.1
    refine ⟨topic, e, ?_, rfl⟩
    rw [entries_unsubscribe]
    split
    · exact List.mem_filter.2 ⟨mem, by simpa using active.2⟩
    · exact mem
  | @clear r _ ih =>
    rw [isActive_clear, Bool.and_eq_true, Bool.not_eq_true'] at active
    obtain ⟨topic, e, mem, rfl⟩ := ih active.1
    rw [isListed_of_mem mem] at active
    cases active.2

/-- When all registrations were ended, none is active. -/
theorem isActive_clear_of_reached {r : Registry κ} (reached : empty.Changes r) (id : Nat) :
    r.clear.isActive id = false := by
  by_contra h
  rw [Bool.not_eq_false, isActive_clear, Bool.and_eq_true, Bool.not_eq_true'] at h
  obtain ⟨topic, e, mem, rfl⟩ := isListed_of_isActive reached h.1
  rw [isListed_of_mem mem] at h
  cases h.2

/-- When a registration was ended, it is not active. -/
theorem isActive_unsubscribe_self (r : Registry κ) (h : Handle) :
    (r.unsubscribe h).isActive h.id = false := by
  rw [isActive_unsubscribe, bne_self_eq_false, Bool.and_false]

/-! ## The turns of a delivery -/

/-- The entries of a list have their turns one after the other. -/
theorem deliverTo_append (es fs : List (Entry κ)) (s : σ) :
    deliverTo registry call (es ++ fs) s
      = ((deliverTo registry call es s).1
            ++ (deliverTo registry call fs (deliverTo registry call es s).2).1,
          (deliverTo registry call fs (deliverTo registry call es s).2).2) := by
  induction es generalizing s with
  | nil => rfl
  | cons e es ih =>
    rw [List.cons_append, deliverTo, deliverTo]
    split
    · rw [ih]
      rfl
    · exact ih s

/-- **Whom a delivery calls**: some of the entries in their order, each once,
and nothing else happens. -/
theorem exists_callees (registry : σ → Registry κ) (call : Entry κ → σ → σ)
    (es : List (Entry κ)) (s : σ) :
    ∃ callees : List (Entry κ), callees.Sublist es ∧
      deliverTo registry call es s
        = (callees.map (·.id), callees.foldl (fun s e => call e s) s) := by
  induction es generalizing s with
  | nil => exact ⟨[], .slnil, rfl⟩
  | cons e es ih =>
    rw [deliverTo]
    split
    · obtain ⟨callees, fewer, called⟩ := ih (call e s)
      exact ⟨e :: callees, fewer.cons_cons e, by rw [called]; rfl⟩
    · obtain ⟨callees, fewer, called⟩ := ih s
      exact ⟨callees, fewer.cons e, called⟩

/-- An entry is called if it is active when its turn comes. -/
theorem mem_deliverTo_iff {before after : List (Entry κ)} {e : Entry κ}
    (once : ((before ++ e :: after).map (·.id)).Nodup) (s : σ) :
    e.id ∈ (deliverTo registry call (before ++ e :: after) s).1 ↔
      (registry (deliverTo registry call before s).2).isActive e.id = true := by
  rw [List.map_append, List.map_cons, List.nodup_middle, List.nodup_cons, List.mem_append] at once
  have elsewhere : ∀ es : List (Entry κ), e.id ∉ es.map (·.id) → ∀ s,
      e.id ∉ (deliverTo registry call es s).1 := by
    intro es absent s called
    obtain ⟨callees, fewer, eq⟩ := exists_callees registry call es s
    rw [eq] at called
    exact absent ((fewer.map _).subset called)
  have earlier := elsewhere before (fun mem => once.1 (.inl mem)) s
  rw [deliverTo_append, List.mem_append, or_iff_right earlier, deliverTo]
  split
  · rename_i active
    exact iff_of_true (List.mem_cons_self ..) active
  · rename_i ended
    exact iff_of_false (elsewhere after (fun mem => once.1 (.inr mem)) _) ended

/-! ## Callbacks that change the registry -/

/-- **Callbacks that change the registry step by step.** A callback may
register, end registrations, end all of them, and do nothing, as often as it
likes and depending on anything it knows. It may also deliver, since a delivery
is a series of changes (`Registry.changes_deliver`). -/
def Behaved (registry : σ → Registry κ) (call : Entry κ → σ → σ) : Prop :=
  ∀ e s, (registry s).Changes (registry (call e s))

theorem changes_deliverTo (behaved : Behaved registry call) (es : List (Entry κ)) (s : σ) :
    (registry s).Changes (registry (deliverTo registry call es s).2) := by
  induction es generalizing s with
  | nil => exact .refl
  | cons e es ih =>
    rw [deliverTo]
    split
    · exact (behaved e s).trans (ih (call e s))
    · exact ih s

/-- **A delivery is a series of changes.** -/
theorem changes_deliver (behaved : Behaved registry call) (topic : Topic) (s : σ) :
    (registry s).Changes (registry (deliver registry call topic s).2) :=
  changes_deliverTo behaved _ s

/-- **What was ended is not called any more**, by no delivery that is under way
or begins later. -/
theorem not_mem_of_ended (behaved : Behaved registry call) {r : Registry κ} {id : Nat}
    (issued : id < r.nextId) (ended : r.isActive id = false) {s : σ}
    (since : r.Changes (registry s)) (remaining : List (Entry κ)) :
    id ∉ (deliverTo registry call remaining s).1 := by
  induction remaining generalizing s with
  | nil => exact List.not_mem_nil
  | cons e remaining ih =>
    rw [deliverTo]
    split
    · rename_i active
      have other : id ≠ e.id := by
        rintro rfl
        rw [since.isActive_of_isActive issued active] at ended
        cases ended
      exact List.not_mem_cons_of_ne_of_not_mem other (ih (since.trans (behaved e s)))
    · exact ih since

/-- **Whom a delivery calls.** Suppose that the callbacks change the registry
step by step, and that the registry has come about by such changes. Then for
a delivery on any topic:

* it calls some of the entries that stand in the list when it begins, in their
  order and each at most once, and does nothing else; it yields the numbers of
  those that it has called;
* it calls an entry if and only if the entry is still active when all before
  it have had their turns;
* nobody is called who registers after the delivery has begun;
* once a registration was ended, or all registrations were, it is not called
  any more, whatever deliveries are under way or begin later. -/
theorem calls_deliver (behaved : Behaved registry call) {s : σ}
    (reached : empty.Changes (registry s)) (topic : Topic) :
    (∃ callees : List (Entry κ), callees.Sublist ((registry s).entries topic) ∧
      (callees.map (·.id)).Nodup ∧
      deliver registry call topic s
        = (callees.map (·.id), callees.foldl (fun s e => call e s) s) ∧
      ∀ before e after, (registry s).entries topic = before ++ e :: after →
        (e ∈ callees ↔
          (registry (deliverTo registry call before s).2).isActive e.id = true)) ∧
    (∀ id ∈ (deliver registry call topic s).1, id < (registry s).nextId) ∧
    ∀ r : Registry κ, empty.Changes r → ∀ id < r.nextId, ∀ s' remaining,
      (r.clear.Changes (registry s') ∨
        ∃ topic, (r.unsubscribe ⟨id, topic⟩).Changes (registry s')) →
      id ∉ (deliverTo registry call remaining s').1 := by
  have sound := reached.sound sound_empty
  have once := sound.once topic
  obtain ⟨callees, fewer, called⟩ := exists_callees registry call ((registry s).entries topic) s
  refine ⟨⟨callees, fewer, (fewer.map _).nodup once, called, ?_⟩, ?_, ?_⟩
  · intro before e after split
    rw [split] at once called fewer
    rw [← mem_deliverTo_iff once s, called]
    refine ⟨fun mem => List.mem_map_of_mem mem, fun mem => ?_⟩
    -- The numbers of the entries differ, so the one with this number is the entry itself.
    obtain ⟨e', mem', same⟩ := List.mem_map.1 mem
    have self : e ∈ before ++ e :: after := by simp
    rwa [← List.inj_on_of_nodup_map once (fewer.subset mem') self same]
  · intro id mem
    have numbers : (deliver registry call topic s).1 = callees.map (·.id) :=
      congrArg Prod.fst called
    rw [numbers] at mem
    obtain ⟨e, called, rfl⟩ := List.mem_map.1 mem
    exact sound.listed topic e (fewer.subset called)
  · rintro r reached id issued s' remaining (since | ⟨topic, since⟩)
    · have ended := isActive_clear_of_reached reached id
      exact not_mem_of_ended behaved (r := r.clear) issued ended since remaining
    · have ended := r.isActive_unsubscribe_self ⟨id, topic⟩
      have old : id < (r.unsubscribe ⟨id, topic⟩).nextId := by rwa [nextId_unsubscribe]
      exact not_mem_of_ended behaved old ended since remaining

end Registry

/-! ## Rehearsals -/

namespace Rehearsal

/-- **What a callback does** when it is called: it is noted, and takes its steps
if it still acts. `depth` bounds how deeply callbacks set each other off. -/
def answer (depth : Nat) (d : Delivery) (e : Entry Callback) (r : Rehearsal) : Rehearsal :=
  if (r.note e.callback d).1 then
    e.callback.deeds.foldl (fun r deed => (perform depth deed r).2) (r.note e.callback d).2
  else (r.note e.callback d).2

/-- An event is delivered to the callbacks of its type. -/
theorem perform_dispatch (depth : Nat) (type : String) (data : Json) {r : Rehearsal}
    (there : r.released = false) :
    perform (depth + 1) (.dispatch type data) r
      = (.number (Registry.deliver registry (answer depth (.event data)) (.events type) r).1.length,
          (Registry.deliver registry (answer depth (.event data)) (.events type) r).2) := by
  simp only [perform, withRegistry, there]
  rfl

/-- To be called changes nothing about the registry. -/
@[simp] theorem registry_note (r : Rehearsal) (c : Callback) (d : Delivery) :
    (r.note c d).2.registry = r.registry := rfl

theorem changes_withRegistry {r : Rehearsal} {deed : Rehearsal → RegistryAnswer × Rehearsal}
    (changes : r.registry.Changes (deed r).2.registry) :
    r.registry.Changes (r.withRegistry deed).2.registry := by
  unfold withRegistry
  split
  · exact .refl
  · exact changes

/-- Callbacks are behaved if all their steps are series of changes. -/
theorem behaved_of_perform {depth : Nat}
    (changes : ∀ step (r : Rehearsal), r.registry.Changes (perform depth step r).2.registry)
    (d : Delivery) : Registry.Behaved registry (answer depth d) := by
  have folded : ∀ (deeds : List RegistryStep) (r : Rehearsal),
      r.registry.Changes (deeds.foldl (fun r deed => (perform depth deed r).2) r).registry := by
    intro deeds
    induction deeds with
    | nil => exact fun r => .refl
    | cons deed deeds ih => exact fun r => (changes deed r).trans (ih (perform depth deed r).2)
  intro e r
  unfold answer
  split
  · exact folded e.callback.deeds (r.note e.callback d).2
  · exact .refl

/-- **A step with all that it sets off** is a series of changes. -/
theorem changes_perform (depth : Nat) (step : RegistryStep) (r : Rehearsal) :
    r.registry.Changes (perform depth step r).2.registry := by
  induction depth generalizing step r with
  | zero => exact .refl
  | succ depth ih =>
    cases step with
    | subscribe label topic deeds maxFires => exact changes_withRegistry (.subscribe _ _ .refl)
    | unsubscribe label =>
      simp only [perform]
      split
      · exact .unsubscribe _ .refl
      · exact .refl
    | isActive label | eventType label =>
      simp only [perform]
      split <;> exact .refl
    | dispatch type data =>
      exact changes_withRegistry (Registry.changes_deliver (behaved_of_perform ih _) _ r)
    | dispatchState state =>
      exact changes_withRegistry (Registry.changes_deliver (behaved_of_perform ih _) _ r)
    | count | summary => exact changes_withRegistry .refl
    | clear => exact changes_withRegistry (.clear .refl)
    | release => exact .refl

/-- **The callbacks of a rehearsal** change the registry step by step. -/
theorem behaved_answer (depth : Nat) (d : Delivery) :
    Registry.Behaved registry (answer depth d) :=
  behaved_of_perform (changes_perform depth) d

/-- Three callbacks for one type. The first ends its own registration and that
of the last, registers another one and delivers in turn. -/
def threeCallbacks : Rehearsal :=
  let steps : List RegistryStep := [
    .subscribe "first" (.events "news")
      [.unsubscribe "first", .unsubscribe "last", .subscribe "new" (.events "news") [] none,
        .dispatch "news" .null] none,
    .subscribe "second" (.events "news") [] none,
    .subscribe "last" (.events "news") [] none]
  steps.foldl (fun r step => (perform 1 step r).2) start

/-- The delivery calls the first two, and the delivery inside it calls the second
and the new one. -/
theorem calls_deliver_nested :
    Registry.Behaved registry (answer 3 (.event .null)) ∧
      Registry.empty.Changes threeCallbacks.registry ∧
      ((threeCallbacks.registry.entries (.events "news")).map (·.id)) = [0, 1, 2] ∧
      (∃ callees : List (Entry Callback), callees.map (·.id) = [0, 1] ∧
        callees.Sublist (threeCallbacks.registry.entries (.events "news")) ∧
        perform 4 (.dispatch "news" .null) threeCallbacks
          = (.number callees.length,
              callees.foldl (fun r e => answer 3 (.event .null) e r) threeCallbacks)) ∧
      (perform 4 (.dispatch "news" .null) threeCallbacks).2.log.map (·.1)
        = ["first", "second", "new", "second"] := by
  have behaved := behaved_answer 3 (.event .null)
  have reached : Registry.empty.Changes threeCallbacks.registry :=
    (changes_perform 1 _ start).trans ((changes_perform 1 _ _).trans (changes_perform 1 _ _))
  obtain ⟨⟨callees, fewer, -, called, -⟩, -, -⟩ :=
    Registry.calls_deliver behaved reached (.events "news")
  have numbers : (Registry.deliver registry (answer 3 (.event .null)) (.events "news")
      threeCallbacks).1 = [0, 1] := rfl
  refine ⟨behaved, reached, rfl, ⟨callees, ?_, fewer, ?_⟩, rfl⟩
  · rw [← numbers, called]
  · rw [perform_dispatch 3 "news" .null rfl, called, List.length_map]

end Rehearsal

end Liveboard
