import Mathlib.Data.List.Induction
import Liveboard.Proofs.Registry.Delivery

/-!
# The roster of a registry

Whether a registration is active is noted in one place, its entry stands in
another, and its owner has a handle that is good forever. A roster keeps all
registrations that were ever made beside the registry, so that the three can be
compared: after any series of deeds the list of each topic holds just those
registrations of the topic that are still active, in the order in which they
were made (`Roster.entries_run`). A registration is active from when it is made
until it is ended, by itself or with all others (`Roster.isActive_run`), and its
number is never used again. So a handle that is no longer good cannot touch what
was registered since.

`Roster.registrations_run` puts together what this means for lists, handles and
counts.
-/

namespace Liveboard

variable {κ : Type}

/-- **What can be done with a registry.** A registration is known by its place in
the order in which registrations are made. -/
inductive RegistryDeed (κ : Type) where
  /-- Someone registers. -/
  | subscribe (topic : Topic) (callback : κ)
  /-- The registration in a place is ended, whether it was before or not. -/
  | unsubscribe (place : Nat)
  /-- All registrations are ended. -/
  | clear

namespace RegistryDeed

/-- The registration that a deed makes, if it makes one. -/
def made? : RegistryDeed κ → Option (Topic × κ)
  | .subscribe topic callback => some (topic, callback)
  | .unsubscribe _ | .clear => none

/-- The registrations that are made, in their order. -/
def made (ds : List (RegistryDeed κ)) : List (Topic × κ) :=
  ds.filterMap made?

/-- Whether a deed ends the registration in a place. -/
def ends (place : Nat) : RegistryDeed κ → Bool
  | .subscribe _ _ => false
  | .unsubscribe other => other = place
  | .clear => true

/-- **A registration was ended**: once it was made, some deed has ended it. -/
def Ended (ds : List (RegistryDeed κ)) (place : Nat) : Prop :=
  ∃ before after, ds = before ++ after ∧ place < (made before).length ∧
    ∃ d ∈ after, d.ends place = true

theorem made_concat (ds : List (RegistryDeed κ)) (d : RegistryDeed κ) :
    made (ds ++ [d]) = made ds ++ d.made?.toList := by
  rw [made, List.filterMap_append, made]
  cases h : d.made? <;> simp [h]

/-- Only what was made can have been ended. -/
theorem Ended.lt {ds : List (RegistryDeed κ)} {place : Nat} (h : Ended ds place) :
    place < (made ds).length := by
  obtain ⟨before, after, rfl, old, -⟩ := h
  rw [made, List.filterMap_append, List.length_append]
  exact Nat.lt_add_right _ old

/-- A deed ends registrations that were made before. -/
theorem ended_concat {ds : List (RegistryDeed κ)} {d : RegistryDeed κ} {place : Nat} :
    Ended (ds ++ [d]) place ↔
      Ended ds place ∨ (place < (made ds).length ∧ d.ends place = true) := by
  constructor
  · rintro ⟨before, after, split, old, d', mem, ends⟩
    rcases List.eq_nil_or_concat after with rfl | ⟨after, last, rfl⟩
    · cases mem
    · rw [List.concat_eq_append, ← List.append_assoc] at split
      obtain ⟨rfl, same⟩ := List.append_inj' split rfl
      obtain rfl := List.singleton_inj.1 same
      rw [List.concat_eq_append, List.mem_append, List.mem_singleton] at mem
      rcases mem with earlier | rfl
      · exact .inl ⟨before, after, rfl, old, d', earlier, ends⟩
      · refine .inr ⟨?_, ends⟩
        rw [made, List.filterMap_append, List.length_append]
        exact Nat.lt_add_right _ old
  · rintro (⟨before, after, rfl, old, d', mem, ends⟩ | ⟨old, ends⟩)
    · exact ⟨before, after ++ [d], List.append_assoc .., old, d', List.mem_append_left _ mem, ends⟩
    · exact ⟨ds, [d], rfl, old, d, List.mem_singleton_self d, ends⟩

end RegistryDeed

/-- **A registry with all registrations that were ever made**, each with its
handle and its callback. -/
structure Roster (κ : Type) where
  /-- The registry. -/
  registry : Registry κ
  /-- The registrations, in the order in which they were made. -/
  given : List (Handle × κ)

namespace Roster

open RegistryDeed

/-- Nothing was registered yet. -/
def start : Roster κ := ⟨.empty, []⟩

/-- **What a deed does.** -/
def step (r : Roster κ) : RegistryDeed κ → Roster κ
  | .subscribe topic callback =>
    let (handle, registry) := r.registry.subscribe topic callback
    ⟨registry, r.given ++ [(handle, callback)]⟩
  | .unsubscribe place =>
    match r.given[place]? with
    | some (handle, _) => { r with registry := r.registry.unsubscribe handle }
    | none => r
  | .clear => { r with registry := r.registry.clear }

/-- **The roster after a list of deeds.** -/
def run (ds : List (RegistryDeed κ)) : Roster κ :=
  ds.foldl step start

/-- The registrations of a topic that are active, in the order in which they were
made. -/
def standing (r : Roster κ) (topic : Topic) : List (Handle × κ) :=
  r.given.filter fun g => g.1.topic = topic ∧ r.registry.isActive g.1.id = true

theorem run_concat (ds : List (RegistryDeed κ)) (d : RegistryDeed κ) :
    run (ds ++ [d]) = (run ds).step d :=
  List.foldl_concat ..

theorem step_unsubscribe_of_none {r : Roster κ} {place : Nat} (unknown : r.given[place]? = none) :
    r.step (.unsubscribe place) = r := by
  simp only [step, unknown]

theorem step_unsubscribe_of_some {r : Roster κ} {place : Nat} {g : Handle × κ}
    (found : r.given[place]? = some g) :
    r.step (.unsubscribe place) = { r with registry := r.registry.unsubscribe g.1 } := by
  simp only [step, found]

/-! ## Handles -/

/-- A deed changes the registry step by step. -/
theorem changes_step (r : Roster κ) (d : RegistryDeed κ) :
    r.registry.Changes (r.step d).registry := by
  cases d with
  | subscribe topic callback => exact .subscribe topic callback .refl
  | unsubscribe place =>
    cases found : r.given[place]? with
    | none =>
      rw [step_unsubscribe_of_none found]
      exact .refl
    | some g =>
      rw [step_unsubscribe_of_some found]
      exact .unsubscribe g.1 .refl
  | clear => exact .clear .refl

theorem changes_run (ds : List (RegistryDeed κ)) : Registry.empty.Changes (run ds).registry := by
  induction ds using List.reverseRecOn with
  | nil => exact .refl
  | append_singleton ds d ih =>
    rw [run_concat]
    exact ih.trans ((run ds).changes_step d)

/-- **Registrations are numbered in their order**, and no number is used
again. -/
theorem given_run (ds : List (RegistryDeed κ)) :
    (run ds).given = (made ds).mapIdx (fun place m => (⟨place, m.1⟩, m.2)) ∧
      (run ds).registry.nextId = (made ds).length := by
  induction ds using List.reverseRecOn with
  | nil => exact ⟨rfl, rfl⟩
  | append_singleton ds d ih =>
    obtain ⟨given, next⟩ := ih
    rw [run_concat, made_concat]
    cases d with
    | subscribe topic callback =>
      constructor
      · show (run ds).given ++ [(⟨(run ds).registry.nextId, topic⟩, callback)] = _
        rw [given, next]
        simp [made?]
      · show ((run ds).registry.subscribe topic callback).2.nextId = _
        rw [Registry.nextId_subscribe, next]
        simp [made?]
    | unsubscribe place =>
      have none : (unsubscribe place : RegistryDeed κ).made?.toList = [] := rfl
      rw [none, List.append_nil]
      cases found : (run ds).given[place]? with
      | none =>
        rw [step_unsubscribe_of_none found]
        exact ⟨given, next⟩
      | some g =>
        rw [step_unsubscribe_of_some found]
        exact ⟨given, (Registry.nextId_unsubscribe _ _).trans next⟩
    | clear =>
      have none : (clear : RegistryDeed κ).made?.toList = [] := rfl
      rw [none, List.append_nil]
      exact ⟨given, next⟩

/-- The handle of a registration has its place as its number. -/
theorem getElem?_given_run {ds : List (RegistryDeed κ)} {place : Nat} {g : Handle × κ}
    (found : (run ds).given[place]? = some g) : g.1.id = place ∧ place < (made ds).length := by
  rw [(given_run ds).1, List.getElem?_mapIdx] at found
  obtain ⟨m, known, rfl⟩ := Option.map_eq_some_iff.1 found
  exact ⟨rfl, (List.getElem?_eq_some_iff.1 known).1⟩

/-- A handle is one of a kind. -/
theorem eq_of_id_eq {ds : List (RegistryDeed κ)} {g g' : Handle × κ} (mem : g ∈ (run ds).given)
    (mem' : g' ∈ (run ds).given) (same : g.1.id = g'.1.id) : g = g' := by
  obtain ⟨place, found⟩ := List.mem_iff_getElem?.1 mem
  obtain ⟨place', found'⟩ := List.mem_iff_getElem?.1 mem'
  obtain rfl : place = place' := by
    rw [← (getElem?_given_run found).1, ← (getElem?_given_run found').1, same]
  exact Option.some.inj (found.symm.trans found')

/-! ## Who is active -/

/-- **A registration is active until it is ended.** -/
theorem isActive_run (ds : List (RegistryDeed κ)) (place : Nat) :
    (run ds).registry.isActive place = true ↔ place < (made ds).length ∧ ¬ Ended ds place := by
  induction ds using List.reverseRecOn with
  | nil =>
    exact iff_of_false (by simp [run, start, Registry.empty, Registry.isActive]) (by simp [made])
  | append_singleton ds d ih =>
    rw [run_concat, made_concat, ended_concat]
    cases d with
    | subscribe topic callback =>
      show ((run ds).registry.subscribe topic callback).2.isActive place = true ↔ _
      rw [Registry.isActive_subscribe, Bool.or_eq_true, beq_iff_eq, ih, (given_run ds).2]
      have new : ¬ Ended ds (made ds).length := fun h => absurd h.lt (Nat.lt_irrefl _)
      simp only [made?, ends, Option.toList_some, List.length_append, List.length_singleton]
      constructor
      · rintro (rfl | ⟨old, going⟩)
        · exact ⟨Nat.lt_succ_self _, by simp [new]⟩
        · exact ⟨Nat.lt_succ_of_lt old, by simp [going]⟩
      · rintro ⟨within, going⟩
        rcases Nat.lt_succ_iff_lt_or_eq.1 within with old | last
        · exact .inr ⟨old, fun ended => going (.inl ended)⟩
        · exact .inl last
    | unsubscribe other =>
      simp only [made?, ends, Option.toList_none, List.append_nil, decide_eq_true_eq]
      cases found : (run ds).given[other]? with
      | none =>
        -- There is no such registration, so nothing is ended.
        have beyond : (made ds).length ≤ other := by
          simpa [(given_run ds).1] using found
        rw [step_unsubscribe_of_none found, ih]
        constructor
        · rintro ⟨old, going⟩
          exact ⟨old, by rintro (ended | ⟨-, rfl⟩); exacts [going ended, absurd old (by omega)]⟩
        · rintro ⟨old, going⟩
          exact ⟨old, fun ended => going (.inl ended)⟩
      | some g =>
        rw [step_unsubscribe_of_some found, Registry.isActive_unsubscribe,
          (getElem?_given_run found).1, Bool.and_eq_true, ih, bne_iff_ne]
        constructor
        · rintro ⟨⟨old, going⟩, different⟩
          exact ⟨old, by rintro (ended | ⟨-, same⟩); exacts [going ended, different same.symm]⟩
        · rintro ⟨old, going⟩
          exact ⟨⟨old, fun ended => going (.inl ended)⟩, fun same => going (.inr ⟨old, same.symm⟩)⟩
    | clear =>
      show (run ds).registry.clear.isActive place = true ↔ _
      rw [Registry.isActive_clear_of_reached (changes_run ds)]
      simp only [made?, ends, Option.toList_none, List.append_nil, and_true]
      refine iff_of_false Bool.false_ne_true ?_
      rintro ⟨old, going⟩
      exact going (.inr old)

/-! ## The lists -/

/-- A new registration stands behind the others of its topic. -/
theorem standing_subscribe (ds : List (RegistryDeed κ)) (other topic : Topic) (callback : κ) :
    ((run ds).step (.subscribe other callback)).standing topic
      = (run ds).standing topic ++
        if other = topic then [(⟨(run ds).registry.nextId, other⟩, callback)] else [] := by
  have active : ∀ id, ((run ds).step (.subscribe other callback)).registry.isActive id
      = (id == (run ds).registry.nextId || (run ds).registry.isActive id) :=
    Registry.isActive_subscribe _ _ _
  -- All older registrations stay as they are.
  have old : (run ds).given.filter (fun g => g.1.topic = topic ∧
        ((run ds).step (.subscribe other callback)).registry.isActive g.1.id = true)
      = (run ds).standing topic := by
    refine List.filter_congr fun g mem => ?_
    obtain ⟨place, found⟩ := List.mem_iff_getElem?.1 mem
    obtain ⟨number, within⟩ := getElem?_given_run found
    have different : g.1.id ≠ (run ds).registry.nextId := by
      rw [number, (given_run ds).2]
      exact Nat.ne_of_lt within
    rw [active, beq_false_of_ne different, Bool.false_or]
  show ((run ds).given ++ [((⟨(run ds).registry.nextId, other⟩ : Handle), callback)]).filter _ = _
  rw [List.filter_append, old]
  by_cases here : other = topic
  · subst here
    simp [active]
  · simp [here]

/-- A registration that is ended stands no more. -/
theorem standing_unsubscribe (r : Roster κ) (h : Handle) (topic : Topic) :
    standing { r with registry := r.registry.unsubscribe h } topic
      = (r.standing topic).filter (·.1.id ≠ h.id) := by
  rw [standing, standing, List.filter_filter]
  refine List.filter_congr fun g _ => ?_
  rw [Registry.isActive_unsubscribe]
  by_cases same : g.1.id = h.id <;> simp [same]

/-- A registration that is not active, or one for another topic, does not stand. -/
theorem ne_of_mem_standing {ds : List (RegistryDeed κ)} {topic : Topic} {g g' : Handle × κ}
    (held : g ∈ (run ds).given)
    (elsewhere : ¬((run ds).registry.isActive g.1.id = true ∧ topic = g.1.topic))
    (mem : g' ∈ (run ds).standing topic) : g'.1.id ≠ g.1.id := by
  intro same
  obtain ⟨mem, stands⟩ := List.mem_filter.1 mem
  obtain ⟨here, active⟩ := of_decide_eq_true stands
  obtain rfl := eq_of_id_eq mem held same
  exact elsewhere ⟨active, here.symm⟩

/-- **The list of a topic holds the active registrations**, in the order in which
they were made. -/
theorem entries_run (ds : List (RegistryDeed κ)) (topic : Topic) :
    (run ds).registry.entries topic
      = ((run ds).standing topic).map fun g => ⟨g.1.id, g.2⟩ := by
  induction ds using List.reverseRecOn with
  | nil => cases topic <;> rfl
  | append_singleton ds d ih =>
    rw [run_concat]
    cases d with
    | subscribe other callback =>
      rw [standing_subscribe, List.map_append, ← ih]
      show ((run ds).registry.subscribe other callback).2.entries topic = _
      rw [Registry.entries_subscribe]
      by_cases here : topic = other
      · subst here
        simp
      · simp [here, Ne.symm here]
    | unsubscribe place =>
      cases found : (run ds).given[place]? with
      | none =>
        rw [step_unsubscribe_of_none found]
        exact ih
      | some g =>
        have held := List.mem_of_getElem? found
        rw [step_unsubscribe_of_some found, standing_unsubscribe, Registry.entries_unsubscribe, ih]
        split
        · rw [List.filter_map]
          rfl
        · -- The registration does not stand in this list.
          rename_i elsewhere
          refine congrArg _ (List.filter_eq_self.2 fun g' mem => ?_).symm
          exact decide_eq_true (ne_of_mem_standing held elsewhere mem)
    | clear =>
      have none : ∀ id, ((run ds).step .clear).registry.isActive id = false :=
        Registry.isActive_clear_of_reached (changes_run ds)
      show (run ds).registry.clear.entries topic = _
      rw [Registry.entries_clear, standing, List.filter_eq_nil_iff.2 fun g _ => by simp [none]]
      rfl

/-! ## Lists, handles and counts -/

/-- What stands in a list is a registration of the topic that is active. -/
theorem mem_ids_entries_iff {ds : List (RegistryDeed κ)} {topic : Topic} {g : Handle × κ}
    (mem : g ∈ (run ds).given) :
    g.1.id ∈ ((run ds).registry.entries topic).map (·.id)
      ↔ g.1.topic = topic ∧ (run ds).registry.isActive g.1.id = true := by
  rw [entries_run, List.map_map, List.mem_map]
  constructor
  · rintro ⟨g', stands, same⟩
    obtain ⟨mem', here⟩ := List.mem_filter.1 stands
    obtain rfl := eq_of_id_eq mem' mem same
    exact of_decide_eq_true here
  · exact fun here => ⟨g, List.mem_filter.2 ⟨mem, decide_eq_true here⟩, rfl⟩

/-- **How lists, handles and counts belong together.** After any series of deeds:

* every registration that was made has a handle for its topic, and no two that
  were ever made have the same number;
* a handle is active if and only if its registration was not ended;
* the list of a topic holds the active registrations of the topic, in the order
  in which they were made;
* an active handle has its entry in the list of its own topic, another handle has
  none there, and no handle has one in any other list;
* the number of entries of a topic is the number of its active handles;
* to end a registration that was ended, by itself or with all others, changes
  nothing, whatever was registered in the meantime. -/
theorem registrations_run (ds : List (RegistryDeed κ)) :
    (((run ds).given.map fun g => (g.1.topic, g.2)) = made ds ∧
      ((run ds).given.map (·.1.id)).Nodup) ∧
    (∀ (place : Nat) (g : Handle × κ), (run ds).given[place]? = some g →
      ((run ds).registry.isActive g.1.id = true ↔ ¬ Ended ds place)) ∧
    (∀ topic, (run ds).registry.entries topic
      = ((run ds).standing topic).map fun g => ⟨g.1.id, g.2⟩) ∧
    (∀ g ∈ (run ds).given,
      ((run ds).registry.isActive g.1.id = true
        ↔ g.1.id ∈ ((run ds).registry.entries g.1.topic).map (·.id)) ∧
      ∀ topic, topic ≠ g.1.topic → g.1.id ∉ ((run ds).registry.entries topic).map (·.id)) ∧
    (∀ topic, (run ds).registry.count topic
      = (run ds).given.countP fun g =>
          g.1.topic = topic ∧ (run ds).registry.isActive g.1.id = true) ∧
    ∀ (place : Nat) (g : Handle × κ), (run ds).given[place]? = some g → Ended ds place →
      (run ds).registry.unsubscribe g.1 = (run ds).registry := by
  have active : ∀ (place : Nat) (g : Handle × κ), (run ds).given[place]? = some g →
      ((run ds).registry.isActive g.1.id = true ↔ ¬ Ended ds place) := by
    intro place g found
    obtain ⟨number, within⟩ := getElem?_given_run found
    rw [number, isActive_run]
    exact and_iff_right within
  refine ⟨⟨?_, ?_⟩, active, entries_run ds, fun g mem => ⟨?_, ?_⟩, fun topic => ?_, ?_⟩
  · rw [(given_run ds).1, List.mapIdx_eq_zipIdx_map, List.map_map]
    exact List.zipIdx_map_fst 0 (made ds)
  · have numbers : (run ds).given.map (·.1.id) = List.range' 0 (made ds).length := by
      rw [(given_run ds).1, List.mapIdx_eq_zipIdx_map, List.map_map]
      exact List.zipIdx_map_snd 0 (made ds)
    rw [numbers]
    exact List.nodup_range'
  · rw [mem_ids_entries_iff mem]
    exact (and_iff_right rfl).symm
  · intro topic other stands
    exact other ((mem_ids_entries_iff mem).1 stands).1.symm
  · rw [Registry.count, entries_run, List.length_map, standing, List.countP_eq_length_filter]
  · intro place g found ended
    have gone : ¬ (run ds).registry.isActive g.1.id = true := fun going =>
      (active place g found).1 going ended
    rw [Registry.unsubscribe, if_neg gone]

/-- A registration is ended, another one for the same type is made, all are
ended, and a third one is made. -/
def renewed : List (RegistryDeed String) :=
  [.subscribe (.events "news") "first", .subscribe .states "watch", .unsubscribe 0,
    .subscribe (.events "news") "second", .clear, .subscribe (.events "news") "third"]

/-- The handles of the first two for the type end nothing any more, and the third
one stays. -/
theorem registrations_run_renewed :
    (run renewed).given[0]? = some (⟨0, .events "news"⟩, "first") ∧
      (run renewed).given[2]? = some (⟨2, .events "news"⟩, "second") ∧
      Ended renewed 0 ∧ Ended renewed 2 ∧
      (run renewed).registry.unsubscribe ⟨0, .events "news"⟩ = (run renewed).registry ∧
      (run renewed).registry.unsubscribe ⟨2, .events "news"⟩ = (run renewed).registry ∧
      (run renewed).registry.entries (.events "news") = [⟨3, "third"⟩] ∧
      (run renewed).registry.count .states = 0 := by
  have first : (run renewed).given[0]? = some (⟨0, .events "news"⟩, "first") := rfl
  have second : (run renewed).given[2]? = some (⟨2, .events "news"⟩, "second") := rfl
  have ended : Ended renewed 0 :=
    ⟨renewed.take 2, renewed.drop 2, rfl, by decide, .unsubscribe 0, by simp [renewed], rfl⟩
  have cleared : Ended renewed 2 :=
    ⟨renewed.take 4, renewed.drop 4, rfl, by decide, .clear, by simp [renewed], rfl⟩
  obtain ⟨-, -, lists, -, counts, still⟩ := registrations_run renewed
  refine ⟨first, second, ended, cleared, still 0 _ first ended, still 2 _ second cleared, ?_, ?_⟩
  · rw [lists]
    rfl
  · rw [counts]
    rfl

end Roster

end Liveboard
