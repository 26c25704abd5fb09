import Mathlib.Data.List.Nodup
import Liveboard.Registry.Basic

/-!
# Registrations

Every registration has a number of its own and stands in one list, once, until
it is ended. A number that was not handed out yet is larger than all that
were, and a registration that was ended never becomes active again. So a
registration that is active at the end of a series of changes was active all
along, and stands in its list all along.

`Registry.Sound` is what every change keeps, and `Registry.Changes` are the
registries that come of a registry by changes. It is the second that most proofs
go by: it says what can become of a registry without saying what was done, so
a callback, a delivery and a whole run are changes alike.
-/

namespace Liveboard

namespace Registry

variable {κ : Type} {r r' r'' : Registry κ}

/-! ## The list of a topic -/

theorem lookup_cons_eq_ite {α β : Type} [BEq α] [LawfulBEq α] [DecidableEq α] (key other : α)
    (value : β) (pairs : List (α × β)) :
    ((key, value) :: pairs).lookup other
      = if other = key then some value else pairs.lookup other := by
  rw [List.lookup_cons]
  by_cases same : other = key
  · rw [beq_iff_eq.2 same, if_pos same]
  · rw [beq_false_of_ne same, if_neg same]

/-- When the pairs of a key are left out, the others are found as before. -/
theorem lookup_filter_ne {α β : Type} [BEq α] [LawfulBEq α] [DecidableEq α]
    (pairs : List (α × β)) (key other : α) :
    (pairs.filter (·.1 ≠ key)).lookup other = if other = key then none else pairs.lookup other := by
  induction pairs with
  | nil => simp
  | cons pair pairs ih =>
    obtain ⟨k, v⟩ := pair
    rw [List.filter_cons, lookup_cons_eq_ite]
    by_cases left : k = key
    · subst left
      rw [if_neg (by simp), ih]
      split <;> rfl
    · rw [if_pos (by simpa using left), lookup_cons_eq_ite, ih]
      by_cases same : other = k
      · rw [if_pos same, if_pos same, if_neg (same ▸ left)]
      · rw [if_neg same, if_neg same]

theorem lookup_changeList (change : List (Entry κ) → List (Entry κ)) (type other : String)
    (lists : List (String × List (Entry κ))) :
    (changeList change type lists).lookup other
      = if other = type then (lists.lookup type).map change else lists.lookup other := by
  induction lists with
  | nil => simp [changeList]
  | cons head lists ih =>
    obtain ⟨t, es⟩ := head
    have changed : changeList change type ((t, es) :: lists)
        = (t, if t = type then change es else es) :: changeList change type lists :=
      congrArg (· :: _) (apply_ite (Prod.mk t) _ _ _).symm
    rw [changed, lookup_cons_eq_ite, ih, lookup_cons_eq_ite, lookup_cons_eq_ite]
    by_cases here : t = type
    · subst here
      by_cases same : other = t <;> simp [same]
    · by_cases same : other = type
      · subst same
        simp [Ne.symm here]
      · simp [here, same]

/-! ## Into a list and out of it -/

/-- Whether there is a list for a type, empty or not. -/
def hasList (r : Registry κ) (type : String) : Bool :=
  (r.lists.lookup type).isSome

theorem append?_eq_none_iff {type : String} {e : Entry κ} :
    r.append? type e = none ↔ r.hasList type = false := by
  unfold append? hasList
  cases r.lists.lookup type <;> simp

theorem create?_eq_none_iff {type : String} {e : Entry κ} :
    r.create? type e = none ↔ r.hasList type = true := by
  unfold create? hasList
  cases r.lists.lookup type <;> simp

/-- **Both ways into a list** put the entry at its end, and leave all else as it
is. -/
structure Takes (r : Registry κ) (type : String) (e : Entry κ) (r' : Registry κ) : Prop where
  /-- No number is handed out. -/
  nextId : r'.nextId = r.nextId
  /-- No registration becomes active, and none is ended. -/
  active : r'.active = r.active
  /-- The entry is the last of its list. -/
  entries : ∀ topic, r'.entries topic
    = if topic = .events type then r.entries topic ++ [e] else r.entries topic
  /-- The type has a list, and no other type gets or loses one. -/
  hasList : ∀ other, r'.hasList other = (other = type || r.hasList other)

theorem takes_append? {type : String} {e : Entry κ} (h : r.append? type e = some r') :
    r.Takes type e r' := by
  rw [append?] at h
  cases found : r.lists.lookup type with
  | none => simp [found] at h
  | some es =>
    rw [found, Option.isSome_some, if_pos rfl] at h
    obtain rfl := Option.some.inj h
    refine ⟨rfl, rfl, fun topic => ?_, fun other => ?_⟩
    · cases topic with
      | states => rfl
      | events other =>
        simp only [entries, lookup_changeList, Topic.events.injEq]
        by_cases same : other = type
        · simp [same, found]
        · simp [same]
    · simp only [Registry.hasList, lookup_changeList]
      by_cases same : other = type
      · simp [same, found]
      · simp [same]

theorem takes_create? {type : String} {e : Entry κ} (h : r.create? type e = some r') :
    r.Takes type e r' := by
  rw [create?] at h
  cases found : r.lists.lookup type with
  | some es => simp [found] at h
  | none =>
    rw [found] at h
    obtain rfl := Option.some.inj h
    refine ⟨rfl, rfl, fun topic => ?_, fun other => ?_⟩
    · cases topic with
      | states => rfl
      | events other =>
        simp only [entries, List.lookup_append, lookup_cons_eq_ite, Topic.events.injEq]
        by_cases same : other = type
        · simp [same, found]
        · simp [same]
    · simp only [Registry.hasList, List.lookup_append, lookup_cons_eq_ite]
      by_cases same : other = type
      · simp [same]
      · simp [same]

/-- One of the two ways is always open. -/
theorem takes_insert (r : Registry κ) (type : String) (e : Entry κ) :
    r.Takes type e (r.insert (.events type) e) := by
  cases appended : r.append? type e with
  | some r' =>
    have eq : r.insert (.events type) e = r' := by simp [insert, appended]
    exact eq ▸ takes_append? appended
  | none =>
    cases created : r.create? type e with
    | some r' =>
      have eq : r.insert (.events type) e = r' := by simp [insert, appended, created]
      exact eq ▸ takes_create? created
    | none =>
      rw [append?_eq_none_iff, create?_eq_none_iff.1 created] at appended
      cases appended

/-- An entry is added at the end of the list of its topic. -/
theorem entries_insert (r : Registry κ) (topic other : Topic) (e : Entry κ) :
    (r.insert topic e).entries other
      = if other = topic then r.entries topic ++ [e] else r.entries other := by
  cases topic with
  | states => cases other <;> simp [insert, entries]
  | events type =>
    rw [(r.takes_insert type e).entries]
    split
    · rename_i same
      rw [same]
    · rfl

/-- Entries are taken out of the list of the topic of their handle. -/
theorem entries_remove (r : Registry κ) (h : Handle) (other : Topic) :
    (r.remove h).entries other
      = if other = h.topic then (r.entries other).filter (·.id ≠ h.id) else r.entries other := by
  obtain ⟨id, topic⟩ := h
  cases topic with
  | states => cases other <;> simp [remove, entries]
  | events type =>
    cases other with
    | states => rfl
    | events other =>
      simp only [remove, entries, lookup_changeList, Topic.events.injEq]
      by_cases same : other = type
      · subst same
        cases r.lists.lookup other <;> simp
      · simp [same]

/-- To take entries out takes no list away. -/
theorem hasList_remove (r : Registry κ) (h : Handle) (type : String) :
    (r.remove h).hasList type = r.hasList type := by
  obtain ⟨id, topic⟩ := h
  cases topic with
  | states => rfl
  | events other =>
    simp only [remove, hasList, lookup_changeList]
    split
    · rename_i same
      rw [same, Option.isSome_map]
    · rfl

/-- What is in the list of a topic is listed. -/
theorem isListed_of_mem {topic : Topic} {e : Entry κ} (listed : e ∈ r.entries topic) :
    r.isListed e.id = true := by
  cases topic with
  | states =>
    have here : r.listeners.any (·.id == e.id) = true :=
      List.any_eq_true.2 ⟨e, listed, by simp⟩
    simp [isListed, here]
  | events type =>
    cases found : r.lists.lookup type with
    | none => simp [entries, found] at listed
    | some es =>
      have mem : e ∈ es := by simpa [entries, found] using listed
      have entry : (type, es) ∈ r.lists := by
        obtain ⟨before, after, eq, -⟩ := List.lookup_eq_some_iff.1 found
        simp [eq]
      have here : r.lists.any (fun l => l.2.any (·.id == e.id)) = true :=
        List.any_eq_true.2 ⟨(type, es), entry, List.any_eq_true.2 ⟨e, mem, by simp⟩⟩
      simp [isListed, here]

/-! ## What a change does -/

theorem Takes.isActive {type : String} {e : Entry κ} (takes : r.Takes type e r') (id : Nat) :
    r'.isActive id = r.isActive id := by
  rw [Registry.isActive, takes.active, Registry.isActive]

/-- A number that is handed out is active. -/
theorem isActive_issue (r : Registry κ) (id : Nat) :
    r.issue.isActive id = (id == r.nextId || r.isActive id) := by
  rw [isActive, issue, List.contains_cons, isActive]

theorem isActive_deactivate (r : Registry κ) (other id : Nat) :
    (r.deactivate other).isActive id = (r.isActive id && id != other) := by
  simp only [isActive, deactivate]
  rw [Bool.eq_iff_iff]
  simp

/-- To take an entry out ends no registration. -/
theorem frame_remove (r : Registry κ) (h : Handle) :
    (r.remove h).nextId = r.nextId ∧ (r.remove h).active = r.active := by
  unfold remove
  split <;> exact ⟨rfl, rfl⟩

theorem isActive_remove (r : Registry κ) (h : Handle) (id : Nat) :
    (r.remove h).isActive id = r.isActive id := by
  rw [isActive, (r.frame_remove h).2, isActive]

/-- Adding an entry hands out no number. -/
theorem frame_insert (r : Registry κ) (topic : Topic) (e : Entry κ) :
    (r.insert topic e).nextId = r.nextId ∧ (r.insert topic e).active = r.active := by
  cases topic with
  | states => exact ⟨rfl, rfl⟩
  | events type => exact ⟨(r.takes_insert type e).nextId, (r.takes_insert type e).active⟩

theorem nextId_subscribe (r : Registry κ) (topic : Topic) (callback : κ) :
    (r.subscribe topic callback).2.nextId = r.nextId + 1 :=
  (r.issue.frame_insert _ _).1

/-- A new registration is active, with the next number. -/
theorem isActive_subscribe (r : Registry κ) (topic : Topic) (callback : κ) (id : Nat) :
    (r.subscribe topic callback).2.isActive id = (id == r.nextId || r.isActive id) := by
  rw [subscribe, isActive, (r.issue.frame_insert _ _).2]
  exact r.isActive_issue id

theorem entries_subscribe (r : Registry κ) (topic other : Topic) (callback : κ) :
    (r.subscribe topic callback).2.entries other
      = if other = topic then r.entries topic ++ [⟨r.nextId, callback⟩] else r.entries other :=
  r.issue.entries_insert _ _ _

theorem nextId_unsubscribe (r : Registry κ) (h : Handle) :
    (r.unsubscribe h).nextId = r.nextId := by
  unfold unsubscribe
  split
  · exact ((r.deactivate h.id).frame_remove h).1
  · rfl

theorem isActive_unsubscribe (r : Registry κ) (h : Handle) (id : Nat) :
    (r.unsubscribe h).isActive id = (r.isActive id && id != h.id) := by
  unfold unsubscribe
  split
  · rw [isActive_remove, isActive_deactivate]
  · rename_i ended
    by_cases same : id = h.id
    · subst same
      simpa using ended
    · simp [same]

theorem entries_unsubscribe (r : Registry κ) (h : Handle) (other : Topic) :
    (r.unsubscribe h).entries other
      = if r.isActive h.id = true ∧ other = h.topic then
          (r.entries other).filter (·.id ≠ h.id)
        else r.entries other := by
  unfold unsubscribe
  by_cases active : r.isActive h.id = true
  · rw [if_pos active, entries_remove]
    simp only [active, true_and]
    cases other <;> rfl
  · rw [if_neg active, if_neg (fun both => active both.1)]

theorem isActive_clear (r : Registry κ) (id : Nat) :
    r.clear.isActive id = (r.isActive id && !r.isListed id) := by
  simp only [isActive, clear]
  rw [Bool.eq_iff_iff]
  simp

@[simp] theorem entries_clear (r : Registry κ) (topic : Topic) : r.clear.entries topic = [] := by
  cases topic <;> rfl

/-! ## Sound registries -/

/-- **The numbers of the registrations.** -/
structure Sound (r : Registry κ) : Prop where
  /-- Active registrations were handed out. -/
  issued : ∀ id, r.isActive id = true → id < r.nextId
  /-- Registrations in the lists were handed out. -/
  listed : ∀ topic, ∀ e ∈ r.entries topic, e.id < r.nextId
  /-- A registration stands in a list once. -/
  once : ∀ topic, ((r.entries topic).map (·.id)).Nodup
  /-- It stands in one list. -/
  apart : ∀ topic other, topic ≠ other → ∀ e ∈ r.entries topic, ∀ e' ∈ r.entries other,
    e.id ≠ e'.id

theorem sound_empty : (empty : Registry κ).Sound where
  issued := by simp [empty, isActive]
  listed := by rintro ⟨⟩ e h <;> cases h
  once := by rintro ⟨⟩ <;> simp [empty, entries]
  apart := by rintro ⟨⟩ other - e h <;> cases h

/-- Lists that have only lost entries are sound. -/
theorem Sound.of_sublist (h : r.Sound) (next : r'.nextId = r.nextId)
    (active : ∀ id, r'.isActive id = true → r.isActive id = true)
    (fewer : ∀ topic, (r'.entries topic).Sublist (r.entries topic)) : r'.Sound where
  issued := fun id going => next ▸ h.issued id (active id going)
  listed := fun topic e mem => next ▸ h.listed topic e ((fewer topic).subset mem)
  once := fun topic => ((fewer topic).map _).nodup (h.once topic)
  apart := fun topic other different e mem e' mem' =>
    h.apart topic other different e ((fewer topic).subset mem) e' ((fewer other).subset mem')

theorem Sound.subscribe (h : r.Sound) (topic : Topic) (callback : κ) :
    (r.subscribe topic callback).2.Sound := by
  have entry : ∀ other, ∀ e ∈ (r.subscribe topic callback).2.entries other,
      e ∈ r.entries other ∨ (other = topic ∧ e.id = r.nextId) := by
    intro other e mem
    rw [entries_subscribe] at mem
    split at mem
    · rename_i same
      rcases List.mem_append.1 mem with old | new
      · exact .inl (same ▸ old)
      · obtain rfl := List.mem_singleton.1 new
        exact .inr ⟨same, rfl⟩
    · exact .inl mem
  constructor
  · intro id going
    rw [isActive_subscribe] at going
    rw [nextId_subscribe]
    rcases Bool.or_eq_true _ _ ▸ going with new | old
    · have new : id = r.nextId := by simpa using new
      omega
    · exact Nat.lt_succ_of_lt (h.issued id old)
  · intro other e mem
    rw [nextId_subscribe]
    rcases entry other e mem with old | ⟨-, new⟩
    · exact Nat.lt_succ_of_lt (h.listed other e old)
    · omega
  · intro other
    rw [entries_subscribe]
    split
    · rw [List.map_append, List.nodup_append]
      refine ⟨h.once topic, by simp, ?_⟩
      intro id old new mem
      obtain ⟨e, listed, rfl⟩ := List.mem_map.1 old
      have := h.listed topic e listed
      simp only [List.map_cons, List.map_nil, List.mem_singleton] at mem
      omega
    · exact h.once other
  · intro one other different e mem e' mem'
    rcases entry one e mem with old | ⟨here, new⟩ <;>
      rcases entry other e' mem' with old' | ⟨here', new'⟩
    · exact h.apart one other different e old e' old'
    · have := h.listed one e old
      omega
    · have := h.listed other e' old'
      omega
    · exact absurd (here.trans here'.symm) different

theorem Sound.unsubscribe (h : r.Sound) (handle : Handle) : (r.unsubscribe handle).Sound := by
  refine h.of_sublist (r.nextId_unsubscribe handle) (fun id going => ?_) fun topic => ?_
  · rw [isActive_unsubscribe] at going
    exact (Bool.and_eq_true _ _ ▸ going).1
  · rw [entries_unsubscribe]
    split
    · exact List.filter_sublist
    · exact List.Sublist.refl _

theorem Sound.clear (h : r.Sound) : r.clear.Sound := by
  refine h.of_sublist rfl (fun id going => ?_) fun topic => ?_
  · rw [isActive_clear] at going
    exact (Bool.and_eq_true _ _ ▸ going).1
  · rw [entries_clear]
    exact List.nil_sublist _

/-- **An entry occurs once** among all that are called on a topic. -/
theorem Sound.filter_entries (h : r.Sound) {topic : Topic} {e : Entry κ}
    (listed : e ∈ r.entries topic) (other : Topic) :
    (r.entries other).filter (·.id = e.id) = if other = topic then [e] else [] := by
  split
  · rename_i same
    subst same
    obtain ⟨before, after, split⟩ := List.append_of_mem listed
    have once := h.once other
    rw [split, List.map_append, List.map_cons, List.nodup_middle, List.nodup_cons] at once
    have others : ∀ e' ∈ before ++ after, e'.id ≠ e.id := by
      intro e' mem same
      exact once.1 (List.map_append ▸ List.mem_map.2 ⟨e', mem, same⟩)
    have none : ∀ es : List (Entry κ), (∀ e' ∈ es, e' ∈ before ++ after) →
        es.filter (·.id = e.id) = [] := by
      intro es within
      rw [List.filter_eq_nil_iff]
      exact fun e' mem => by simpa using others e' (within e' mem)
    rw [split, List.filter_append, none before fun _ => List.mem_append_left _,
      List.filter_cons_of_pos (by simp), none after fun _ => List.mem_append_right _]
    rfl
  · rename_i different
    rw [List.filter_eq_nil_iff]
    intro e' mem
    simpa using h.apart other topic different e' mem e listed

/-! ## Who is registered -/

/-- **Who is registered for a topic**, in the order of registration. -/
def registered (r : Registry κ) (topic : Topic) : List (Entry κ) :=
  (r.entries topic).filter fun entry => r.isActive entry.id

theorem registered_unsubscribe (r : Registry κ) (h : Handle) (topic : Topic) :
    (r.unsubscribe h).registered topic = (r.registered topic).filter (·.id ≠ h.id) := by
  have active : (fun entry : Entry κ => (r.unsubscribe h).isActive entry.id)
      = fun entry => r.isActive entry.id && entry.id != h.id := by
    funext entry
    rw [isActive_unsubscribe]
  rw [registered, registered, active, entries_unsubscribe]
  split
  · rw [List.filter_filter, List.filter_filter]
    refine List.filter_congr fun entry _ => ?_
    by_cases same : entry.id = h.id <;> simp [same]
  · rw [List.filter_filter]
    refine List.filter_congr fun entry _ => ?_
    by_cases same : entry.id = h.id <;> simp [same]

/-- **What is left when registrations are ended.** -/
theorem registered_unsubscribes (r : Registry κ) (hs : List Handle) (topic : Topic) :
    (hs.foldl unsubscribe r).registered topic
      = (r.registered topic).filter fun entry => hs.all fun h => entry.id ≠ h.id := by
  induction hs generalizing r with
  | nil => exact (List.filter_true _).symm
  | cons h hs ih =>
    rw [List.foldl_cons, ih, registered_unsubscribe, List.filter_filter]
    refine List.filter_congr fun entry _ => ?_
    rw [List.all_cons, Bool.and_comm]

theorem isActive_unsubscribes (r : Registry κ) (hs : List Handle) (id : Nat) :
    (hs.foldl unsubscribe r).isActive id = (r.isActive id && hs.all fun h => id ≠ h.id) := by
  induction hs generalizing r with
  | nil => exact (Bool.and_true _).symm
  | cons h hs ih =>
    rw [List.foldl_cons, ih, isActive_unsubscribe, List.all_cons, Bool.and_assoc]
    by_cases same : id = h.id
    · simp [same]
    · simp [same, bne_iff_ne.2 same]

/-! ## Series of changes -/

/-- **The registries that come of a registry by changes.** -/
inductive Changes (r : Registry κ) : Registry κ → Prop where
  /-- No change. -/
  | refl : Changes r r
  /-- Someone registers. -/
  | subscribe {r' : Registry κ} (topic : Topic) (callback : κ) (h : Changes r r') :
      Changes r (r'.subscribe topic callback).2
  /-- A registration is ended. -/
  | unsubscribe {r' : Registry κ} (handle : Handle) (h : Changes r r') :
      Changes r (r'.unsubscribe handle)
  /-- All registrations are ended. -/
  | clear {r' : Registry κ} (h : Changes r r') : Changes r r'.clear

namespace Changes

theorem trans (h : r.Changes r') (h' : r'.Changes r'') : r.Changes r'' := by
  induction h' with
  | refl => exact h
  | subscribe topic callback _ ih => exact .subscribe topic callback ih
  | unsubscribe handle _ ih => exact .unsubscribe handle ih
  | clear _ ih => exact .clear ih

theorem sound (h : r.Changes r') (sound : r.Sound) : r'.Sound := by
  induction h with
  | refl => exact sound
  | subscribe topic callback _ ih => exact ih.subscribe topic callback
  | unsubscribe handle _ ih => exact ih.unsubscribe handle
  | clear _ ih => exact ih.clear

theorem nextId_le (h : r.Changes r') : r.nextId ≤ r'.nextId := by
  induction h with
  | refl => exact Nat.le_refl _
  | clear _ ih => exact ih
  | subscribe topic callback _ ih =>
    rw [nextId_subscribe]
    exact Nat.le_succ_of_le ih
  | unsubscribe handle _ ih =>
    rw [nextId_unsubscribe]
    exact ih

/-- A registration that was ended never becomes active again. -/
theorem isActive_of_isActive (h : r.Changes r') {id : Nat} (old : id < r.nextId)
    (active : r'.isActive id = true) : r.isActive id = true := by
  induction h with
  | refl => exact active
  | @subscribe r' topic callback h ih =>
    have older : id < r'.nextId := Nat.lt_of_lt_of_le old h.nextId_le
    rw [isActive_subscribe] at active
    exact ih (by simpa [Nat.ne_of_lt older] using active)
  | unsubscribe handle _ ih =>
    rw [isActive_unsubscribe] at active
    exact ih (Bool.and_eq_true _ _ ▸ active).1
  | clear _ ih =>
    rw [isActive_clear] at active
    exact ih (Bool.and_eq_true _ _ ▸ active).1

/-- **A registration that is active in the end** stands in its list. -/
theorem mem_entries (h : r.Changes r') (sound : r.Sound) {topic : Topic} {e : Entry κ}
    (listed : e ∈ r.entries topic) (active : r'.isActive e.id = true) :
    e ∈ r'.entries topic := by
  induction h with
  | refl => exact listed
  | @subscribe r' other callback h ih =>
    have old : e.id < r'.nextId := Nat.lt_of_lt_of_le (sound.listed topic e listed) h.nextId_le
    rw [isActive_subscribe] at active
    have stands := ih (by simpa [Nat.ne_of_lt old] using active)
    rw [entries_subscribe]
    split
    · rename_i same
      exact List.mem_append_left _ (same ▸ stands)
    · exact stands
  | unsubscribe handle _ ih =>
    rw [isActive_unsubscribe] at active
    obtain ⟨before, different⟩ := Bool.and_eq_true _ _ ▸ active
    rw [entries_unsubscribe]
    split
    · exact List.mem_filter.2 ⟨ih before, by simpa using different⟩
    · exact ih before
  | clear _ ih =>
    rw [isActive_clear] at active
    obtain ⟨before, unlisted⟩ := Bool.and_eq_true _ _ ▸ active
    rw [isListed_of_mem (ih before)] at unlisted
    cases unlisted

end Changes

end Registry

end Liveboard
