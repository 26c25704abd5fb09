import Mathlib.Data.List.Nodup
import Liveboard.Settings.Loose
import Liveboard.Settings.Layer

/-!
# What is left of a layer

Layers are put over each other one entry after the other, and an entry is felt wherever its
path leads. What one entry puts at a place of its own stays there as long as the later entries
spare the place. An entry spares a place if its path parts from the path to it at the name of
a member. It also does if its path leads past the place, to something inside: then what is at
the place becomes a table or a list, and so is no setting any more; but no later entry turns it
into another setting. An entry for the same place, or for a table around it, does not spare it,
and neither does one that makes a list of such a table.

So what is kept by the entries that come later is not that the value stands at its place, but
that the place bears the value or else something compound (`Json.Bears`, `Json.bears_overlay`).
Whoever finds a setting there finds the value.

From the tree that results, a record of settings takes the members that it asks for, each bent
into its kind (`Loose.get?_record`).
-/

namespace Liveboard

namespace Json

/-- A list or a table. -/
def IsCompound : Json → Prop
  | .array _ | .object _ => True
  | _ => False

/-- **The value at the end of a path** of names. -/
def at? : List String → Json → Option Json
  | [], v => some v
  | name :: names, v => (v.get? name).bind (at? names)

/-- **A place bears a value**, or a list or a table. -/
def Bears (v : Json) (names : List String) (x : Json) : Prop :=
  ∃ y, v.at? names = some y ∧ (y = x ∨ y.IsCompound)

end Json

/-- **A path that spares a place**: it parts from the path to it at a name, or leads past it. -/
def SettingPath.Spares : SettingPath → List String → Prop
  | _ :: _, [] => True
  | .member name :: path, other :: names => name ≠ other ∨ Spares path names
  | _, _ => False

namespace Json

variable {name : String} {names : List String} {x v : Json} {change : Json → Json}

/-! ## Members -/

theorem lookup_members (v : Json) (name : String) : v.members.lookup name = v.get? name := by
  cases v <;> rfl

theorem lookup_insertMember_of_ne {key : String} (other : name ≠ key) (value : Json)
    (ms : List (String × Json)) : (insertMember key value ms).lookup name = ms.lookup name := by
  have apart : (name == key) = false := beq_false_of_ne other
  induction ms with
  | nil => rw [insertMember, List.lookup_cons, apart]
  | cons m rest ih =>
    obtain ⟨k, w⟩ := m
    rw [insertMember]
    split_ifs with same before
    · subst same
      rw [List.lookup_cons, List.lookup_cons, apart]
    · rw [List.lookup_cons, apart]
    · rw [List.lookup_cons, List.lookup_cons, ih]

/-- **An object of members with keys of their own** has what the members have. -/
theorem get?_ofMembers {ms : List (String × Json)} (nodup : (ms.map Prod.fst).Nodup) :
    (ofMembers ms).get? name = ms.lookup name := by
  have placed : ∀ done : List (String × Json),
      (ms.foldl (fun done m => insertMember m.1 m.2 done) done).lookup name
        = (ms.lookup name).or (done.lookup name) := by
    induction ms with
    | nil => exact fun done => rfl
    | cons m rest ih =>
      intro done
      obtain ⟨k, w⟩ := m
      obtain ⟨new, nodup⟩ := List.nodup_cons.1 nodup
      rw [List.foldl_cons, ih nodup, List.lookup_cons]
      by_cases same : name = k
      · subst same
        have none : rest.lookup name = none := by
          refine List.lookup_eq_none_iff.2 fun m mem => bne_iff_ne.2 fun same => new ?_
          exact List.mem_map.2 ⟨m, mem, same.symm⟩
        rw [none, lookup_insertMember_self, beq_self_eq_true]
        rfl
      · rw [lookup_insertMember_of_ne same, beq_false_of_ne same]
  exact (placed []).trans (Option.or_none ..)

/-! ## One entry -/

theorem get?_changeAt_self (path : SettingPath) :
    (changeAt change (.member name :: path) v).get? name
      = some (changeAt change path ((v.get? name).getD .null)) := by
  rw [changeAt, get?, lookup_insertMember_self, lookup_members]

theorem get?_changeAt_of_ne {other : String} (ne : other ≠ name) (path : SettingPath) :
    (changeAt change (.member name :: path) v).get? other = v.get? other := by
  rw [changeAt, get?, lookup_insertMember_of_ne ne, lookup_members]

/-- **What an entry puts at its place** is there. -/
theorem at?_changeAt (change : Json → Json) (names : List String) (v : Json) :
    ∃ below, (changeAt change (names.map .member) v).at? names = some (change below) := by
  induction names generalizing v with
  | nil => exact ⟨v, rfl⟩
  | cons name names ih =>
    obtain ⟨below, there⟩ := ih ((v.get? name).getD .null)
    refine ⟨below, ?_⟩
    rw [List.map_cons, at?, get?_changeAt_self, Option.bind_some, there]

/-- **An entry that spares a place** leaves what is there, or something that is no setting. -/
theorem bears_changeAt {path : SettingPath} (spares : path.Spares names) (bears : v.Bears names x) :
    (changeAt change path v).Bears names x := by
  induction names generalizing path v with
  | nil =>
    match path with
    | .member name :: path => exact ⟨_, rfl, .inr trivial⟩
    | .item number :: path => exact ⟨_, rfl, .inr trivial⟩
  | cons name names ih =>
    match path with
    | .member other :: path =>
      obtain ⟨y, there, kind⟩ := bears
      by_cases same : other = name
      · subst same
        obtain ⟨w, member, inside⟩ := Option.bind_eq_some_iff.1 there
        obtain ⟨z, there, kind⟩ := ih (spares.resolve_left (not_not.2 rfl)) ⟨y, inside, kind⟩
        refine ⟨z, ?_, kind⟩
        rw [at?, get?_changeAt_self, member]
        exact there
      · refine ⟨y, ?_, kind⟩
        rw [at?, get?_changeAt_of_ne (Ne.symm same)]
        exact there

/-! ## Layers -/

/-- What is no object takes the place of what was there. -/
theorem merge_eq (scalar : ∀ ms, x ≠ .object ms) (below : Json) : merge x below = x := by
  cases x with
  | object ms => exact absurd rfl (scalar ms)
  | _ =>
    rw [merge]
    exact scalar

/-- **A layer whose entries spare a place.** -/
theorem bears_overlay {layer : List (String × Json)}
    (spare : ∀ entry ∈ layer, (SettingPath.ofKey entry.1).Spares names) (bears : v.Bears names x) :
    (overlay layer v).Bears names x := by
  induction layer generalizing v with
  | nil => exact bears
  | cons entry rest ih =>
    obtain ⟨first, later⟩ := List.forall_mem_cons.1 spare
    exact ih later (bears_changeAt first bears)

/-- **An entry, and what comes after it.** -/
theorem bears_overlay_append {key : String} {before after : List (String × Json)}
    (scalar : ∀ ms, x ≠ .object ms) (own : SettingPath.ofKey key = names.map .member)
    (spare : ∀ entry ∈ after, (SettingPath.ofKey entry.1).Spares names) (v : Json) :
    (overlay (before ++ (key, x) :: after) v).Bears names x := by
  obtain ⟨below, there⟩ := at?_changeAt (merge x) names (overlay before v)
  rw [overlay, List.foldl_append, List.foldl_cons]
  refine bears_overlay spare ⟨merge x below, ?_, .inl (merge_eq scalar below)⟩
  rw [← there, ← own]
  rfl

end Json

/-! ## Records -/

namespace Loose

variable {ms : List (String × Json)} {fields : List (String × Bend)} {name : String} {bend : Bend}
  {v r x : Json}

/-- The members that are picked have the names of fields, in their order. -/
theorem sublist_pick {picked : List (String × Json)} (ok : pick ms fields = some picked) :
    (picked.map Prod.fst).Sublist (fields.map Prod.fst) := by
  induction fields generalizing picked with
  | nil =>
    obtain rfl := Option.some.inj ok
    exact .slnil
  | cons field fields ih =>
    obtain ⟨key, kind⟩ := field
    rw [pick] at ok
    obtain ⟨more, rest, ok⟩ := Option.bind_eq_some_iff.1 ok
    cases found : ms.lookup key with
    | none =>
      rw [found] at ok
      obtain rfl := Option.some.inj ok
      exact (ih rest).cons _
    | some w =>
      rw [found] at ok
      obtain ⟨bent, -, ok⟩ := Option.bind_eq_some_iff.1 ok
      obtain rfl := Option.some.inj ok
      exact (ih rest).cons_cons _

/-- **A member that a field asks for** is picked, bent. -/
theorem lookup_pick {picked : List (String × Json)} (nodup : (fields.map Prod.fst).Nodup)
    (ok : pick ms fields = some picked) (field : fields.lookup name = some bend)
    (found : ms.lookup name = some x) : ∃ y, bend x = some y ∧ picked.lookup name = some y := by
  induction fields generalizing picked with
  | nil => cases field
  | cons first fields ih =>
    obtain ⟨key, kind⟩ := first
    obtain ⟨new, nodup⟩ := List.nodup_cons.1 nodup
    rw [pick] at ok
    obtain ⟨more, rest, ok⟩ := Option.bind_eq_some_iff.1 ok
    rw [List.lookup_cons] at field
    by_cases same : name = key
    · subst same
      obtain rfl : kind = bend := by simpa using field
      rw [found] at ok
      obtain ⟨y, bent, ok⟩ := Option.bind_eq_some_iff.1 ok
      obtain rfl := Option.some.inj ok
      exact ⟨y, bent, List.lookup_cons_self⟩
    · rw [beq_false_of_ne same] at field
      obtain ⟨y, bent, there⟩ := ih nodup rest field
      refine ⟨y, bent, ?_⟩
      cases other : ms.lookup key with
      | none =>
        rw [other] at ok
        obtain rfl := Option.some.inj ok
        exact there
      | some w =>
        rw [other] at ok
        obtain ⟨bent', -, ok⟩ := Option.bind_eq_some_iff.1 ok
        obtain rfl := Option.some.inj ok
        rw [List.lookup_cons, beq_false_of_ne same]
        exact there

/-- **The members that a record takes**: each that it asks for, bent into its kind. -/
theorem get?_record (nodup : (fields.map Prod.fst).Nodup) (ok : record fields v = some r)
    (field : fields.lookup name = some bend) (found : v.get? name = some x) :
    ∃ y, bend x = some y ∧ r.get? name = some y := by
  cases v with
  | object ms =>
    obtain ⟨picked, picks, rfl⟩ := Option.map_eq_some_iff.1 ok
    obtain ⟨y, bent, there⟩ := lookup_pick nodup picks field found
    refine ⟨y, bent, ?_⟩
    rw [Json.get?_ofMembers ((sublist_pick picks).nodup nodup), there]
  | _ => cases found

end Loose

end Liveboard
