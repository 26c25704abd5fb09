import Liveboard.Wire.Scalar

/-!
# What a decoded record holds

A record that was decoded from an object holds what the members of the object
say (`RecordShape.Reads.of_decode`). Every field may be set once, so nothing that was
read of a field is replaced by what comes later, and members of other names never
touch it.

`RecordShape.Reads` says of one component of a record that one field alone sets it. It
is stated of the shape, and checked field by field, so that nothing has to be known of
the object or of the other components.
-/

namespace Liveboard

namespace RecordShape

variable {ρ α : Type} {shape : RecordShape ρ} {name : String} {read : Json → Except Fault α}
  {component : ρ → α}

/-- A field is set to what is read of its value. -/
theorem exists_of_set {β : Type} {parse : Json → Except Fault β} {put : β → ρ} {v : Json}
    {record : ρ} (h : (do return put (← parse v)) = Except.ok record) :
    ∃ x, parse v = .ok x ∧ put x = record := by
  cases parsed : parse v with
  | error fault =>
    rw [parsed] at h
    cases h
  | ok x =>
    rw [parsed] at h
    exact ⟨x, rfl, Except.ok.inj h⟩

/-- **One field alone sets a component of the record**, to what is read of its
value. -/
structure Reads (shape : RecordShape ρ) (name : String) (read : Json → Except Fault α)
    (component : ρ → α) : Prop where
  /-- There is such a field. -/
  field : ∃ f, shape.field? name = some f ∧
    ∀ v r r', f.set v r = .ok r' → read v = .ok (component r')
  /-- The other fields leave the component as it is. -/
  others : ∀ f ∈ shape.fields, f.name ≠ name → ∀ v r r', f.set v r = .ok r' →
    component r' = component r

/-- The field of a name has this name. -/
theorem mem_of_field? {f : Field ρ} (h : shape.field? name = some f) :
    f ∈ shape.fields ∧ f.name = name :=
  ⟨List.mem_of_find?_eq_some h, by simpa using List.find?_some h⟩

/-- **What reading a member does**: nothing if no field has its name, and else it
sets this field, which was not set before. -/
theorem setMembers_cons {key : String} {value : Json} {rest : List (String × Json)}
    {seen : List String} {record : ρ} {result : List String × ρ}
    (h : shape.setMembers seen record ((key, value) :: rest) = .ok result) :
    (shape.field? key = none ∧ shape.setMembers seen record rest = .ok result) ∨
      ∃ f record', shape.field? key = some f ∧ seen.contains key = false ∧
        f.set value record = .ok record' ∧
        shape.setMembers (key :: seen) record' rest = .ok result := by
  rw [setMembers] at h
  cases found : shape.field? key with
  | none =>
    rw [found] at h
    exact .inl ⟨rfl, h⟩
  | some f =>
    rw [found] at h
    dsimp only at h
    split at h
    · cases h
    · rename_i new
      cases set : f.set value record with
      | error fault =>
        rw [set] at h
        cases h
      | ok record' =>
        rw [set] at h
        exact .inr ⟨f, record', rfl, by simpa using new, set, h⟩

namespace Reads

/-- A field that was set stays as it is, for it may not be set twice. -/
theorem of_seen (reads : shape.Reads name read component) {members : List (String × Json)}
    {seen seen' : List String} {record record' : ρ} (set : seen.contains name = true)
    (h : shape.setMembers seen record members = .ok (seen', record')) :
    component record' = component record := by
  induction members generalizing seen record with
  | nil =>
    obtain ⟨-, rfl⟩ : seen = seen' ∧ record = record' := by simpa [setMembers] using h
    rfl
  | cons member rest ih =>
    obtain ⟨key, value⟩ := member
    rcases setMembers_cons h with ⟨-, rest⟩ | ⟨f, record₁, found, new, sets, rest⟩
    · exact ih set rest
    · obtain ⟨mem, named⟩ := mem_of_field? found
      have other : f.name ≠ name := by
        rintro same
        rw [← named, same, set] at new
        cases new
      have still : (key :: seen).contains name = true := by
        rw [List.contains_cons, set, Bool.or_true]
      exact (ih still rest).trans (reads.others f mem other value record record₁ sets)

/-- **What is read of a member** is what the record holds. -/
theorem of_setMembers (reads : shape.Reads name read component) {members : List (String × Json)}
    {seen seen' : List String} {record record' : ρ} {value : Json}
    (member : members.lookup name = some value)
    (h : shape.setMembers seen record members = .ok (seen', record')) :
    read value = .ok (component record') := by
  induction members generalizing seen record with
  | nil => cases member
  | cons first rest ih =>
    obtain ⟨key, value'⟩ := first
    rw [List.lookup_cons] at member
    by_cases own : key = name
    · subst own
      obtain rfl : value' = value := by simpa using member
      obtain ⟨f, found, sets⟩ := reads.field
      rcases setMembers_cons h with ⟨none, -⟩ | ⟨f', record₁, found', -, set, rest⟩
      · rw [found] at none
        cases none
      · obtain rfl := Option.some.inj (found.symm.trans found')
        rw [reads.of_seen (by simp) rest]
        exact sets value' record record₁ set
    · have later : rest.lookup name = some value := by
        rwa [beq_false_of_ne (Ne.symm own)] at member
      rcases setMembers_cons h with ⟨-, rest⟩ | ⟨f, record₁, -, -, -, rest⟩
      · exact ih later rest
      · exact ih later rest

/-- **A decoded object**: the record holds what is read of its member. -/
theorem of_decode (reads : shape.Reads name read component) {v value : Json} {record : ρ}
    (member : v.get? name = some value) (h : shape.decode v = .ok record) :
    read value = .ok (component record) := by
  cases v with
  | object members =>
    rw [decode, decodeWith] at h
    cases set : shape.setMembers [] shape.blank members with
    | error fault =>
      rw [set] at h
      cases h
    | ok result =>
      obtain ⟨seen, record'⟩ := result
      rw [set] at h
      dsimp only [Except.bind, bind] at h
      split at h
      · cases h
      · obtain rfl : record' = record := by simpa using h
        exact reads.of_setMembers member set
  | _ => cases member

end Reads

end RecordShape

end Liveboard
