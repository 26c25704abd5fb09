import Mathlib.Data.List.Nodup
import Liveboard.Proofs.Wire.Record

/-!
# Which values are records

The members of an object are put into a record one by one, and the first that does not
fit ends it. Which one that is depends on their order, but whether there is one does
not, as long as no field looks at what other fields were set to. Then an object is a
record exactly if each field that is there fits, and each one that must be there is
(`RecordShape.exists_decode_object_iff`). `RecordShape.Regular` is the condition, and
it is about the shape alone.

A list is read like the object that gives its items the names of the fields, in the
order of their declaration (`RecordShape.decode_array_ok_iff`).
-/

namespace Liveboard

/-- **A field can be set from a value.** -/
def Field.Takes {ρ : Type} (f : Field ρ) (v : Json) : Prop :=
  ∃ r r', f.set v r = .ok r'

namespace RecordShape

variable {ρ : Type} {shape : RecordShape ρ} {seen seen' : List String} {record record' : ρ}

/-- **What is read can be put in.** -/
theorem set_of_read {β : Type} {parse : Json → Except Fault β} {put : β → ρ} {v : Json} {x : β}
    (read : parse v = .ok x) : (do return put (← parse v)) = Except.ok (put x) := by
  rw [read]
  rfl

/-- A component that holds what is put in holds what was read. -/
theorem read_of_set {β : Type} {parse : Json → Except Fault β} {put : β → ρ} {component : ρ → β}
    (holds : ∀ x, component (put x) = x) {v : Json}
    (set : (do return put (← parse v)) = Except.ok record) : parse v = .ok (component record) := by
  obtain ⟨x, read, rfl⟩ := exists_of_set set
  rw [holds, read]

/-- **Fields with names of their own**, none of which looks at what others were set to. -/
structure Regular (shape : RecordShape ρ) : Prop where
  /-- The names are distinct. -/
  names : (shape.fields.map (·.name)).Nodup
  /-- Whether a field can be set does not depend on the record. -/
  uniform : ∀ f ∈ shape.fields, ∀ v, f.Takes v → ∀ r, ∃ r', f.set v r = .ok r'

theorem Regular.field?_eq (regular : shape.Regular) {f : Field ρ} (mem : f ∈ shape.fields) :
    shape.field? f.name = some f := by
  have first : ∀ fields : List (Field ρ), (fields.map (·.name)).Nodup → f ∈ fields →
      fields.find? (·.name = f.name) = some f := by
    intro fields nodup mem
    induction fields with
    | nil => cases mem
    | cons g fields ih =>
      rw [List.map_cons, List.nodup_cons] at nodup
      rcases List.mem_cons.1 mem with rfl | later
      · rw [List.find?_cons_of_pos (by simp)]
      · have other : g.name ≠ f.name := fun same =>
          nodup.1 (same ▸ List.mem_map_of_mem later)
        rw [List.find?_cons_of_neg (by simpa using other)]
        exact ih nodup.2 later
  exact first shape.fields regular.names mem

/-! ## Objects -/

/-- **A member that fits no field is passed over**, and one that does is put in. -/
theorem setMembers_cons_of_none {key : String} (none : shape.field? key = none) (v : Json)
    (rest : List (String × Json)) :
    shape.setMembers seen record ((key, v) :: rest) = shape.setMembers seen record rest := by
  rw [setMembers, none]

theorem setMembers_cons_of_some {key : String} {f : Field ρ} (found : shape.field? key = some f)
    (new : seen.contains key = false) (v : Json) (rest : List (String × Json)) :
    shape.setMembers seen record ((key, v) :: rest)
      = (f.set v record).bind fun record' => shape.setMembers (key :: seen) record' rest := by
  rw [setMembers, found]
  simp only [new]
  rfl

/-- The fields that are set in the end. -/
theorem mem_seen_of_setMembers {members : List (String × Json)}
    (h : shape.setMembers seen record members = .ok (seen', record')) (name : String) :
    name ∈ seen' ↔
      name ∈ seen ∨ (name ∈ members.map (·.1) ∧ (shape.field? name).isSome = true) := by
  induction members generalizing seen record with
  | nil =>
    obtain ⟨rfl, -⟩ : seen = seen' ∧ record = record' := by simpa [setMembers] using h
    simp
  | cons member rest ih =>
    obtain ⟨key, value⟩ := member
    rw [List.map_cons, List.mem_cons]
    rcases setMembers_cons h with ⟨none, rest⟩ | ⟨f, record₁, found, -, -, rest⟩
    · rw [ih rest]
      refine or_congr_right (and_congr_left fun some => ?_)
      rw [or_iff_right]
      rintro rfl
      rw [none] at some
      cases some
    · rw [ih rest, List.mem_cons, or_assoc, or_and_right, or_left_comm]
      refine or_congr_right (or_congr_left ?_)
      rw [iff_self_and]
      rintro rfl
      rw [found]
      rfl

/-- **Members are put in** exactly if each of them fits its field. -/
theorem exists_setMembers_iff (regular : shape.Regular) {members : List (String × Json)}
    (nodup : (members.map (·.1)).Nodup) (new : ∀ name ∈ members.map (·.1), name ∉ seen) :
    (∃ result, shape.setMembers seen record members = .ok result) ↔
      ∀ m ∈ members, ∀ f, shape.field? m.1 = some f → f.Takes m.2 := by
  induction members generalizing seen record with
  | nil => exact iff_of_true ⟨_, rfl⟩ (List.forall_mem_nil _)
  | cons member rest ih =>
    obtain ⟨key, value⟩ := member
    rw [List.map_cons, List.nodup_cons] at nodup
    rw [List.forall_mem_cons]
    have later : ∀ name ∈ rest.map (·.1), name ∉ seen := fun name mem =>
      new name (List.mem_cons_of_mem _ mem)
    cases found : shape.field? key with
    | none =>
      rw [setMembers_cons_of_none found, ih nodup.2 later]
      exact (and_iff_right fun _ no => by cases no).symm
    | some f =>
      have fresh : seen.contains key = false := by simpa using new key List.mem_cons_self
      have later' : ∀ name ∈ rest.map (·.1), name ∉ key :: seen := by
        intro name mem
        rw [List.mem_cons, not_or]
        exact ⟨fun same => nodup.1 (same ▸ mem), later name mem⟩
      rw [setMembers_cons_of_some found fresh]
      constructor
      · rintro ⟨result, ok⟩
        cases set : f.set value record with
        | error fault =>
          rw [set] at ok
          cases ok
        | ok record₁ =>
          rw [set] at ok
          refine ⟨fun g same => ?_, (ih nodup.2 later').1 ⟨result, ok⟩⟩
          obtain rfl := Option.some.inj same
          exact ⟨record, record₁, set⟩
      · rintro ⟨takes, rest⟩
        obtain ⟨record₁, set⟩ :=
          regular.uniform f (mem_of_field? found).1 value (takes f rfl) record
        rw [set]
        exact (ih nodup.2 later').2 rest

/-- What must be there was set. -/
theorem firstMissing?_eq_none_iff :
    shape.firstMissing? seen = none ↔ ∀ f ∈ shape.fields, f.required = true → f.name ∈ seen := by
  simp [firstMissing?]

theorem decode_object_ok_iff {members : List (String × Json)} :
    shape.decode (.object members) = .ok record ↔
      ∃ seen, shape.setMembers [] shape.blank members = .ok (seen, record) ∧
        shape.firstMissing? seen = none := by
  rw [decode, decodeWith]
  cases set : shape.setMembers [] shape.blank members with
  | error fault =>
    refine iff_of_false (fun no => by cases no) ?_
    rintro ⟨_, no, -⟩
    cases no
  | ok result =>
    obtain ⟨seen, record'⟩ := result
    dsimp only [bind, Except.bind]
    cases missing : shape.firstMissing? seen with
    | some name =>
      refine iff_of_false (fun no => by cases no) ?_
      rintro ⟨seen', same, none⟩
      cases same
      rw [missing] at none
      cases none
    | none =>
      constructor
      · intro ok
        cases ok
        exact ⟨seen, rfl, missing⟩
      · rintro ⟨seen', same, -⟩
        cases same
        rfl

/-- Where every key occurs once, to be found is to be a member. -/
theorem lookup_eq_some_iff_mem {members : List (String × Json)}
    (nodup : (members.map (·.1)).Nodup) {key : String} {v : Json} :
    members.lookup key = some v ↔ (key, v) ∈ members := by
  induction members with
  | nil => simp
  | cons member rest ih =>
    obtain ⟨other, w⟩ := member
    rw [List.map_cons, List.nodup_cons] at nodup
    rw [List.lookup_cons, List.mem_cons]
    by_cases same : key = other
    · subst same
      have absent : (key, v) ∉ rest := fun mem => nodup.1 (List.mem_map.2 ⟨_, mem, rfl⟩)
      rw [beq_self_eq_true, Option.some_inj, or_iff_left absent, Prod.mk.injEq, eq_self, true_and]
      exact eq_comm
    · rw [beq_false_of_ne same, or_iff_right (fun eq => same (congrArg Prod.fst eq))]
      exact ih nodup.2

/-- **Which objects are records**: each field that is there fits, and each one that must
be there is. -/
theorem exists_decode_object_iff (regular : shape.Regular) {members : List (String × Json)}
    (nodup : (members.map (·.1)).Nodup) :
    (∃ record, shape.decode (.object members) = .ok record) ↔
      ∀ f ∈ shape.fields, match members.lookup f.name with
        | some v => f.Takes v
        | none => f.required = false := by
  have putIn : (∃ result, shape.setMembers [] shape.blank members = .ok result) ↔
      ∀ m ∈ members, ∀ f, shape.field? m.1 = some f → f.Takes m.2 :=
    exists_setMembers_iff regular nodup fun _ _ => List.not_mem_nil
  constructor
  · rintro ⟨record, ok⟩ f mem
    obtain ⟨seen, set, missing⟩ := decode_object_ok_iff.1 ok
    cases found : members.lookup f.name with
    | some v =>
      exact putIn.1 ⟨_, set⟩ (f.name, v) ((lookup_eq_some_iff_mem nodup).1 found) f
        (regular.field?_eq mem)
    | none =>
      show f.required = false
      refine Bool.eq_false_iff.2 fun required => ?_
      have there := firstMissing?_eq_none_iff.1 missing f mem required
      rw [mem_seen_of_setMembers set, or_iff_right List.not_mem_nil] at there
      obtain ⟨member, inside, named⟩ := List.mem_map.1 there.1
      rw [← named, (lookup_eq_some_iff_mem nodup).2 inside] at found
      cases found
  · intro fits
    have each : ∀ m ∈ members, ∀ f, shape.field? m.1 = some f → f.Takes m.2 := by
      intro m inside f found
      obtain ⟨mem, named⟩ := mem_of_field? found
      have takes := fits f mem
      rwa [named, (lookup_eq_some_iff_mem nodup).2 inside] at takes
    obtain ⟨⟨seen, record⟩, set⟩ := putIn.2 each
    refine ⟨record, decode_object_ok_iff.2 ⟨seen, set, ?_⟩⟩
    refine firstMissing?_eq_none_iff.2 fun f mem required => ?_
    have takes := fits f mem
    rw [mem_seen_of_setMembers set, or_iff_right List.not_mem_nil, regular.field?_eq mem]
    refine ⟨?_, rfl⟩
    cases found : members.lookup f.name with
    | some v => exact List.mem_map_of_mem ((lookup_eq_some_iff_mem nodup).1 found)
    | none =>
      rw [found] at takes
      rw [required] at takes
      cases takes

/-! ## Lists -/

theorem map_fst_zip {α β : Type} (as : List α) (bs : List β) :
    (as.zip bs).map (·.1) = as.take bs.length := by
  induction as generalizing bs with
  | nil => simp
  | cons a as ih =>
    cases bs with
    | nil => rfl
    | cons b bs => exact congrArg (a :: ·) (ih bs)

/-- What is left of the fields is set from a list as from an object. -/
theorem setItems_ok_iff (regular : shape.Regular) {fields : List (Field ρ)}
    (sub : fields ⊆ shape.fields) (nodup : (fields.map (·.name)).Nodup)
    (new : ∀ f ∈ fields, f.name ∉ seen) {index : Nat} {items : List Json} :
    shape.setItems index record fields items = .ok record' ↔
      (∃ seen', shape.setMembers seen record ((fields.map (·.name)).zip items)
          = .ok (seen', record')) ∧
        ∀ f ∈ fields.drop items.length, f.required = false := by
  induction fields generalizing index record items seen with
  | nil => simp [setItems, setMembers]
  | cons f fields ih =>
    rw [List.cons_subset] at sub
    rw [List.map_cons, List.nodup_cons] at nodup
    rw [List.forall_mem_cons] at new
    cases items with
    | nil =>
      rw [setItems, List.zip_nil_right, List.length_nil, List.drop_zero, List.forall_mem_cons]
      cases required : f.required with
      | true => exact iff_of_false (fun no => by cases no) fun h => Bool.false_ne_true h.2.1.symm
      | false =>
        rw [if_neg Bool.false_ne_true, ih sub.2 nodup.2 new.2, List.zip_nil_right]
        simp
    | cons v items =>
      rw [List.map_cons, List.zip_cons_cons, List.length_cons, List.drop_succ_cons,
        setMembers_cons_of_some (regular.field?_eq sub.1) (by simpa using new.1), setItems]
      cases set : f.set v record with
      | error fault =>
        refine iff_of_false (fun no => by cases no) ?_
        rintro ⟨⟨_, no⟩, -⟩
        cases no
      | ok record₁ =>
        refine ih sub.2 nodup.2 fun g mem => ?_
        rw [List.mem_cons, not_or]
        exact ⟨fun same => nodup.1 (same ▸ List.mem_map_of_mem mem), new.2 g mem⟩

/-- **A list is read like an object** that gives its items the names of the fields. -/
theorem decode_array_ok_iff (regular : shape.Regular) {items : List Json} :
    shape.decode (.array items) = .ok record ↔
      items.length ≤ shape.fields.length ∧
        shape.decode (.object ((shape.fields.map (·.name)).zip items)) = .ok record := by
  have whole : shape.setItems 0 shape.blank shape.fields items = .ok record ↔
      (∃ seen, shape.setMembers [] shape.blank ((shape.fields.map (·.name)).zip items)
          = .ok (seen, record)) ∧
        ∀ f ∈ shape.fields.drop items.length, f.required = false :=
    setItems_ok_iff regular (List.Subset.refl _) regular.names fun _ _ => List.not_mem_nil
  have array : shape.decode (.array items) = .ok record ↔
      shape.setItems 0 shape.blank shape.fields items = .ok record ∧
        items.length ≤ shape.fields.length := by
    rw [decode, decodeWith]
    cases set : shape.setItems 0 shape.blank shape.fields items with
    | error fault =>
      refine iff_of_false (fun no => by cases no) ?_
      rintro ⟨no, -⟩
      cases no
    | ok record' =>
      show (if shape.fields.length < items.length then Except.error (Fault.tooLong items.length)
        else .ok record') = .ok record ↔ _
      by_cases excess : shape.fields.length < items.length
      · rw [if_pos excess]
        exact iff_of_false (fun no => by cases no) fun h => absurd h.2 (Nat.not_le.2 excess)
      · rw [if_neg excess]
        exact (and_iff_left (Nat.not_lt.1 excess)).symm
  rw [array, whole, decode_object_ok_iff, and_comm, ← exists_and_right]
  refine and_congr_right fun short => exists_congr fun seen => and_congr_right fun set => ?_
  have inUse : ∀ f ∈ shape.fields,
      (f.name ∈ seen ↔ f.name ∈ (shape.fields.map (·.name)).take items.length) := by
    intro f mem
    rw [mem_seen_of_setMembers set, or_iff_right List.not_mem_nil, map_fst_zip,
      regular.field?_eq mem]
    exact and_iff_left rfl
  rw [firstMissing?_eq_none_iff]
  constructor
  · intro optional f mem required
    rw [inUse f mem, ← List.map_take]
    rw [← List.take_append_drop items.length shape.fields, List.mem_append] at mem
    rcases mem with first | later
    · exact List.mem_map_of_mem first
    · rw [optional f later] at required
      cases required
  · intro missing f later
    have mem := List.mem_of_mem_drop later
    refine Bool.eq_false_iff.2 fun required => ?_
    have first := (inUse f mem).1 (missing f mem required)
    refine List.disjoint_take_drop regular.names (Nat.le_refl items.length) first ?_
    rw [← List.map_drop]
    exact List.mem_map_of_mem later

end RecordShape

end Liveboard
