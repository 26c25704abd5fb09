import Liveboard.Wire.Fault

/-!
# Records in JSON

A record travels as an object with its fields as members, or as a list
of its fields in the order of their declaration. Either way the first
bad field is the one reported: an object is read in the order of its
members, a list in the order of its items. Members of other names are
ignored. What is missing at the end is reported in the order of
declaration.

A `RecordShape` is a record's name, its fields, and the record in which no
field is set; a `Field` is a name, whether it must be there, and how its
value is put into the record. So `RecordShape.decode` is written once, and
what is proved of it holds of all records.
-/

namespace Liveboard

/-- **A field of a record.** -/
structure Field (ρ : Type) where
  /-- Its name. -/
  name : String
  /-- Whether it must be there. -/
  required : Bool
  /-- The record with this field set from a value. -/
  set : Json → ρ → Except Fault ρ

/-- **The shape of a record.** -/
structure RecordShape (ρ : Type) where
  /-- The name that messages give the record. -/
  name : String
  /-- The record before any field is set. -/
  blank : ρ
  /-- The fields in the order of declaration. -/
  fields : List (Field ρ)

namespace RecordShape

variable {ρ : Type}

/-- The field of a given name. -/
def field? (shape : RecordShape ρ) (name : String) : Option (Field ρ) :=
  shape.fields.find? (·.name = name)

/-- Sets the fields from the members of an object, in their order. `seen`
holds the fields that were set before. -/
def setMembers (shape : RecordShape ρ) (seen : List String) (record : ρ) :
    List (String × Json) → Except Fault (List String × ρ)
  | [] => .ok (seen, record)
  | (name, value) :: rest =>
    match shape.field? name with
    | none => shape.setMembers seen record rest
    | some field =>
      if seen.contains name then .error (.duplicateField name)
      else do
        let record ← field.set value record
        shape.setMembers (name :: seen) record rest

/-- Sets the fields from the items of a list, one each; `index` counts the
fields before. -/
def setItems (shape : RecordShape ρ) (index : Nat) (record : ρ) :
    List (Field ρ) → List Json → Except Fault ρ
  | [], _ => .ok record
  | field :: fields, value :: rest => do
    let record ← field.set value record
    shape.setItems (index + 1) record fields rest
  | field :: fields, [] =>
    if field.required then .error (.tooShort index shape.name shape.fields.length)
    else shape.setItems (index + 1) record fields []

/-- The first field that must be there and was not set. -/
def firstMissing? (shape : RecordShape ρ) (seen : List String) : Option String :=
  (shape.fields.find? fun f => f.required && !seen.contains f.name).map (·.name)

/-- **The record of a JSON value**, `excess` being the complaint about a
list with too many items. -/
def decodeWith (excess : Nat → Fault) (shape : RecordShape ρ) : Json → Except Fault ρ
  | .object members => do
    let (seen, record) ← shape.setMembers [] shape.blank members
    match shape.firstMissing? seen with
    | some name => .error (.missingField name)
    | none => .ok record
  | .array items => do
    let record ← shape.setItems 0 shape.blank shape.fields items
    if shape.fields.length < items.length then .error (excess items.length)
    else .ok record
  | other => .error (.mismatch other ("struct " ++ shape.name))

/-- The record of a JSON value. -/
def decode (shape : RecordShape ρ) : Json → Except Fault ρ :=
  shape.decodeWith .tooLong

end RecordShape

end Liveboard
