import Liveboard.Wire.Record
import Liveboard.Json.Reading

/-!
# Records in JSON texts

A record that is read straight from a text (`RecordShape.ofText`) looks only at
what it needs: members of other names are skipped without asking what they
mean, so a text can hold a record although it has no meaning as a whole. The
members are taken in the order of the text, repeated names included; a field
that is repeated is a fault here, whereas in a value the last one would have
won.
-/

namespace Liveboard

/-- **Why a text holds no record.** -/
inductive ReadFault where
  /-- The text is no JSON. -/
  | notJson
  /-- The text is JSON of another shape. -/
  | shape (fault : Fault)

/-- The wording of a fault. -/
def ReadFault.message : ReadFault → String
  | .notJson => "malformed JSON"
  | .shape fault => fault.message

namespace RecordShape

variable {ρ : Type}

/-- The members that a record looks at, with their meaning. -/
def knownMembers? (shape : RecordShape ρ) :
    List (List Piece × Document) → Option (List (String × Json))
  | [] => some []
  | (key, value) :: rest => do
    let key ← Piece.toString? key
    let more ← shape.knownMembers? rest
    if (shape.field? key).isSome then
      let value ← value.toJson? (Document.maxDepth - 1)
      return (key, value) :: more
    else return more

/-- What a record looks at in a document: the known members of an object,
and all of anything else. -/
def view? (shape : RecordShape ρ) : Document → Option Json
  | .object members => (shape.knownMembers? members).map .object
  | other => other.toJson? Document.maxDepth

/-- **The record of a text.** A fault is one of shape only if the text has
a meaning as a whole. -/
def ofText (shape : RecordShape ρ) (s : String) : Except ReadFault ρ :=
  match Document.ofText? s with
  | none => .error .notJson
  | some document =>
    match shape.view? document with
    | none => .error .notJson
    | some value =>
      match shape.decodeWith (fun _ => .trailing) value with
      | .ok record => .ok record
      | .error fault =>
        if (document.toJson? Document.maxDepth).isSome then .error (.shape fault)
        else .error .notJson

end RecordShape

end Liveboard
