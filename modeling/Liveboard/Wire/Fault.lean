import Liveboard.Json.Value
import Liveboard.Decimal.Layout
import Liveboard.Text.Quoted

/-!
# Why a value does not decode

Every way in which a JSON value can fail to be the record, number or name
that is wanted, as a cause; the wording of all of them is in one place,
`Fault.message`. What decodes only names the cause, and a cause says nothing of
where in a text it was found.
-/

namespace Liveboard

/-- What a value is, in the words of a message. -/
def Json.describe : Json → String
  | .null => "null"
  | .bool b => "boolean `" ++ (if b then "true" else "false") ++ "`"
  | .int n => "integer `" ++ toString n ++ "`"
  | .float x => "floating point `" ++ FloatLayout.data.render x ++ "`"
  | .string s => "string " ++ Quoted.quote s
  | .array _ => "sequence"
  | .object _ => "map"

/-- **Why a value does not decode.** -/
inductive Fault where
  /-- Another kind of value is wanted. -/
  | mismatch (found : Json) (wanted : String)
  /-- A whole number of the right kind that does not fit. -/
  | outOfRange (found : Int) (wanted : String)
  /-- A name is given as an object that has not exactly one member. -/
  | notSingleKey
  /-- A name that is none of the known ones. -/
  | unknownVariant (found : String) (known : List String)
  /-- A field that must be there is not. -/
  | missingField (field : String)
  /-- A field is given twice. -/
  | duplicateField (field : String)
  /-- A record given as a list ends before a field that must be there. -/
  | tooShort (length : Nat) (record : String) (fields : Nat)
  /-- A record given as a list has more items than fields. -/
  | tooLong (length : Nat)
  /-- The same, where the list is read from a text as it comes. -/
  | trailing
  /-- A count is not even a number. -/
  | notACount
  /-- A count is negative or not finite. -/
  | badCount (found : Float)
  /-- A measurement is negative or not finite. -/
  | badMeasure (found : Float)

namespace Fault

/-- A name between back quotes. -/
def ticked (s : String) : String :=
  "`" ++ s ++ "`"

/-- **The wording of a fault.** -/
def message : Fault → String
  | .mismatch found wanted => s!"invalid type: {found.describe}, expected {wanted}"
  | .outOfRange found wanted =>
    s!"invalid value: integer {ticked (toString found)}, expected {wanted}"
  | .notSingleKey => "invalid value: map, expected map with a single key"
  | .unknownVariant found known =>
    s!"unknown variant {ticked found}, expected one of " ++ ", ".intercalate (known.map ticked)
  | .missingField field => s!"missing field {ticked field}"
  | .duplicateField field => s!"duplicate field {ticked field}"
  | .tooShort length record fields =>
    s!"invalid length {length}, expected struct {record} with {fields} elements"
  | .tooLong length => s!"invalid length {length}, expected fewer elements in array"
  | .trailing => "trailing characters"
  | .notACount => "data did not match any variant of untagged enum WireCount"
  | .badCount found =>
    s!"count must be a non-negative number, got {FloatLayout.prose.render found}"
  | .badMeasure found =>
    s!"expected a non-negative number, got {FloatLayout.prose.render found}"

end Fault

end Liveboard
