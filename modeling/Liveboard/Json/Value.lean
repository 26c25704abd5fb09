/-!
# JSON values

The payloads of the push channel and the bodies of the dashboard API are
JSON whose shape the backend owns, so they travel as one value type.
Whole numbers and doubles are kept apart, because a count decoded from a
whole number must never pass through a double.

An object lists its members in the order of their keys, each key once.
`Json.ofMembers` builds it from members in any order, the last of a
repeated key winning, so that two objects with the same members are the
same value and are written the same.
-/

namespace Liveboard

/-- **A JSON value.** -/
inductive Json where
  /-- The value `null`. -/
  | null
  /-- A truth value. -/
  | bool (b : Bool)
  /-- A number written without fraction and exponent that fits 64 bits. -/
  | int (n : Int)
  /-- Any other number. -/
  | float (x : Float)
  /-- A text. -/
  | string (s : String)
  /-- A list of values. -/
  | array (items : List Json)
  /-- Members in the order of their keys. -/
  | object (members : List (String × Json))
  deriving Inhabited, BEq

namespace Json

/-- Puts a member in its place by key; it replaces one of the same key. -/
def insertMember (key : String) (value : Json) : List (String × Json) → List (String × Json)
  | [] => [(key, value)]
  | (k, v) :: rest =>
    if key = k then (k, value) :: rest
    else if key < k then (key, value) :: (k, v) :: rest
    else (k, v) :: insertMember key value rest

/-- The object with the given members; the last of a repeated key wins. -/
def ofMembers (members : List (String × Json)) : Json :=
  .object (members.foldl (fun done (k, v) => insertMember k v done) [])

/-- The member of the given name, if the value is an object that has it. -/
def get? (key : String) : Json → Option Json
  | .object members => members.lookup key
  | _ => none

/-- The text, if the value is one. -/
def text? : Json → Option String
  | .string s => some s
  | _ => none

/-- The whole number as a JSON value. -/
def ofNat (n : Nat) : Json :=
  .int n

/-- A double as JSON can hold it: what is not finite becomes `null`. -/
def ofFloat (x : Float) : Json :=
  if x.isFinite then .float x else .null

/-- A member that was put in is found. -/
theorem lookup_insertMember_self (key : String) (value : Json) (ms : List (String × Json)) :
    (insertMember key value ms).lookup key = some value := by
  induction ms with
  | nil => simp [insertMember]
  | cons m rest ih =>
    obtain ⟨k, v⟩ := m
    unfold insertMember
    split
    · next h => subst h; simp
    · next h =>
      split
      · simp
      · have hk : (key == k) = false := by simpa using h
        simp [List.lookup_cons, hk, ih]

end Json

end Liveboard
