import Liveboard.Decimal.Reading
import Liveboard.Json.Value

/-!
# Layers of settings

Settings come in layers, a file below and the environment above. A layer is
a list of paths with values, put over what is below one entry after the other
(`Json.overlay`). A path names a member by member, or an item of a list by its
number; what is on the way is made a table or a list. A table is merged into
what is there, and any other value takes its place (`Json.merge`).
-/

namespace Liveboard

/-- **One step of a path.** -/
inductive Step where
  /-- To the member of a name. -/
  | member (name : String)
  /-- To the item of a number; a negative one counts from the end. -/
  | item (number : Int)
  deriving DecidableEq, Repr

/-- **The path of a setting.** -/
abbrev SettingPath := List Step

namespace SettingPath

/-- Whether a character may stand in a name. -/
def isNameChar (c : Char) : Bool :=
  c.isAlphanum || c = '_' || c = '-'

/-- The name at the start, and what follows it. -/
def name? (cs : List Char) : Option (String × List Char) :=
  let name := cs.takeWhile isNameChar
  if name.isEmpty then none else some (String.ofList name, cs.dropWhile isNameChar)

/-- Whether a character is a blank. -/
def isBlank (c : Char) : Bool := c = ' ' || c = '\t'

/-- The number of an item up to its closing bracket, and what follows
it. -/
def number? (cs : List Char) : Option (Int × List Char) :=
  let cs := cs.dropWhile isBlank
  let (negative, digits) := match cs with
    | '-' :: rest => (true, rest)
    | cs => (false, cs)
  let number := digits.takeWhile Char.isDigit
  match (digits.dropWhile Char.isDigit).dropWhile isBlank with
  | ']' :: rest =>
    if number.isEmpty || 2 ^ 63 ≤ digitsValue number then none
    else some (if negative then -(digitsValue number : Int) else digitsValue number, rest)
  | _ => none

/-- The steps after the first name; at most as many as `fuel`. -/
def steps? : Nat → List Char → Option SettingPath
  | _, [] => some []
  | 0, _ => none
  | fuel + 1, '.' :: rest => do
    let (name, rest) ← name? rest
    return .member name :: (← steps? fuel rest)
  | fuel + 1, '[' :: rest => do
    let (number, rest) ← number? rest
    return .item number :: (← steps? fuel rest)
  | _ + 1, _ => none

/-- **The path that a text writes.** -/
def parse? (s : String) : Option SettingPath := do
  let (name, rest) ← name? s.toList
  return .member name :: (← steps? s.length rest)

/-- The path of a key: the one that it writes, or else the member of that
name. -/
def ofKey (key : String) : SettingPath :=
  (parse? key).getD [.member key]

end SettingPath

namespace Json

/-- The members of a value, if it is an object. -/
def members : Json → List (String × Json)
  | .object ms => ms
  | _ => []

/-- The items of a value, if it is an array. -/
def items : Json → List Json
  | .array xs => xs
  | _ => []

mutual

/-- **A value put over another**: an object is merged into the other, and
any other value takes its place. -/
def merge : Json → Json → Json
  | .object ms, below => .object (mergeMembers ms below.members)
  | top, _ => top

/-- Members put over others. -/
def mergeMembers : List (String × Json) → List (String × Json) → List (String × Json)
  | [], below => below
  | (k, v) :: rest, below =>
    mergeMembers rest (insertMember k (merge v ((below.lookup k).getD .null)) below)

end

/-- The list with the item of a number changed. Items on the way are made
where they are missing, at the end or, for a negative number, at the
start. -/
def changeItem (number : Int) (change : Json → Json) (xs : List Json) : List Json :=
  if 0 ≤ number then
    let xs := xs ++ List.replicate (number.toNat + 1 - xs.length) .null
    xs.modify number.toNat change
  else
    let xs := List.replicate (number.natAbs - xs.length) .null ++ xs
    xs.modify (xs.length - number.natAbs) change

/-- The value with what is at the end of a path changed. -/
def changeAt (change : Json → Json) : SettingPath → Json → Json
  | [], v => change v
  | .member name :: path, v =>
    .object
      (insertMember name (changeAt change path ((v.members.lookup name).getD .null)) v.members)
  | .item number :: path, v => .array (changeItem number (changeAt change path) v.items)

/-- **A layer put over what is below.** -/
def overlay (layer : List (String × Json)) (below : Json) : Json :=
  layer.foldl (fun v (key, value) => changeAt (merge value) (.ofKey key) v) below

end Json

end Liveboard
