import Liveboard.Decimal.Layout
import Liveboard.Decimal.Reading
import Liveboard.Settings.Basic

/-!
# Settings from loose values

Files and variables of the environment do not always write a value in the
kind that a setting has: a number may come as a text, a truth value as a
number, a text as either. Such a value is bent into the kind that is asked
for. Only lists, tables and missing values are bent into nothing.

A `Bend` is a function from values to values and not to settings, so that a
whole record is bent first (`Loose.record`) and then decoded by the shape that
it has anyway.
-/

namespace Liveboard.Loose

/-- The words for a true value. -/
def yes : List String := ["true", "on", "yes"]

/-- The words for a false value. -/
def no : List String := ["false", "off", "no"]

/-- A text in small letters. -/
def lower (s : String) : String :=
  String.ofList (s.toList.map Char.toLower)

/-- A value as a text. -/
def text? : Json → Option String
  | .string s => some s
  | .bool b => some (if b then "true" else "false")
  | .int n => some (toString n)
  | .float x => some (FloatLayout.prose.render x)
  | _ => none

/-- A value as a truth value. -/
def flag? : Json → Option Bool
  | .bool b => some b
  | .int n => some (n ≠ 0)
  | .float x => some (x != 0.0)
  | .string s =>
    if ("1" :: yes).contains (lower s) then some true
    else if ("0" :: no).contains (lower s) then some false
    else none
  | _ => none

/-- The greatest whole number. -/
def maxWhole : Nat := 2 ^ 64 - 1

/-- The whole number nearest to a double, a half going up; what is negative
or no number counts as zero, and what is too large as the greatest. -/
def nearestWhole (x : Float) : Nat :=
  match Binary.ofFloat x with
  | .nan => 0
  | .infinite negative => if negative then 0 else maxWhole
  | .finite negative m e => if negative then 0 else min (Ratio.ofBinary m e).roundHalfUp maxWhole

/-- A value as a whole number. -/
def whole? : Json → Option Nat
  | .int n => if 0 ≤ n then some n.toNat else none
  | .bool b => some (if b then 1 else 0)
  | .float x => some (nearestWhole x)
  | .string s =>
    if yes.contains (lower s) then some 1
    else if no.contains (lower s) then some 0
    else readUnsigned? s
  | _ => none

/-- A value as a double. -/
def double? : Json → Option Float
  | .float x => some x
  | .int n => some (Scalar.floatOfInt n)
  | .bool b => some (if b then 1.0 else 0.0)
  | .string s =>
    if yes.contains (lower s) then some 1.0
    else if no.contains (lower s) then some 0.0
    else readDouble? s
  | _ => none

/-- How a value is bent into the kind of a setting. -/
abbrev Bend := Json → Option Json

/-- Into a text. -/
def text : Bend := fun v => (text? v).map .string

/-- Into a text that may be missing. -/
def optionalText : Bend
  | .null => some .null
  | v => text v

/-- Into a truth value. -/
def flag : Bend := fun v => (flag? v).map .bool

/-- Into a whole number. -/
def whole : Bend := fun v => (whole? v).map .ofNat

/-- Into a double. -/
def double : Bend := fun v => (double? v).map .float

/-- Into a name: the text, or the only key of an object. -/
def name : Bend
  | .string s => some (.string s)
  | .object [(key, _)] => some (.string key)
  | _ => none

/-- The members of an object that are asked for, bent. -/
def pick (ms : List (String × Json)) : List (String × Bend) → Option (List (String × Json))
  | [] => some []
  | (name, bend) :: fields => do
    let more ← pick ms fields
    match ms.lookup name with
    | some v => return (name, ← bend v) :: more
    | none => return more

/-- **Into an object** with the given members. A list gives them in order;
what is left over does not count. -/
def record (fields : List (String × Bend)) : Bend
  | .object ms => (pick ms fields).map Json.ofMembers
  | .array xs => (pick ((fields.map Prod.fst).zip xs) fields).map Json.ofMembers
  | _ => none

/-- How the settings for reconnecting are bent. -/
def reconnect : Bend := record [
  ("base_delay", text), ("max_delay", text), ("multiplier", double), ("jitter", double),
  ("max_consecutive_failures", whole)]

/-- How the settings for snapshots are bent. -/
def snapshot : Bend := record [
  ("freshness_window_secs", whole), ("retry_interval_secs", whole),
  ("refresh_interval_secs", whole), ("request_timeout_secs", whole),
  ("max_pending_deltas", whole)]

/-- How the settings for the log are bent. -/
def log : Bend := record [("level", text), ("json", flag), ("include_spans", flag)]

/-- How the settings of a client are bent. -/
def client : Bend := record [
  ("api_base_url", text), ("channel_url", optionalText), ("auth_token", optionalText),
  ("period", name), ("reconnect", reconnect), ("snapshot", snapshot), ("logging", log)]

end Loose

/-- **The settings of a value** whose kinds are bent. -/
def ClientSettings.ofLoose? (v : Json) : Option ClientSettings :=
  (Loose.client v).bind fun v =>
    match shape.decode v with
    | .ok s => some s
    | .error _ => none

end Liveboard
