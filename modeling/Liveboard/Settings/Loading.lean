import Liveboard.Notation.Ini
import Liveboard.Notation.Toml.Reading
import Liveboard.Notation.Yaml.Reading
import Liveboard.Json.Reading
import Liveboard.Settings.Layer
import Liveboard.Settings.Loose

/-!
# Loading settings

Settings are loaded from a file, whose name tells its notation, and from the
environment, which overrides the file (`ClientSettings.load`). Without a file,
the environment overrides the defaults.

A variable has a text and no kind. `Variable.entry?` takes the text for a truth
value or a number where it is one, before it is known which setting it is for;
what a setting makes of the value is decided when the layers are together.
-/

namespace Liveboard

/-! ## Files -/

/-- **The notations of files.** -/
inductive FileNotation where
  /-- Tables of keys and values. -/
  | toml
  /-- Values by indentation. -/
  | yaml
  /-- JSON. -/
  | json
  /-- Sections of lines. -/
  | ini
  deriving DecidableEq, Repr

namespace FileNotation

/-- What follows the last dot of a file's name, unless nothing stands in
front of it. -/
def extension? (path : String) : Option String :=
  let name := (path.toList.reverse.takeWhile (· ≠ '/')).reverse
  let ending := (name.reverse.takeWhile (· ≠ '.')).reverse
  if ending.length + 1 < name.length then some (String.ofList ending) else none

/-- **The notation of a file**, from its name. -/
def ofPath (path : String) : FileNotation :=
  match extension? path with
  | some "yaml" | some "yml" => .yaml
  | some "json" => .json
  | some "ini" => .ini
  | _ => .toml

/-- The endings of the names of files in a notation. -/
def endings : FileNotation → List String
  | .toml => ["toml"]
  | .yaml => ["yaml", "yml"]
  | .json => ["json"]
  | .ini => ["ini"]

/-- The value of a text in a notation. -/
def value? : FileNotation → String → Option Json
  | .toml, s => Toml.ofText? s
  | .yaml, s => Yaml.ofText? s
  | .json, s => Json.ofText? s
  | .ini, s => Ini.ofText? s

/-- A text without the mark of its byte order. -/
def dropMark (s : String) : String :=
  match s.toList with
  | c :: rest => if c.toNat = 0xFEFF then String.ofList rest else s
  | [] => s

/-- **What a file sets**: it must be an object as a whole. -/
def read? (n : FileNotation) (s : String) : Option (List (String × Json)) :=
  match n.value? (dropMark s) with
  | some (.object ms) => some ms
  | _ => none

end FileNotation

/-- **A file of settings.** -/
structure SettingsFile where
  /-- Its name. -/
  path : String
  /-- What is in it; none if there is no such file. -/
  text : Option String

/-- What a file sets. -/
def SettingsFile.layer? (f : SettingsFile) : Option (List (String × Json)) :=
  f.text.bind (FileNotation.ofPath f.path).read?

/-! ## The environment -/

/-- **A variable of the environment.** -/
structure Variable where
  /-- Its name. -/
  name : String
  /-- Its value. -/
  value : String

namespace Variable

/-- What the names of variables for settings begin with. -/
def start : String := "axon_dash__"

/-- What the parts of a name stand between. -/
def separator : String := "__"

/-- The value that a text is taken for: a truth value, a whole number, a
double or, if it is none of those, itself. -/
def guess (s : String) : Json :=
  match Loose.lower s with
  | "true" => .bool true
  | "false" => .bool false
  | _ =>
    match readSigned? s with
    | some n => .int n
    | none =>
      match readDouble? s with
      | some x => .float x
      | none => .string s

/-- **What a variable sets**, if it is one for settings. -/
def entry? (v : Variable) : Option (String × Json) :=
  let name := Loose.lower v.name
  if name.startsWith start then
    let key := ".".intercalate ((String.ofList (name.toList.drop start.length)).splitOn separator)
    some (key, guess v.value)
  else none

end Variable

/-! ## Loading -/

/-- How far the loading of settings came. -/
inductive LoadStage where
  /-- The layers could not be read. -/
  | building
  /-- They make up no settings. -/
  | decoding
  deriving DecidableEq, Repr

/-- **Why settings could not be loaded.** -/
structure LoadFault where
  /-- How far it came. -/
  stage : LoadStage
  /-- Where the settings should have come from. -/
  origin : String
  deriving DecidableEq, Repr

/-- The wording of a fault. -/
def LoadFault.message (f : LoadFault) : String :=
  match f.stage with
  | .building => s!"Failed to build config from {f.origin}"
  | .decoding => s!"Failed to deserialize config from {f.origin}"

namespace ClientSettings

/-- Where settings come from, for a message. -/
def originOf (file : Option SettingsFile) : String :=
  (file.map SettingsFile.path).getD "environment"

/-- What a file sets; without a file, nothing. -/
def fileLayer? : Option SettingsFile → Option (List (String × Json))
  | none => some []
  | some file => file.layer?

/-- **The settings of a file and of the environment.** -/
def load (file : Option SettingsFile) (environment : List Variable) :
    Except LoadFault ClientSettings :=
  match fileLayer? file with
  | none => .error ⟨.building, originOf file⟩
  | some layer =>
    let tree := Json.overlay (environment.filterMap Variable.entry?)
      (Json.overlay layer (.object []))
    match ofLoose? tree with
    | none => .error ⟨.decoding, originOf file⟩
    | some s => .ok s

end ClientSettings

end Liveboard
