import Liveboard.Wire.Record
import Liveboard.Metrics.Count

/-!
# Numbers, texts and names in JSON

How the fields of the records are read from single values. Counts are
lenient: the backend writes them as whole numbers or as doubles, and both
are taken, the whole numbers exactly (`Scalar.count`). Everything else is
strict. A measurement is a double that is not negative (`Scalar.measure`), and
one of a list of names is read by `Scalar.variant`, whose complaint lists all of
them.
-/

namespace Liveboard.Scalar

/-- The double nearest to a whole number. -/
def floatOfInt (n : Int) : Float :=
  let magnitude : Float := OfScientific.ofScientific n.natAbs false 0
  if n < 0 then -magnitude else magnitude

/-- The number that a value holds, as a double. -/
def number? : Json → Option Float
  | .int n => some (floatOfInt n)
  | .float x => some x
  | _ => none

/-- **A count.** A whole number that fits is taken as it is; any other
number is rounded and cut off. -/
def count (v : Json) : Except Fault Count :=
  match v with
  | .int n =>
    if 0 ≤ n then .ok (Count.ofNatCapped n.toNat) else .error (.badCount (floatOfInt n))
  | .float x =>
    match Count.ofBinary? (Binary.ofFloat x) with
    | some n => .ok n
    | none => .error (.badCount x)
  | _ => .error .notACount

/-- A double. -/
def double (v : Json) : Except Fault Float :=
  match number? v with
  | some x => .ok x
  | none => .error (.mismatch v "f64")

/-- A measurement: a finite double that is not negative. -/
def measure (v : Json) : Except Fault Float := do
  let x ← double v
  if x.isFinite && 0.0 ≤ x then .ok x else .error (.badMeasure x)

/-- A whole number from zero up to a limit; `wanted` names its kind. -/
def whole (wanted : String) (limit : Nat) (v : Json) : Except Fault Nat :=
  match v with
  | .int n =>
    if 0 ≤ n ∧ n.toNat ≤ limit then .ok n.toNat else .error (.outOfRange n wanted)
  | other => .error (.mismatch other wanted)

/-- A whole number of 64 bits. -/
def word : Json → Except Fault Nat :=
  whole "u64" (2 ^ 64 - 1)

/-- A whole number of 32 bits. -/
def halfWord : Json → Except Fault Nat :=
  whole "u32" (2 ^ 32 - 1)

/-- A size. -/
def size : Json → Except Fault Nat :=
  whole "usize" (2 ^ 64 - 1)

/-- A text. -/
def text (v : Json) : Except Fault String :=
  match v with
  | .string s => .ok s
  | other => .error (.mismatch other "a string")

/-- A truth value. -/
def flag (v : Json) : Except Fault Bool :=
  match v with
  | .bool b => .ok b
  | other => .error (.mismatch other "a boolean")

/-- A value that may be `null`. -/
def optional {α : Type} (read : Json → Except Fault α) (v : Json) : Except Fault (Option α) :=
  match v with
  | .null => .ok none
  | other => (read other).map some

/-- The value of a name among the known ones. -/
def named {α : Type} (known : List (String × α)) (name : String) : Except Fault α :=
  match known.lookup name with
  | some a => .ok a
  | none => .error (.unknownVariant name (known.map Prod.fst))

/-- **One of a list of names**: the name as a text, or as the only member
of an object, with `null` as its value. -/
def variant {α : Type} (known : List (String × α)) (v : Json) : Except Fault α :=
  match v with
  | .string name => named known name
  | .object [(name, value)] => do
    let a ← named known name
    match value with
    | .null => .ok a
    | other => .error (.mismatch other "unit")
  | .object _ => .error .notSingleKey
  | other => .error (.mismatch other "string or map")

end Liveboard.Scalar
