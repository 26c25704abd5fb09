import Liveboard.Text.Alphanumeric
import Liveboard.Text.Blank

/-!
# Filters of log records

A filter is a list of directives between commas. A directive names what it
is about, a level, or both with `=` between them. What has no `=` is a name
or a level; either will do. It may be about a span, whose name stands in
brackets, behind the other name or alone.

A directive may also ask for the fields of a span, in braces, and for a value
of a field by a pattern with a grammar of its own. These are not read here.
Nothing in this library depends on which texts are filters, so whoever sets up
a log or validates settings may say so (`SettingsReaders`), and
`LogFilter.isPlain` is what is taken if nobody does.
-/

namespace Liveboard.LogFilter

/-- The names of levels. -/
def levelNames : List String := ["off", "error", "warn", "info", "debug", "trace"]

/-- The greatest number that is a level. -/
def maxLevel : Nat := 5

/-- A text with small letters in place of the large ones of ASCII. -/
def lower (s : String) : String :=
  String.ofList (s.toList.map Char.toLower)

/-- Whether a text is the number of a level; it may carry a sign and
leading zeros. -/
def isLevelNumber (cs : List Char) : Bool :=
  let digits := match cs with
    | '+' :: rest => rest
    | cs => cs
  !digits.isEmpty && digits.all Char.isDigit
    && digits.foldl (fun n c => n * 10 + (c.toNat - '0'.toNat)) 0 ≤ maxLevel

/-- **Whether a text is a level**, by name or by number. -/
def isLevel (s : String) : Bool :=
  levelNames.contains (lower s) || isLevelNumber s.toList

/-- Whether a name can begin with a character. -/
def isStart (c : Char) : Bool :=
  c = '-' || c = ':' || c = '_' || Alphanumeric.isAlphanumeric c

/-- Whether a directive is at its end, but for a level behind a `=`. The level may be
left out. -/
def isEnd : List Char → Bool
  | [] => true
  | '=' :: level => level.isEmpty || isLevel (String.ofList level)
  | _ => false

/-- Whether a span that has begun ends, and the directive with it. -/
def isSpan (cs : List Char) : Bool :=
  match cs.dropWhile fun c => c ≠ ']' && c ≠ '\x7b' with
  | ']' :: rest => isEnd rest
  | _ => false

/-- **Whether a text is a directive** that asks for no fields. -/
def isDirective (s : String) : Bool :=
  match Blank.stripList Blank.isBlank s.toList with
  | [] => false
  | '[' :: rest => isSpan rest
  | c :: rest =>
    isStart c &&
      match (c :: rest).dropWhile fun c => c ≠ '=' && c ≠ '[' with
      | '[' :: rest => isSpan rest
      | rest => isEnd rest

/-- A span may stand behind a name or alone, and has to end. -/
example : isDirective "[push_channel]=debug" = true
    ∧ isDirective "axon_dash[push_channel" = false := by decide +kernel

/-- **Whether a text is a filter without fields.** Nothing between two commas is
nothing. -/
def isPlain (s : String) : Bool :=
  (s.splitOn ",").all fun piece => piece.isEmpty || isDirective piece

end Liveboard.LogFilter
