import Liveboard.Decimal.Reading
import Liveboard.Json.Value
import Liveboard.Text.CodePoint

/-!
# Single values in settings by indentation

What a text without quotes means (`Yaml.resolve`), which characters it may
hold, and how texts in quotes and in blocks run over several lines: a line
break inside a text becomes a space, and an empty line becomes a line
break. How far a text without quotes goes depends on whether it stands
between brackets, where a comma ends it (`Yaml.plainSpan`). A block says at
its head what becomes of the line breaks at its end, and `Yaml.Chomp` is
what it says.
-/

namespace Liveboard.Yaml

/-! ## Meaning -/

/-- A whole number in some base. -/
def numberIn? (base : Nat) (cs : List Char) : Option Int :=
  let (negative, digits) := splitSign cs
  if digits.isEmpty then none
  else do
    let n ← digits.foldlM (fun n c => (CodePoint.hexValue? c).bind fun d =>
      if d < base then some (n * base + d) else none) 0
    let n : Int := if negative then -(n : Int) else n
    if -(2 ^ 63) ≤ n ∧ n < 2 ^ 63 then some n else none

/-- A whole number. -/
def integer? (s : String) : Option Int :=
  match s.toList with
  | '0' :: 'x' :: rest => numberIn? 16 rest
  | '0' :: 'o' :: rest => numberIn? 8 rest
  | _ => readSigned? s

/-- The words for doubles that are no finite number. -/
def specialDoubles : List String :=
  [".inf", ".Inf", ".INF", "+.inf", "+.Inf", "+.INF", "-.inf", "-.Inf", "-.INF", ".nan", ".NaN",
    ".NAN"]

/-- Whether a text is a double. -/
def isDouble (s : String) : Bool :=
  specialDoubles.contains s || (s.toList.any Char.isDigit && (readDouble? s).isSome)

/-- The value of a double; the words for what is no finite number have
none. -/
def double? (s : String) : Option Json :=
  (readDouble? s).map .float

/-- **The value of a text without quotes.** None where the text is a double
without a value. -/
def resolve (s : String) : Option Json :=
  match integer? s with
  | some n => some (.int n)
  | none =>
    match s with
    | "" | "~" | "null" => some .null
    | "true" => some (.bool true)
    | "false" => some (.bool false)
    | _ => if isDouble s then double? s else some (.string s)

/-- The value of a text without quotes under a tag that names its kind. A
text that is not of the kind has no value. -/
def resolveTagged (kind s : String) : Option Json :=
  match kind with
  | "bool" => some (match s with
    | "true" => .bool true
    | "false" => .bool false
    | _ => .null)
  | "int" => some (((readSigned? s).map Json.int).getD .null)
  | "float" => if isDouble s then double? s else some .null
  | "null" => some .null
  | _ => some (.string s)

/-! ## Texts without quotes -/

/-- Whether a character is a blank. -/
def isBlank (c : Char) : Bool := c = ' ' || c = '\t'

/-- Whether a character has a meaning between brackets. -/
def isFlowMark (c : Char) : Bool := ",[]\x7b\x7d".toList.contains c

/-- Whether what follows a mark sets it apart: the end of the line, a blank
or, between brackets, a character with a meaning there. -/
def isApart (inFlow : Bool) : List Char → Bool
  | [] => true
  | c :: _ => isBlank c || (inFlow && isFlowMark c)

/-- Whether a text without quotes can begin here. -/
def startsPlain (inFlow : Bool) : List Char → Bool
  | [] => false
  | c :: rest =>
    if c = '-' || c = '?' || c = ':' then !isApart inFlow rest
    else !isBlank c && !isFlowMark c && !"#&*!|>'\"%@\x60".toList.contains c

/-- The characters of a text without quotes on one line, and what follows
them: a comment, a colon that ends a key, or a mark between brackets.
`blank` tells that a blank stands in front. -/
def plainSpan (inFlow blank : Bool) : List Char → List Char × List Char
  | [] => ([], [])
  | c :: rest =>
    if (c = '#' && blank) || (c = ':' && isApart inFlow rest) || (inFlow && isFlowMark c) then
      ([], c :: rest)
    else
      let (text, rest) := plainSpan inFlow (isBlank c) rest
      (c :: text, rest)

/-- A text without the blanks at its end. -/
def trimEnd (cs : List Char) : List Char :=
  (cs.reverse.dropWhile isBlank).reverse

/-- Puts two lines of a text together between which there are `empties`
empty ones. -/
def fold (before : List Char) (empties : Nat) (after : List Char) : List Char :=
  before ++ (if empties = 0 then [' '] else List.replicate empties '\n') ++ after

/-! ## Texts in quotes -/

/-- The character that a letter stands for after a backslash. -/
def escape? (c : Char) : Option Char :=
  let codes : List (Char × Nat) := [('0', 0), ('a', 7), ('b', 8), ('t', 9), ('\t', 9), ('n', 10),
    ('v', 11), ('f', 12), ('r', 13), ('e', 27), (' ', 32), ('"', 34), ('/', 47), ('\\', 92),
    ('N', 0x85), ('_', 0xA0), ('L', 0x2028), ('P', 0x2029)]
  (codes.lookup c).map Char.ofNat

/-- The escaped character at the start, and the number of characters that
write it, without the backslash. -/
def escaped? : List Char → Option (Char × Nat)
  | [] => none
  | c :: rest =>
    let coded (width : Nat) : Option (Char × Nat) :=
      if width ≤ rest.length then
        (CodePoint.ofDigits? (rest.take width)).map fun c => (c, width + 1)
      else none
    match c with
    | 'x' => coded 2
    | 'u' => coded 4
    | 'U' => coded 8
    | c => (escape? c).map fun c => (c, 1)

/-- How a line of a text in quotes ends. -/
inductive LineEnd where
  /-- The text ends; `rest` follows it. -/
  | closed (rest : List Char)
  /-- The text goes on. -/
  | goesOn
  /-- The text goes on, and the line break is left out. -/
  | joined

/-- One line of a text in quotes; `skip` characters belong to an escape. -/
def quotedLine? (double : Bool) (skip : Nat) : List Char → Option (List Char × LineEnd)
  | [] => some ([], .goesOn)
  | c :: rest =>
    if 0 < skip then quotedLine? double (skip - 1) rest
    else if double then
      if c = '"' then some ([], .closed rest)
      else if c = '\\' then
        if rest.isEmpty then some ([], .joined)
        else do
          let (c, length) ← escaped? rest
          let (text, ending) ← quotedLine? double length rest
          return (c :: text, ending)
      else (quotedLine? double 0 rest).map fun (text, ending) => (c :: text, ending)
    else if c = '\'' then
      if rest.head? = some '\'' then
        (quotedLine? double 1 rest).map fun (text, ending) => (c :: text, ending)
      else some ([], .closed rest)
    else (quotedLine? double 0 rest).map fun (text, ending) => (c :: text, ending)

/-- The lines of a text in quotes that follow its first, put together with
those before, and what follows the text. -/
def quotedLines? (double : Bool) (before : List Char) (joined : Bool) (empties : Nat) :
    List (List Char) → Option (List Char × List Char × List (List Char))
  | [] => none
  | line :: more =>
    let line := line.dropWhile isBlank
    if line.isEmpty then quotedLines? double before joined (empties + 1) more
    else do
      let (text, ending) ← quotedLine? double 0 line
      let together (text : List Char) : List Char :=
        if joined && empties = 0 then before ++ text else fold before empties text
      match ending with
      | .closed rest => return (together text, rest, more)
      | .goesOn => quotedLines? double (together (trimEnd text)) false 0 more
      | .joined => quotedLines? double (together text) true 0 more

/-- **A text in quotes**, its opening mark left out: the text, what follows
it on its last line, and the lines after that. -/
def quoted? (double : Bool) (cs : List Char) (more : List (List Char)) :
    Option (List Char × List Char × List (List Char)) := do
  let (text, ending) ← quotedLine? double 0 cs
  match ending with
  | .closed rest => return (text, rest, more)
  | .goesOn => quotedLines? double (trimEnd text) false 0 more
  | .joined => quotedLines? double text true 0 more

/-! ## Texts in blocks -/

/-- What becomes of the line breaks at the end of a block. -/
inductive Chomp where
  /-- One is kept. -/
  | clip
  /-- None is kept. -/
  | strip
  /-- All are kept. -/
  | keep
  deriving DecidableEq, Repr

/-- **The heading of a block.** -/
structure BlockHeading where
  /-- Whether its lines are put together. -/
  folded : Bool
  /-- How far it is indented, if that is said. -/
  indent : Option Nat
  /-- What becomes of the line breaks at its end. -/
  chomp : Chomp

/-- The heading of a block after its first mark; nothing but a comment
follows it. -/
def blockHeading? (h : BlockHeading) (blank : Bool) : List Char → Option BlockHeading
  | [] => some h
  | c :: rest =>
    if isBlank c then blockHeading? h true rest
    else if blank then if c = '#' then some h else none
    else if c = '+' then blockHeading? { h with chomp := .keep } false rest
    else if c = '-' then blockHeading? { h with chomp := .strip } false rest
    else if c.isDigit && c ≠ '0' && h.indent.isNone then
      blockHeading? { h with indent := some (c.toNat - '0'.toNat) } false rest
    else none

/-- The number of spaces that a line begins with. -/
def indentOf (line : List Char) : Nat := (line.takeWhile (· = ' ')).length

/-- The lines of a block and the lines that follow it. -/
def blockLines (indent : Nat) : List (List Char) → List (List Char) × List (List Char)
  | [] => ([], [])
  | line :: more =>
    if line.all (· = ' ') || indent ≤ indentOf line then
      let (lines, rest) := blockLines indent more
      (line.drop indent :: lines, rest)
    else ([], line :: more)

/-- The lines of a block put together. -/
def joinLines (folded : Bool) (before : List Char) (empties : Nat) : List (List Char) → List Char
  | [] => before
  | line :: more =>
    if line.isEmpty then joinLines folded before (empties + 1) more
    else
      let isDeep (line : List Char) : Bool := line.head?.any isBlank
      let lastLine := (before.reverse.takeWhile (· ≠ '\n')).reverse
      let text :=
        if before.isEmpty then List.replicate empties '\n' ++ line
        else if folded && !isDeep line && !isDeep lastLine then fold before empties line
        else before ++ List.replicate (empties + 1) '\n' ++ line
      joinLines folded text 0 more

/-- **The text of a block** from its lines. `lastOpen` tells that the last
line has no line break. -/
def blockText (h : BlockHeading) (lines : List (List Char)) (lastOpen : Bool) : List Char :=
  let kept := (lines.reverse.dropWhile List.isEmpty).reverse
  let text := joinLines h.folded [] 0 kept
  let breaks := lines.length - kept.length + (if lastOpen then 0 else 1)
  match h.chomp with
  | .strip => text
  | .clip => if kept.isEmpty || breaks = 0 then text else text ++ ['\n']
  | .keep =>
    if kept.isEmpty then List.replicate (breaks - 1) '\n' else text ++ List.replicate breaks '\n'

end Liveboard.Yaml
