import Liveboard.Notation.Yaml.Scalar

/-!
# Settings by indentation

A file is a value whose structure shows in the indentation of its lines,
or between brackets and braces. A value may be given a name and be used
again under it.

What is read are spots: a column, what is left of the line there, and the
lines that follow. A value is read at a `Spot`, and leaves the spot at which
the next thing begins: `block?` reads one whose structure shows in its
indentation, and `flow?` one between brackets or braces, or a text. A value
may leave the spot where it was, when it is empty, so no measure of what is
left goes down at every call; each takes from a supply of fuel instead,
which the length of the file bounds.
-/

namespace Liveboard.Yaml

/-- **Where the reading is.** -/
structure Spot where
  /-- The column. -/
  col : Nat
  /-- What is left of the line. -/
  cs : List Char
  /-- The lines that follow. -/
  more : List (List Char)

namespace Spot

/-- The spot after some characters of the line. -/
def drop (s : Spot) (n : Nat) : Spot :=
  { s with col := s.col + n, cs := s.cs.drop n }

/-- The spot after the blanks. -/
def skipBlanks (s : Spot) : Spot :=
  s.drop (s.cs.takeWhile isBlank).length

/-- The first spot in some lines with anything but a comment. -/
def firstIn? : List (List Char) → Option Spot
  | [] => none
  | line :: more =>
    match line.dropWhile isBlank with
    | [] | '#' :: _ => firstIn? more
    | _ => some ⟨indentOf line, line.drop (indentOf line), more⟩

/-- Whether the line is over, but for a comment. `blank` tells that a blank
stands in front. -/
def isOver (s : Spot) (blank : Bool) : Bool :=
  match s.cs with
  | [] => true
  | c :: _ => (isBlank c || (blank && c = '#')) &&
      (match s.cs.dropWhile isBlank with
        | [] => true
        | c :: _ => c = '#')

/-- The next spot with anything but a comment, the line being over. -/
def next? (s : Spot) : Option Spot := firstIn? s.more

end Spot

/-- **What the reading keeps in mind.** -/
structure Memory where
  /-- The values that have a name. -/
  named : List (String × Json)
  /-- Whether the last line has no line break. -/
  lastOpen : Bool

/-- A reading that may fail. -/
abbrev Reader := StateT Memory Option

/-- A reading that fails. -/
def refuse {α : Type} : Reader α := fun _ => none

/-- What an optional value holds. -/
def need {α : Type} (a : Option α) : Reader α := fun m => a.map (·, m)

/-- Gives a value a name. -/
def name (anchor : Option String) (v : Json) : Reader Json := fun m =>
  match anchor with
  | some a => some (v, { m with named := (a, v) :: m.named })
  | none => some (v, m)

/-- The value of a name. -/
def lookUp (anchor : String) : Reader Json := fun m =>
  (m.named.lookup anchor).map (·, m)

/-! ## Names and tags -/

/-- **What stands in front of a value.** -/
structure Label where
  /-- The name that it is given. -/
  anchor : Option String
  /-- The tag that names its kind. -/
  tag : Option String

/-- Nothing in front of a value. -/
def Label.none : Label := ⟨.none, .none⟩

/-- The value of a text without quotes under a label. -/
def Label.resolve (l : Label) (s : String) : Option Json :=
  match l.tag with
  | .none => Yaml.resolve s
  | .some tag =>
    match tag.toList with
    | '!' :: '!' :: kind => resolveTagged (String.ofList kind) s
    | _ => some (.string s)

/-- Whether a character may stand in a name or a tag. -/
def isLabelChar (c : Char) : Bool := !isBlank c && !isFlowMark c

/-- The labels at a spot, and the spot after them; at most as many as
`fuel`. -/
def labels : Nat → Label → Spot → Label × Spot
  | 0, l, s => (l, s)
  | fuel + 1, l, s =>
    match s.cs with
    | '&' :: rest =>
      let word := rest.takeWhile isLabelChar
      labels fuel { l with anchor := String.ofList word } (s.drop (word.length + 1)).skipBlanks
    | '!' :: rest =>
      let word := rest.takeWhile isLabelChar
      labels fuel { l with tag := String.ofList ('!' :: word) }
        (s.drop (word.length + 1)).skipBlanks
    | _ => (l, s)

/-- The number of labels that a value can have. -/
def maxLabels : Nat := 2

/-! ## Between brackets -/

/-- The next spot between brackets with anything but a comment. On a new
line, it must not stand left of `least`. -/
def flowNext? (least : Nat) (s : Spot) : Option Spot :=
  let t := s.skipBlanks
  if t.isOver (s.col < t.col || t.col = 0) then
    t.next?.bind fun u =>
      let u := u.skipBlanks
      if least ≤ u.col then some u else none
  else some t

/-- A text in quotes at a spot after its opening mark, and the spot after
it. -/
def quotedAt (double : Bool) (s : Spot) : Reader (String × Spot) := do
  let (text, rest, more) ← need (quoted? double s.cs s.more)
  let col := if more.length = s.more.length then s.col + (s.cs.length - rest.length) else
    (s.more.drop (s.more.length - more.length - 1)).head?.elim 0 (·.length - rest.length)
  return (String.ofList text, ⟨col, rest, more⟩)

/-- The lines of a text without quotes between brackets, put together; at
most as many as `fuel`. -/
def flowPlain (least : Nat) : Nat → List Char → Spot → Reader (List Char × Spot)
  | 0, _, _ => refuse
  | fuel + 1, before, s => do
    let (text, rest) := plainSpan true true s.cs
    let text := trimEnd text
    let before := if before.isEmpty then text else fold before 0 text
    let s := s.drop (s.cs.length - rest.length)
    if !rest.isEmpty then return (before, s)
    else match flowNext? least s with
      | none => return (before, s)
      | some t =>
        if t.cs.head?.any fun c => isFlowMark c || c = ':' || c = '#' then return (before, s)
        else flowPlain least fuel before t

/-- The text that a value stands for as a key. -/
def keyText? : Json → Option String
  | .string s => some s
  | .int n => some (toString n)
  | .bool b => some (if b then "true" else "false")
  | _ => none

/-- Adds an entry to those before; no key comes twice. -/
def addEntry (entries : List (String × Json)) (key : String) (v : Json) :
    Reader (List (String × Json)) :=
  if (entries.lookup key).isSome then refuse else pure (entries ++ [(key, v)])

/-- The key of an entry from the text that is written: doubles stay as they
are written. -/
def plainKey? (s : String) : Option String :=
  if (integer? s).isNone && isDouble s then some s else (resolve s).bind keyText?

mutual

/-- **A value between brackets or braces, or a text**, and the spot after
it. -/
def flow? (least : Nat) : Nat → Spot → Reader (Json × Spot)
  | 0, _ => refuse
  | fuel + 1, s => do
    let (label, s) := labels maxLabels Label.none s
    match s.cs with
    | '[' :: _ =>
      let (items, s) ← flowItems least fuel (s.drop 1)
      return (← name label.anchor (.array items), s)
    | '\x7b' :: _ =>
      let (entries, s) ← flowEntries least fuel [] (s.drop 1)
      return (← name label.anchor (Json.ofMembers entries), s)
    | '"' :: _ =>
      let (text, s) ← quotedAt true (s.drop 1)
      return (← name label.anchor (.string text), s)
    | '\'' :: _ =>
      let (text, s) ← quotedAt false (s.drop 1)
      return (← name label.anchor (.string text), s)
    | '*' :: rest =>
      let word := rest.takeWhile isLabelChar
      return (← lookUp (String.ofList word), s.drop (word.length + 1))
    | cs =>
      if startsPlain true cs then
        let (text, s) ← flowPlain least fuel [] s
        let v ← need (label.resolve (String.ofList text))
        return (← name label.anchor v, s)
      else refuse

/-- The items of a list up to its bracket, and the spot after it. -/
def flowItems (least : Nat) : Nat → Spot → Reader (List Json × Spot)
  | 0, _ => refuse
  | fuel + 1, s => do
    let s ← need (flowNext? least s)
    match s.cs with
    | ']' :: _ => return ([], s.drop 1)
    | _ =>
      let (v, s) ← flow? least fuel s
      let s ← need (flowNext? least s)
      let (v, s) ← match s.cs with
        | ':' :: _ =>
          let key ← need (keyText? v)
          let (w, s) ← flowValue least fuel (s.drop 1)
          pure (Json.ofMembers [(key, w)], s)
        | _ => pure (v, s)
      match s.cs with
      | ',' :: _ =>
        let (items, s) ← flowItems least fuel (s.drop 1)
        return (v :: items, s)
      | ']' :: _ => return ([v], s.drop 1)
      | _ => refuse

/-- The value after a colon, and the spot before the comma or bracket that
follows it. -/
def flowValue (least : Nat) : Nat → Spot → Reader (Json × Spot)
  | 0, _ => refuse
  | fuel + 1, s => do
    let s ← need (flowNext? least s)
    match s.cs with
    | ',' :: _ | ']' :: _ | '\x7d' :: _ => return (.null, s)
    | _ =>
      let (v, s) ← flow? least fuel s
      return (v, ← need (flowNext? least s))

/-- The entries of a table up to its brace, and the spot after it. -/
def flowEntries (least : Nat) :
    Nat → List (String × Json) → Spot → Reader (List (String × Json) × Spot)
  | 0, _, _ => refuse
  | fuel + 1, entries, s => do
    let s ← need (flowNext? least s)
    match s.cs with
    | '\x7d' :: _ => return (entries, s.drop 1)
    | _ =>
      let (key, s) ← flow? least fuel s
      let key ← need (keyText? key)
      let s ← need (flowNext? least s)
      let (v, s) ← match s.cs with
        | ':' :: _ => flowValue least fuel (s.drop 1)
        | _ => pure (.null, s)
      let entries ← addEntry entries key v
      match s.cs with
      | ',' :: _ => flowEntries least fuel entries (s.drop 1)
      | '\x7d' :: _ => return (entries, s.drop 1)
      | _ => refuse

end

/-! ## By indentation -/

/-- Whether an item of a list begins here. -/
def isItem : List Char → Bool
  | '-' :: rest => isApart false rest
  | _ => false

/-- The key at the start of a line, and how many characters it takes with
its colon. -/
def key? (cs : List Char) : Option (String × Nat) :=
  let afterQuotes (double : Bool) (rest : List Char) : Option (String × Nat) :=
    match quotedLine? double 0 rest with
    | some (text, .closed rest) =>
      match rest.dropWhile isBlank with
      | ':' :: rest => if isApart false rest then
          some (String.ofList text, cs.length - rest.length) else none
      | _ => none
    | _ => none
  match cs with
  | '"' :: rest => afterQuotes true rest
  | '\'' :: rest => afterQuotes false rest
  | _ =>
    if startsPlain false cs then
      match plainSpan false false cs with
      | (text, ':' :: rest) =>
        (plainKey? (String.ofList (trimEnd text))).map fun key => (key, cs.length - rest.length)
      | _ => none
    else none

/-- The lines of a text without quotes, put together, and the next spot. A
line belongs to it if it does not stand left of `least`. -/
def plainLines (least : Nat) (before : List Char) (empties : Nat) :
    List (List Char) → Option (List Char × Option Spot)
  | [] => some (before, none)
  | line :: more =>
    let content := line.dropWhile isBlank
    if content.isEmpty then plainLines least before (empties + 1) more
    else if indentOf line < least || content.head? = some '#' then
      some (before, Spot.firstIn? (line :: more))
    else
      let (text, rest) := plainSpan false true content
      let together := fold before empties (trimEnd text)
      match rest with
      | [] => plainLines least together 0 more
      | '#' :: _ => some (together, Spot.firstIn? more)
      | _ => none

/-- A text without quotes at a spot, and the next spot. -/
def plain? (least : Nat) (s : Spot) : Option (List Char × Option Spot) :=
  if startsPlain false s.cs then
    let (text, rest) := plainSpan false false s.cs
    match rest with
    | [] => plainLines least (trimEnd text) 0 s.more
    | '#' :: _ => some (trimEnd text, s.next?)
    | _ => none
  else none

/-- A text in a block at a spot after its first mark, and the next spot. -/
def blockScalar (least : Nat) (folded : Bool) (s : Spot) : Reader (Json × Option Spot) :=
    fun m => do
  let h ← blockHeading? ⟨folded, none, .clip⟩ false s.cs
  let indent := match h.indent with
    | some n => least - 1 + n
    | none =>
      match s.more.find? fun line => !line.all (· = ' ') with
      | some line => max least (indentOf line)
      | none => least
  let (lines, rest) := blockLines indent s.more
  let text := blockText h lines (rest.isEmpty && m.lastOpen)
  return ((.string (String.ofList text), Spot.firstIn? rest), m)

/-- **A value that begins on the line of a spot** and is neither a list nor
a table by indentation; and the next spot. -/
def inline (least fuel : Nat) (label : Label) (s : Spot) : Reader (Json × Option Spot) := do
  match s.cs with
  | '|' :: _ =>
    let (v, next) ← blockScalar least false (s.drop 1)
    return (← name label.anchor v, next)
  | '>' :: _ =>
    let (v, next) ← blockScalar least true (s.drop 1)
    return (← name label.anchor v, next)
  | c :: _ =>
    if c = '[' || c = '\x7b' || c = '"' || c = '\'' || c = '*' then
      let (v, t) ← flow? (least - 1) fuel s
      if t.isOver false then return (← name label.anchor v, t.next?) else refuse
    else
      let (text, next) ← need (plain? least s)
      let v ← need (label.resolve (String.ofList text))
      return (← name label.anchor v, next)
  | [] => refuse

mutual

/-- **A value at the next spot** that does not stand left of `least`, and
the spot after it. If there is none there, the value is null. -/
def block? (least : Nat) : Nat → Option Spot → Reader (Json × Option Spot)
  | 0, _ => refuse
  | _ + 1, none => return (.null, none)
  | fuel + 1, some s =>
    if s.col < least then return (.null, some s)
    else if isItem s.cs then do
      let (items, next) ← list? s.col fuel (some s)
      return (.array items, next)
    else if (key? s.cs).isSome then do
      let (entries, next) ← table? s.col fuel [] (some s)
      return (Json.ofMembers entries, next)
    else do
      let (label, t) := labels maxLabels Label.none s
      if t.col = s.col then inline least fuel label t
      else if t.isOver true then
        let (v, next) ← block? least fuel t.next?
        return (← name label.anchor v, next)
      else inline least fuel label t

/-- The items of a list in a column, and the next spot. -/
def list? (col : Nat) : Nat → Option Spot → Reader (List Json × Option Spot)
  | 0, _ => refuse
  | _ + 1, none => return ([], none)
  | fuel + 1, some s =>
    if s.col < col then return ([], some s)
    else if col < s.col then refuse
    else if isItem s.cs then do
      let t := (s.drop 1).skipBlanks
      let (item, next) ← block? (col + 1) fuel (if t.isOver true then t.next? else some t)
      let (items, next) ← list? col fuel next
      return (item :: items, next)
    else return ([], some s)

/-- The entries of a table in a column, and the next spot. -/
def table? (col : Nat) :
    Nat → List (String × Json) → Option Spot → Reader (List (String × Json) × Option Spot)
  | 0, _, _ => refuse
  | _ + 1, entries, none => return (entries, none)
  | fuel + 1, entries, some s =>
    if s.col < col then return (entries, some s)
    else if col < s.col then refuse
    else do
      let (key, length) ← need (key? s.cs)
      let (v, next) ← entry? col fuel (s.drop length)
      table? col fuel (← addEntry entries key v) next

/-- The value of an entry in a column, after its colon, and the next
spot. A list may stand in the column of the key. -/
def entry? (col : Nat) : Nat → Spot → Reader (Json × Option Spot)
  | 0, _ => refuse
  | fuel + 1, s => do
    let s := s.skipBlanks
    let (label, t) := labels maxLabels Label.none s
    if t.isOver true then
      let next := t.next?
      let least := if next.any fun u => u.col = col && isItem u.cs then col else col + 1
      match next with
      | some u =>
        if u.col < least then return (← name label.anchor ((label.resolve "").getD .null), next)
        else
          let (v, next) ← block? least fuel next
          return (← name label.anchor v, next)
      | none => return (← name label.anchor ((label.resolve "").getD .null), none)
    else inline (col + 1) fuel label t

end

/-! ## Files -/

/-- The lines of a text. -/
def splitLines : List Char → List (List Char)
  | [] => [[]]
  | '\r' :: '\n' :: rest => [] :: splitLines rest
  | c :: rest =>
    if c = '\n' || c = '\r' then [] :: splitLines rest
    else match splitLines rest with
      | line :: more => (c :: line) :: more
      | [] => [[c]]

/-- A value of a file, as its lines; `marked` tells that a mark stands in
front of it, and `first` is what follows the mark. -/
structure Part where
  /-- Whether a mark stands in front. -/
  marked : Bool
  /-- What follows the mark on its line. -/
  first : List Char
  /-- The lines. -/
  lines : List (List Char)

/-- Whether a line is a mark, and what follows it. -/
def marker? (mark : String) (line : List Char) : Option (List Char) :=
  let rest := line.drop mark.length
  if line.take mark.length = mark.toList && isApart false rest then some rest else none

/-- Splits the lines of a file into its values. -/
def splitParts : List (List Char) → List Part
  | [] => [⟨false, [], []⟩]
  | line :: more =>
    match splitParts more with
    | [] => []
    | part :: parts =>
      match marker? "---" line with
      | some first => ⟨false, [], []⟩ :: ⟨true, first, part.lines⟩ :: parts
      | none =>
        match marker? "..." line with
        | some _ => ⟨false, [], []⟩ :: part :: parts
        | none => { part with lines := line :: part.lines } :: parts

/-- Whether a line gives directions to the reader. -/
def isDirective (line : List Char) : Bool := line.head? = some '%'

/-- Whether a part holds a value: one with a mark does, also if it is
empty. -/
def Part.isThere (p : Part) : Bool :=
  p.marked || (Spot.firstIn? (p.lines.filter (!isDirective ·))).isSome

/-- The value of a part. -/
def Part.value? (p : Part) (fuel : Nat) (lastOpen : Bool) : Option Json := do
  let start : Spot := ⟨"---".length, p.first, p.lines⟩
  let read : Reader (Json × Option Spot) :=
    if p.marked && !start.isOver true then
      let (label, t) := labels maxLabels Label.none start.skipBlanks
      inline 0 fuel label t
    else block? 0 fuel (Spot.firstIn? p.lines)
  match ← read.run ⟨[], lastOpen⟩ with
  | ((v, none), _) => some v
  | _ => none

/-- **The value of a text.** An empty file is an empty table; a file of
several values has none. -/
def ofText? (s : String) : Option Json :=
  let lines := splitLines s.toList
  let lastOpen := lines.getLast?.any (!·.isEmpty)
  let lines := if lastOpen then lines else lines.dropLast
  match (splitParts lines).filter Part.isThere with
  | [] => some (.object [])
  | [part] => part.value? (4 * s.length + 8) lastOpen
  | _ => none

end Liveboard.Yaml
