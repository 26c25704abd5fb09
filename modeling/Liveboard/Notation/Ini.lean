import Liveboard.Json.Value
import Liveboard.Text.Blank
import Liveboard.Text.CodePoint

/-!
# Settings in sections of lines

A file of lines `key = value`, in sections whose names stand between
brackets. All values are texts, and what a text means is left to the
settings. A value may be quoted, as a whole or at its start, and a backslash
escapes what follows it, in keys and names too. A comment takes a line of
its own.

The reading is a machine that takes one character at a time (`Ini.step`),
since a quote or a backslash carries over from one character to the next
and, at the end of a line, to the next line.
-/

namespace Liveboard.Ini

/-- What a backslash does to the characters that follow it. -/
inductive Escape where
  /-- Nothing. -/
  | none
  /-- The next one is escaped. -/
  | started
  /-- The next ones are digits of a code point. -/
  | digits (read : List Char)
  /-- Spaces at the start of the next line are left out. -/
  | newLine
  deriving DecidableEq

/-- A text that is being read, backwards. -/
structure Scrap where
  /-- The characters so far. -/
  chars : List Char
  /-- What escapes the next one. -/
  escape : Escape

namespace Scrap

/-- Nothing read yet. -/
def empty : Scrap := ⟨[], .none⟩

/-- The text. -/
def text (s : Scrap) : List Char := s.chars.reverse

/-- The character that a letter stands for after a backslash. -/
def named (c : Char) : Char :=
  match c with
  | '0' => Char.ofNat 0
  | 'a' => Char.ofNat 7
  | 'b' => Char.ofNat 8
  | 't' => '\t'
  | 'r' => '\r'
  | 'n' => '\n'
  | c => c

/-- The number of digits of a code point. -/
def codeDigits : Nat := 4

/-- A text with one more character; none if the character is no digit of a
code point where one is due. -/
def push? (s : Scrap) (c : Char) : Option Scrap :=
  match s.escape with
  | .none => some (if c = '\\' then ⟨s.chars, .started⟩ else ⟨c :: s.chars, .none⟩)
  | .started =>
    some (if c = 'x' then ⟨s.chars, .digits []⟩
      else if c = '\n' then ⟨s.chars, .newLine⟩
      else ⟨named c :: s.chars, .none⟩)
  | .digits read =>
    let read := c :: read
    if read.length < codeDigits then some ⟨s.chars, .digits read⟩
    else (CodePoint.ofDigits? read.reverse).map fun c => ⟨c :: s.chars, .none⟩
  | .newLine =>
    some (if c = ' ' || c = '\t' then s
      else if c = '\\' then ⟨s.chars, .started⟩ else ⟨c :: s.chars, .none⟩)

/-- Whether the next character can end the text. -/
def canEnd (s : Scrap) : Bool :=
  match s.escape with
  | .none | .newLine => true
  | _ => false

end Scrap

/-- Where in the file the machine is. -/
inductive Place where
  /-- Between two things. -/
  | between
  /-- In a comment. -/
  | comment
  /-- In the name of a section. -/
  | name (s : Scrap)
  /-- In a key. -/
  | key (s : Scrap)
  /-- Before a value. -/
  | beforeValue (key : String)
  /-- In a quoted part of a value, after other parts. -/
  | quoted (key : String) (before : List Char) (quote : Char) (s : Scrap)
  /-- Right after a quoted part. -/
  | afterQuote (key : String) (before : List Char)
  /-- In the unquoted rest of a value; `whole` tells that nothing was
  quoted before. -/
  | plain (key : String) (before : List Char) (whole : Bool) (s : Scrap)

/-- **The machine.** -/
structure Machine where
  /-- The keys and values before the first section. -/
  general : List (String × Json)
  /-- The sections, the current one first. -/
  sections : List (String × List (String × Json))
  /-- Where in the file it is. -/
  place : Place
  /-- Whether the next character is the first of its line. -/
  lineStart : Bool

namespace Machine

/-- The machine at the start of a file. -/
def start : Machine := ⟨[], [], .between, true⟩

/-- The machine at another place. -/
def goTo (m : Machine) (place : Place) : Machine := { m with place := place }

/-- The machine after a value has ended. -/
def addValue (m : Machine) (key : String) (value : List Char) : Machine :=
  let entry := (key, Json.string (String.ofList value))
  match m.sections with
  | [] => { m with general := m.general ++ [entry], place := .between }
  | (name, entries) :: rest =>
    { m with sections := (name, entries ++ [entry]) :: rest, place := .between }

/-- The machine after the name of a section has ended. -/
def addSection (m : Machine) (name : List Char) : Machine :=
  { m with
    sections := (Blank.trim (String.ofList name), []) :: m.sections
    place := .between }

/-- A text without the white space at its end. -/
def trimEnd (cs : List Char) : List Char :=
  (cs.reverse.dropWhile Blank.isBlank).reverse

/-- The unquoted rest of a value. -/
def finishPlain (before : List Char) (whole : Bool) (s : Scrap) : List Char :=
  before ++ if whole then Blank.stripList Blank.isBlank s.text else trimEnd s.text

/-- Whether a character ends a line. -/
def endsLine (c : Char) : Bool := c = '\n' || c = '\r'

/-- Whether a character quotes. -/
def isQuote (c : Char) : Bool := c = '"' || c = '\''

/-- One character of the unquoted rest of a value. -/
def stepPlain (m : Machine) (key : String) (before : List Char) (whole : Bool) (s : Scrap)
    (c : Char) : Option Machine :=
  if s.canEnd && endsLine c then some (m.addValue key (finishPlain before whole s))
  else (s.push? c).map fun s => m.goTo (.plain key before whole s)

/-- One character between two things. -/
def stepBetween (m : Machine) (c : Char) : Option Machine :=
  if Blank.isBlank c then some m
  else if c = ';' || c = '#' then if m.lineStart then some (m.goTo .comment) else none
  else if c = '[' then some (m.goTo (.name .empty))
  else if c = '=' || c = ':' then none
  else (Scrap.empty.push? c).map fun s => m.goTo (.key s)

/-- **One character**, wherever the machine is. -/
def stepAt (m : Machine) (c : Char) : Option Machine :=
  match m.place with
  | .between => m.stepBetween c
  | .comment => some (if c = '\n' then m.goTo .between else m)
  | .name s =>
    if s.canEnd && c = ']' then some (m.addSection s.text)
    else (s.push? c).map fun s => m.goTo (.name s)
  | .key s =>
    if s.canEnd && (c = '=' || c = ':') then
      let key := Blank.trim (String.ofList s.text)
      if key = "" then none else some (m.goTo (.beforeValue key))
    else (s.push? c).map fun s => m.goTo (.key s)
  | .beforeValue key =>
    if endsLine c then some (m.addValue key [])
    else if Blank.isBlank c then some m
    else if isQuote c then some (m.goTo (.quoted key [] c .empty))
    else m.stepPlain key [] true .empty c
  | .quoted key before quote s =>
    if s.canEnd && c = quote then some (m.goTo (.afterQuote key (before ++ s.text)))
    else (s.push? c).map fun s => m.goTo (.quoted key before quote s)
  | .afterQuote key before =>
    if isQuote c then some (m.goTo (.quoted key before c .empty))
    else m.stepPlain key before false .empty c
  | .plain key before whole s => m.stepPlain key before whole s c

/-- One character. -/
def step (m : Machine) (c : Char) : Option Machine :=
  (m.stepAt c).map fun m => { m with lineStart := c = '\n' }

/-- The machine at the end of a file, if the file may end there. -/
def finish? (m : Machine) : Option Machine :=
  match m.place with
  | .between | .comment => some m
  | .beforeValue key => some (m.addValue key [])
  | .afterQuote key before => some (m.addValue key before)
  | .plain key before whole s =>
    if s.canEnd then some (m.addValue key (finishPlain before whole s)) else none
  | .name _ | .key _ | .quoted .. => none

/-- What a file says: the keys before the first section, and one object for
each section. -/
def value (m : Machine) : Json :=
  Json.ofMembers (m.general ++ m.sections.reverse.map fun (name, entries) =>
    (name, Json.ofMembers entries))

end Machine

/-- **The value of a text.** -/
def ofText? (s : String) : Option Json := do
  let m ← s.toList.foldlM Machine.step .start
  return (← m.finish?).value

end Liveboard.Ini
