import Liveboard.Notation.Toml.Scalar
import Liveboard.Notation.Toml.Table

/-!
# Settings by tables

A file of lines `key = value`, under headings that name the table that the
keys belong to. Values may be lists and tables again, and a list may go on
over several lines, so a line (`Toml.line?`) ends where its value has ended
and not at the next line break. `Toml.ofText?` takes the lines one after the
other and keeps the table that the last heading named.
-/

namespace Liveboard.Toml

/-- A text without the blanks at its start. -/
def skipBlanks (cs : List Char) : List Char :=
  cs.dropWhile fun c => c = ' ' || c = '\t'

/-- A text without blanks, comments and line breaks at its start. -/
def skipLines? (inComment : Bool) : List Char → Option (List Char)
  | [] => some []
  | '\r' :: '\n' :: rest => skipLines? false rest
  | c :: rest =>
    if c = '\n' then skipLines? false rest
    else if inComment then if isPlain c then skipLines? true rest else none
    else if c = '#' then skipLines? true rest
    else if c = ' ' || c = '\t' then skipLines? false rest
    else some (c :: rest)

/-! ## Keys -/

/-- Whether a character may stand in a key without quotes. -/
def isKeyChar (c : Char) : Bool :=
  c.isAlphanum || c = '_' || c = '-'

/-- One part of a key, and what follows it. -/
def keyPart? (cs : List Char) : Option (String × List Char) :=
  match cs with
  | '"' :: rest => (quoted? 0 rest).map fun (text, rest) => (String.ofList text, rest)
  | '\'' :: rest => (literal? rest).map fun (text, rest) => (String.ofList text, rest)
  | _ =>
    let name := cs.takeWhile isKeyChar
    if name.isEmpty then none else some (String.ofList name, cs.dropWhile isKeyChar)

/-- The parts of a key between dots, and what follows them; at most as many
as `fuel`. -/
def key? : Nat → List Char → Option (List String × List Char)
  | 0, _ => none
  | fuel + 1, cs => do
    let (part, rest) ← keyPart? (skipBlanks cs)
    match skipBlanks rest with
    | '.' :: rest =>
      let (parts, rest) ← key? fuel rest
      return (part :: parts, rest)
    | rest => return ([part], rest)

/-! ## Values -/

mutual

/-- **A value at the start of a text, and what follows it.** Each call
inside takes from `fuel`, which is never more than the text is long. -/
def value? : Nat → List Char → Option (Json × List Char)
  | 0, _ => none
  | fuel + 1, cs =>
    match cs with
    | '[' :: rest => (items? fuel rest).map fun (items, rest) => (.array items, rest)
    | '\x7b' :: rest => (members? fuel [] rest).map fun (entries, rest) => (entries.toJson, rest)
    | c :: _ =>
      if c = '"' || c = '\'' then
        (text? cs).map fun (text, rest) => (.string (String.ofList text), rest)
      else
        let (bare, rest) := splitBare cs
        (bare? bare).map fun v => (v, rest)
    | [] => none

/-- The items of a list up to its end, and what follows them. -/
def items? : Nat → List Char → Option (List Json × List Char)
  | 0, _ => none
  | fuel + 1, cs => do
    match ← skipLines? false cs with
    | ']' :: rest => return ([], rest)
    | cs =>
      let (item, rest) ← value? fuel cs
      match ← skipLines? false rest with
      | ',' :: rest =>
        let (items, rest) ← items? fuel rest
        return (item :: items, rest)
      | ']' :: rest => return ([item], rest)
      | _ => none

/-- The entries of a table between braces up to its end, and what follows
them. -/
def members? : Nat → Entries → List Char → Option (Entries × List Char)
  | 0, _, _ => none
  | fuel + 1, entries, cs => do
    match ← skipLines? false cs with
    | '\x7d' :: rest => return (entries, rest)
    | cs =>
      let (path, rest) ← key? fuel cs
      let (v, rest) ← value? fuel (skipBlanks (← after? '=' rest))
      let entries ← entries.assign? v path
      match ← skipLines? false rest with
      | ',' :: rest => members? fuel entries rest
      | '\x7d' :: rest => return (entries, rest)
      | _ => none

end

/-! ## Lines -/

/-- **A file so far**: the tables, and the path of the current one. -/
structure Progress where
  /-- The tables. -/
  root : Entries
  /-- The heading that the next keys belong to. -/
  heading : List String

/-- What follows the end of a line, after blanks and a comment. -/
def lineEnd? (cs : List Char) : Option (List Char) :=
  match skipBlanks cs with
  | [] => some []
  | '\n' :: rest => some rest
  | '\r' :: '\n' :: rest => some rest
  | '#' :: rest =>
    let comment := rest.takeWhile (· ≠ '\n')
    let text := match comment.getLast? with
      | some '\r' => if comment.length < rest.length then comment.dropLast else comment
      | _ => comment
    if text.all isPlain then some ((rest.drop comment.length).drop 1) else none
  | _ => none

/-- A line of a file, and what follows it. -/
def line? (p : Progress) (cs : List Char) : Option (Progress × List Char) :=
  let fuel := cs.length + 1
  match cs with
  | '[' :: '[' :: rest => do
    let (path, rest) ← key? fuel rest
    let rest ← after? ']' (← after? ']' rest)
    let root ← p.root.openItem? path
    return (⟨root, path⟩, ← lineEnd? rest)
  | '[' :: rest => do
    let (path, rest) ← key? fuel rest
    let rest ← after? ']' rest
    let root ← p.root.openTable? path
    return (⟨root, path⟩, ← lineEnd? rest)
  | _ => do
    let (path, rest) ← key? fuel cs
    let (v, rest) ← value? fuel (skipBlanks (← after? '=' rest))
    let root ← p.root.changeUnder? (Entries.assign? v path) p.heading
    return (⟨root, p.heading⟩, ← lineEnd? rest)

/-- The tables of a file; at most as many lines as `fuel`. -/
def document? : Nat → Progress → List Char → Option Entries
  | 0, _, _ => none
  | fuel + 1, p, cs => do
    match ← skipLines? false cs with
    | [] => return p.root
    | cs =>
      let (p, rest) ← line? p cs
      document? fuel p rest

/-- **The value of a text.** -/
def ofText? (s : String) : Option Json :=
  let cs := s.toList
  (document? (cs.length + 1) ⟨[], []⟩ cs).map Entries.toJson

end Liveboard.Toml
