import Liveboard.Json.Value

/-!
# Tables under construction

A file of tables defines each table and each key once. What counts as a
second definition depends on how a table came about: by a heading, because
a heading below it needed it, or through a key with dots. A heading may
still define a table that was only needed; a key with dots may go on with a
table of keys with dots.

So a `Node` remembers how it came about, and the three ways to go on with a
table – `Entries.assign?`, `Entries.openTable?` and `Entries.openItem?` –
fail where it does not allow them. `Entries.toJson` forgets that again.
-/

namespace Liveboard.Toml

/-- How a table came about. -/
inductive Origin where
  /-- By a heading of its own. -/
  | heading
  /-- Because a heading below it needed it. -/
  | needed
  /-- Through a key with dots. -/
  | dotted
  deriving DecidableEq, Repr

/-- **A part of a table.** -/
inductive Node where
  /-- A finished value. -/
  | value (v : Json)
  /-- A table that may still grow. -/
  | table (origin : Origin) (entries : List (String × Node))
  /-- A list of tables, the last one first; that one may still grow. -/
  | tables (items : List (List (String × Node)))

/-- A table under construction. -/
abbrev Entries := List (String × Node)

namespace Entries

/-- The table with another part under a key. -/
def put (key : String) (node : Node) : Entries → Entries
  | [] => [(key, node)]
  | (k, n) :: rest => if key = k then (k, node) :: rest else (k, n) :: put key node rest

/-- **The table with a value for a key**, which may have dots. -/
def assign? (value : Json) : List String → Entries → Option Entries
  | [], _ => none
  | [key], entries =>
    match entries.lookup key with
    | none => some (put key (.value value) entries)
    | some _ => none
  | key :: next :: path, entries =>
    match entries.lookup key with
    | none => (assign? value (next :: path) []).map fun inner =>
      put key (.table .dotted inner) entries
    | some (.table origin inner) =>
      if origin = .heading || (origin = .needed && path.isEmpty) then none
      else (assign? value (next :: path) inner).map fun inner =>
        put key (.table origin inner) entries
    | some _ => none

/-- The table with the table under a path changed. Tables on the way are
made where they are missing; of a list of tables, the last is taken. -/
def changeUnder? (change : Entries → Option Entries) : List String → Entries → Option Entries
  | [], entries => change entries
  | key :: path, entries =>
    match entries.lookup key with
    | none => (changeUnder? change path []).map fun inner =>
      put key (.table .needed inner) entries
    | some (.table origin inner) => (changeUnder? change path inner).map fun inner =>
      put key (.table origin inner) entries
    | some (.tables (last :: before)) => (changeUnder? change path last).map fun last =>
      put key (.tables (last :: before)) entries
    | some _ => none

/-- The table with a new table under a key. -/
def define? (key : String) (entries : Entries) : Option Entries :=
  match entries.lookup key with
  | none => some (put key (.table .heading []) entries)
  | some (.table .needed inner) => some (put key (.table .heading inner) entries)
  | some _ => none

/-- The table with one more table in the list under a key. -/
def append? (key : String) (entries : Entries) : Option Entries :=
  match entries.lookup key with
  | none => some (put key (.tables [[]]) entries)
  | some (.tables items) => some (put key (.tables ([] :: items)) entries)
  | some _ => none

/-- What a heading does to the table that it is about. -/
def underLast? (change : String → Entries → Option Entries) (path : List String)
    (entries : Entries) : Option Entries :=
  match path.getLast? with
  | some key => changeUnder? (change key) path.dropLast entries
  | none => none

/-- **The table with the table of a heading.** -/
def openTable? : List String → Entries → Option Entries := underLast? define?

/-- **The table with the list item of a heading.** -/
def openItem? : List String → Entries → Option Entries := underLast? append?

mutual

/-- The finished value of a part. -/
def nodeToJson : Node → Json
  | .value v => v
  | .table _ entries => Json.ofMembers (entriesToMembers entries)
  | .tables items => .array (itemsToJson items).reverse

/-- The members of a finished table. -/
def entriesToMembers : List (String × Node) → List (String × Json)
  | [] => []
  | (key, node) :: rest => (key, nodeToJson node) :: entriesToMembers rest

/-- The finished tables of a list. -/
def itemsToJson : List (List (String × Node)) → List Json
  | [] => []
  | item :: rest => Json.ofMembers (entriesToMembers item) :: itemsToJson rest

end

/-- **The finished table.** -/
def toJson (entries : Entries) : Json :=
  Json.ofMembers (entriesToMembers entries)

end Entries

end Liveboard.Toml
