import Liveboard.Settings.Loading

/-!
# A folder of files

The files that a command finds where it runs, and the one that it writes.
There are no folders but those that files are in. Two paths lead to the same
file if they have the same names on them, so `Folder.text?`,
`Folder.contains` and `Folder.write?` all go by `Folder.names?`, and a path
that leads out of the folder leads to nothing.
-/

namespace Liveboard

/-- **A folder**: the texts of files by path. -/
structure Folder where
  /-- The files. -/
  files : List (String × String)

namespace Folder

/-- The names on a path below the folder; none if it leads elsewhere. -/
def names? (path : String) : Option (List String) :=
  if path.startsWith "/" || path = "" then none
  else (path.splitOn "/").foldlM (fun names name =>
    if name = "" || name = "." then some names
    else if name = ".." then if names.isEmpty then none else some names.dropLast
    else some (names ++ [name])) []

/-- The text of the file of a path. -/
def text? (f : Folder) (path : String) : Option String := do
  let names ← names? path
  if names.isEmpty then none
  else (f.files.find? fun (p, _) => names? p = some names).map (·.2)

/-- Whether some names lead to a folder. -/
def isFolder (f : Folder) (names : List String) : Bool :=
  names.isEmpty || f.files.any fun (p, _) =>
    (names? p).any fun other => names.isPrefixOf other && names ≠ other

/-- **Whether there is anything at a path.** -/
def contains (f : Folder) (path : String) : Bool :=
  (f.text? path).isSome || (names? path).any f.isFolder

/-- **The folder with a file written.** The folder that the file is in must
be there. -/
def write? (f : Folder) (path text : String) : Option Folder := do
  let names ← names? path
  if !f.isFolder names && f.isFolder names.dropLast then
    some ⟨(path, text) :: f.files.filter fun (p, _) => names? p ≠ some names⟩
  else none

/-- **A file of settings.** If there is none of its name, one with the
ending of its notation will do. -/
def settings (f : Folder) (path : String) : SettingsFile :=
  let candidates := path :: (FileNotation.ofPath path).endings.map fun e => path ++ "." ++ e
  ⟨path, candidates.findSome? f.text?⟩

end Folder

end Liveboard
