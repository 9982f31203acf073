/-!
# Paths as text

Paths are kept as the author writes them: nothing is resolved and nothing is tidied up.

* `FilePath.join` — a path seen from a directory.
* `FilePath.parent?`, `FilePath.extension?` — parts of a path.
* `FilePath.isSame` — whether two paths are the same part by part.
-/

namespace Cartridge.FilePath

/-- Whether a path starts at the root. -/
def isAbsolute (path : String) : Bool := path.startsWith "/"

/-- A path seen from a directory. A path that starts at the root stays as it is, and an empty one
still gets its separator. -/
def join (directory path : String) : String :=
  if isAbsolute path then path
  else if directory.isEmpty || directory.endsWith "/" then directory ++ path
  else directory ++ "/" ++ path

/-- What stands between the separators of a path, which is nothing between two in a row. -/
def pieces (path : String) : List String := (path.toList.splitOn '/').map String.ofList

/-- The names of a path. -/
def names (path : String) : List String := (pieces path).filter fun name => !name.isEmpty

/-- The parts of what is left of a path after a text, with the text before each of them. -/
def partsAfter (before : String) : (left : List String) → List (String × String)
  | [] => []
  | piece :: left =>
    let later := partsAfter (before ++ piece ++ "/") left
    if piece.isEmpty || (piece == "." && !before.isEmpty) then later else (before, piece) :: later

/-- The parts of a path between separators, with what leads up to each of them: the text of the path
before it. Empty parts and single points are left out, but for a point at the beginning. -/
def parts (path : String) : List (String × String) := partsAfter "" (pieces path)

/-- The text without separators and single points at its end. The separator of the root stays. -/
def trimmed (path : String) : String :=
  match (parts path).getLast? with
  | some (before, part) => before ++ part
  | none => if isAbsolute path then "/" else ""

/-- The last part of a path, unless it leads upwards or nowhere. -/
def fileName? (path : String) : Option String :=
  match (parts path).getLast? with
  | some (_, part) => if part = ".." ∨ part = "." then none else some part
  | none => none

/-- The path without its last part. The root and the empty path have no parent. -/
def parent? (path : String) : Option String :=
  match (parts path).getLast? with
  | some (before, _) => some (trimmed before)
  | none => none

/-- What follows the last point of the file name, if something stands before that point. -/
def extension? (path : String) : Option String := do
  let name ← fileName? path
  let pieces := name.splitOn "."
  if pieces.length < 2 ∨ (pieces.length = 2 ∧ pieces.head? = some "") then none
  else pieces.getLast?

/-- Whether two paths have the same parts. -/
def isSame (first second : String) : Bool :=
  isAbsolute first == isAbsolute second
    && (parts first).map Prod.snd == (parts second).map Prod.snd

end Cartridge.FilePath
