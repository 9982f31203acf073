import Cartridge.FileSystem.Basic
import Cartridge.Text.FilePath

/-!
# Following paths

A path is followed name by name from a directory. On the way every symbolic link is followed, and
the last name is if the caller wants it to be. No more than 40 links are followed.

* `FileSystem.locate` — the location that a path leads to, whether or not something is there.
* `FileSystem.entry` — the last name of a path, and the directory that it is looked up in.
-/

namespace Cartridge.FileSystem

/-- The greatest number of links that are followed. -/
def linkLimit : Nat := 40

/-- The greatest number of bytes in a name. -/
def nameLimit : Nat := 255

/-- The number of bytes from which on a path is too long. -/
def pathLimit : Nat := 4096

/-- The names of a path. A separator at its end asks for a directory, as a point does. -/
def pathNames (path : String) : List String :=
  let names := FilePath.names path
  if path.endsWith "/" then names ++ ["."] else names

/-- Follows names from a directory on, and at most so many links. -/
def walk (files : FileSystem) (follow : Bool) (links : Nat) (directory : Location) :
    List String → Except FileError Location
  | [] => .ok directory
  | name :: rest =>
    if name = "." then files.walk follow links directory rest
    else if name = ".." then files.walk follow links directory.tail rest
    else if nameLimit < name.utf8ByteSize then .error .nameTooLong
    else
      match files.node? (name :: directory) with
      | none => if rest.isEmpty then .ok (name :: directory) else .error .notFound
      | some .directory => files.walk follow links (name :: directory) rest
      | some (.file _) => if rest.isEmpty then .ok (name :: directory) else .error .notDirectory
      | some (.link target) =>
        if rest.isEmpty && !follow then .ok (name :: directory)
        else
          match links with
          | 0 => .error .tooManyLinks
          | links + 1 =>
            files.walk follow links (if target.startsWith "/" then [] else directory)
              (pathNames target ++ rest)
termination_by names => (links, names.length)

/-- Where a path begins, if it can be followed at all. -/
def origin (here : Location) (path : String) : Except FileError Location :=
  if path.contains '\x00' then .error .badPath
  else if path.isEmpty then .error .notFound
  else if pathLimit ≤ path.utf8ByteSize then .error .nameTooLong
  else .ok (if path.startsWith "/" then [] else here)

/-- The location that a path leads to from a directory. -/
def locate (files : FileSystem) (follow : Bool) (here : Location) (path : String) :
    Except FileError Location := do
  files.walk follow linkLimit (← origin here path) (pathNames path)

/-- The last name of a path. -/
structure Entry where
  /-- The directory that the name is looked up in. -/
  directory : Location
  name : String
  /-- Whether a separator follows the name. -/
  isSlashed : Bool

/-- The location of an entry, if its name is that of something. -/
def Entry.place? (entry : Entry) : Option Location :=
  if entry.name = "." ∨ entry.name = ".." then none else some (entry.name :: entry.directory)

/-- The last name of a path, which is not followed. The root has none; it is taken for a point. -/
def entry (files : FileSystem) (here : Location) (path : String) : Except FileError Entry := do
  let start ← origin here path
  let names := FilePath.names path
  let directory ← files.walk true linkLimit start (names.dropLast.flatMap fun name => [name, "."])
  return ⟨directory, names.getLastD ".", path.endsWith "/"⟩

/-- What a path leads to, and where it is. -/
def find (files : FileSystem) (follow : Bool) (here : Location) (path : String) :
    Except FileError (Location × Node) := do
  let place ← files.locate follow here path
  match files.node? place with
  | some node => return (place, node)
  | none => throw .notFound

end Cartridge.FileSystem
