import Cartridge.FileSystem.Path

/-!
# Reading and changing what is stored

Paths are followed from a directory, which each operation is given.

* `FileSystem.read`, `FileSystem.list`, `FileSystem.isPresent` — what is found.
* `FileSystem.write`, `FileSystem.createDirectory`, `FileSystem.createLink` — what is added.
* `FileSystem.removeFile`, `FileSystem.removeDirectory` — what is taken away.
-/

namespace Cartridge.FileSystem

/-- The bytes of a file. -/
def read (files : FileSystem) (here : Location) (path : String) : Except FileError ByteArray := do
  match (← files.find true here path).2 with
  | .file contents => return contents
  | .directory => throw .isDirectory
  | .link _ => throw .tooManyLinks

/-- The text of a file. -/
def readText (files : FileSystem) (here : Location) (path : String) : Except FileError String := do
  let contents ← files.read here path
  match String.fromUTF8? contents with
  | some text => return text
  | none => throw .notText

/-- Whether a path leads to something. -/
def isPresent (files : FileSystem) (here : Location) (path : String) : Bool :=
  (files.find true here path).isOk

/-- Whether a path leads to a directory. -/
def isDirectory (files : FileSystem) (here : Location) (path : String) : Bool :=
  match files.find true here path with
  | .ok (_, node) => node.isDirectory
  | .error _ => false

/-- The location of a directory. -/
def directory (files : FileSystem) (here : Location) (path : String) :
    Except FileError Location := do
  match ← files.find true here path with
  | (place, .directory) => return place
  | _ => throw .notDirectory

/-- Writes a file in place of what was in it. -/
def write (files : FileSystem) (here : Location) (path : String) (contents : ByteArray) :
    Except FileError FileSystem := do
  if (← files.entry here path).isSlashed then throw .isDirectory
  let place ← files.locate true here path
  match files.node? place with
  | some .directory => throw .isDirectory
  | some (.link _) => throw .tooManyLinks
  | some (.file _) | none => return files.put place (.file contents)

/-- A path without the separators at its end. -/
def withoutSlashes (path : String) : String :=
  String.ofList (path.toList.reverse.dropWhile (· == '/')).reverse

/-- Creates a directory where nothing is. -/
def createDirectory (files : FileSystem) (here : Location) (path : String) :
    Except FileError FileSystem := do
  let place ← files.locate false here
    (if path.any (· != '/') then withoutSlashes path else path)
  match files.node? place with
  | some _ => throw .alreadyExists
  | none => return files.put place .directory

/-- Creates a symbolic link where nothing is. -/
def createLink (files : FileSystem) (here : Location) (target path : String) :
    Except FileError FileSystem := do
  if target.contains '\x00' then throw .badPath
  if target.isEmpty then throw .notFound
  let entry ← files.entry here path
  match entry.place? with
  | none => throw .alreadyExists
  | some place =>
    if nameLimit < entry.name.utf8ByteSize then throw .nameTooLong
    if (files.node? place).isSome then throw .alreadyExists
    if entry.isSlashed then throw .notFound
    return files.put place (.link target)

/-- Removes a file or a link. -/
def removeFile (files : FileSystem) (here : Location) (path : String) :
    Except FileError FileSystem := do
  match ← files.find false here path with
  | (_, .directory) => throw .isDirectory
  | (place, _) => return files.erase place

/-- Removes an empty directory. It must be called by a name of its own. -/
def removeDirectory (files : FileSystem) (here : Location) (path : String) :
    Except FileError FileSystem := do
  let entry ← files.entry here path
  match entry.place? with
  | none => throw (if entry.name = ".." then .notEmpty else .invalidArgument)
  | some place =>
    match files.node? place with
    | some .directory =>
      if (files.names place).isEmpty then return files.erase place else throw .notEmpty
    | some (.file _) | some (.link _) => throw .notDirectory
    | none => throw .notFound

/-- The names of what is in a directory, in their order. -/
def list (files : FileSystem) (here : Location) (path : String) :
    Except FileError (List String) := do
  return files.names (← files.directory here path)

end Cartridge.FileSystem
