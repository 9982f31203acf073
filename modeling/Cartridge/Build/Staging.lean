import Cartridge.Build.Error
import Cartridge.Config.Basic
import Cartridge.Source.Files

/-!
# Staging generated sources

Generated sources are written into the build directory, which is emptied before. Two aliases in the
engine's sources lead there: one to the header of the banks, one to the directory.

* `Staging.stage` — puts generated sources where the toolchain expects them.
-/

namespace Cartridge.Staging

/-- A step of staging. What it has done stays when a later step is refused. -/
abbrev Action : Type → Type := ExceptT BuildError (StateM FileSystem)

/-- An action on files, for which a path is to blame when it is refused. -/
def blaming {α : Type} (path : String) (action : FileAction α) : Action α := do
  match ← action.run with
  | .ok value => return value
  | .error fault => throw (.staging path fault)

/-- A path from the root, without empty names and single points. Nothing is looked up for it.
Exactly two separators at the beginning stay two. -/
def absolute (here : Location) (path : String) : Except FileError String :=
  if path.isEmpty then .error .emptyPath
  else
    let root := if path.startsWith "//" && !path.startsWith "///" then "/" else ""
    let outer := if FilePath.isAbsolute path then [] else here.reverse
    let names := outer ++ (FilePath.names path).filter (· != ".")
    .ok (root ++ String.join (names.map ("/" ++ ·))
      ++ if names.isEmpty || path.endsWith "/" then "/" else "")

/-- Takes away everything in a directory. -/
def empty (here : Location) (path : String) : FileAction Unit := do
  let place ← FileAction.query (·.directory here path)
  FileAction.change fun files => .ok (files.clear place)

/-- Makes a directory empty, which is created if nothing is there. -/
def prepare (here : Location) (path : String) : FileAction Unit := do
  if (← get).isPresent here path then empty here path
  else FileAction.createDirectories here path

/-- Takes away what is in the place of an alias. -/
def removeAlias (here : Location) (path : String) : FileAction Unit := do
  match (← get).find false here path with
  | .error .notFound => return
  | .error fault => throw fault
  | .ok (_, .directory) => FileAction.removeTree here path
  | .ok _ => FileAction.change (·.removeFile here path)

/-- Makes a path an alias of another one. -/
def relink (here : Location) (path target : String) : Action Unit := do
  blaming path (removeAlias here path)
  match FilePath.parent? path with
  | some parent => blaming parent (FileAction.createDirectories here parent)
  | none => pure ()
  blaming path (FileAction.change (·.createLink here target path))

/-- Puts generated sources where the toolchain expects them. -/
def stage (here : Location) (config : Config) (sources : List SourceFile) : Action Unit := do
  let buildDir ← match absolute here config.buildDir with
    | .ok path => pure path
    | .error fault => throw (.staging config.buildDir fault)
  blaming buildDir (prepare here buildDir)
  blaming buildDir (SourceFile.writeAll here buildDir sources)
  relink here config.headerLinkPath (FilePath.join buildDir bankHeaderName)
  relink here config.dataLinkPath buildDir

end Cartridge.Staging
