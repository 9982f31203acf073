import Cartridge.FileSystem.Access

/-!
# Actions on a file system

An action changes what is stored, and may be refused half-way; what it has changed by then stays.

* `FileAction.change`, `FileAction.query` — one change, one question.
* `FileAction.createDirectories` — creates a directory and all that it is in.
* `FileAction.removeTree` — removes a directory and all that is in it.
-/

namespace Cartridge

/-- Something done to a file system, one step after the other. -/
abbrev FileAction : Type → Type := ExceptT FileError (StateM FileSystem)

namespace FileAction

/-- Changes what is stored, unless that is refused. -/
def change (alter : FileSystem → Except FileError FileSystem) : FileAction Unit := do
  match alter (← get) with
  | .ok files => set files
  | .error fault => throw fault

/-- Looks at what is stored. -/
def query {α : Type} (ask : FileSystem → Except FileError α) : FileAction α := do
  match ask (← get) with
  | .ok answer => return answer
  | .error fault => throw fault

/-- Does something, and takes it as done if there is nothing to do it to. -/
def ifPresent (action : FileAction Unit) : FileAction Unit :=
  tryCatch action fun fault => if fault = .notFound then pure () else throw fault

/-- Removes a directory with everything in it. A link is removed itself. What is in a directory is
gone even if the directory cannot be removed by that path; and if the path led through what is gone,
nothing is left to be removed. -/
def removeTree (here : Location) (path : String) : FileAction Unit := do
  let (place, node) ← query (·.find false here path)
  match node with
  | .file _ => throw .notDirectory
  | .link _ => change fun files => .ok (files.erase place)
  | .directory =>
    change fun files => .ok (files.clear place)
    ifPresent (change (·.removeDirectory here path))

/-- Refuses what was refused, unless a path leads to a directory all the same. -/
def unlessDirectory (here : Location) (path : String) (fault : FileError) : FileAction Unit := do
  if !(← get).isDirectory here path then throw fault

/-- Creates the directory of the first path, and before it those of the other ones if it needs them.
Each path is the directory that the one before it is in. -/
def createAll (here : Location) : (paths : List String) → FileAction Unit
  | [] => return
  | path :: shorter =>
    if path.isEmpty then return
    else
      tryCatch (change (·.createDirectory here path)) fun fault =>
        if fault = .notFound then do
          createAll here shorter
          tryCatch (change (·.createDirectory here path)) (unlessDirectory here path)
        else unlessDirectory here path fault

/-- A path and all that lead to it, the longest first. -/
def leading (path : String) : List String :=
  path :: ((FilePath.parts path).map fun (before, _) => FilePath.trimmed before).reverse

/-- Creates a directory and the ones it is in, unless they are there. -/
def createDirectories (here : Location) (path : String) : FileAction Unit :=
  createAll here (leading path)

end FileAction
end Cartridge
