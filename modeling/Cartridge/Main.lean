import Cartridge.Command.Footprint
import Cartridge.FileSystem.Difference

/-!
# The program

The program takes in what a command may look at, carries the command out, and stores what has
changed. Aliases only exist while a command is carried out: they are taken in, but not stored.
-/

namespace Cartridge.Disk

/-- Takes in what is inside a directory. What cannot be looked at is left out. -/
partial def loadInside (place : Location) (files : FileSystem) : IO FileSystem := do
  let mut files := files
  for entry in ← (← IO.FS.realPath place.path).readDir do
    let inner := entry.fileName :: place
    try
      match (← entry.path.symlinkMetadata).type with
      | .dir => files ← loadInside inner (files.put inner .directory)
      | .file => files := files.put inner (.file (← IO.FS.readBinFile entry.path))
      | .symlink => files := files.put inner (.link (← IO.FS.realPath entry.path).toString)
      | .other => pure ()
    catch _ => pure ()
  return files

/-- Takes in what is at a location and below it. -/
def load (place : Location) (files : FileSystem) : IO FileSystem := do
  let files := files.putParents place
  try
    match (← (← IO.FS.realPath place.path).metadata).type with
    | .dir => loadInside place (files.put place .directory)
    | .file => return files.put place (.file (← IO.FS.readBinFile place.path))
    | .symlink | .other => return files
  catch _ => return files

/-- Takes in what paths lead to. -/
def loadAll (here : Location) (paths : List String) (files : FileSystem) : IO FileSystem :=
  paths.foldlM (fun files path => load (Location.ofPath here path) files) files

/-- Stores what has changed. -/
def store (before after : FileSystem) : IO Unit := do
  for (place, node) in before.obsolete after do
    match node with
    | .directory => IO.FS.removeDirAll place.path
    | .file _ | .link _ => IO.FS.removeFile place.path
  for (place, node) in before.fresh after do
    match node with
    | .directory => IO.FS.createDirAll place.path
    | .file contents => IO.FS.writeBinFile place.path contents
    | .link _ => pure ()

end Cartridge.Disk

open Cartridge

/-- Carries out a command line. -/
def main (arguments : List String) : IO UInt32 := do
  match CommandLine.parse arguments with
  | .error usage =>
    if usage.isAnswer then
      IO.println usage.message
      return 0
    IO.eprintln usage.message
    return 2
  | .ok line =>
    let here := Location.ofPath [] (← IO.currentDir).toString
    let standard := Config.standard ((← IO.getEnv "TMPDIR").getD "/tmp")
    let given ← Disk.loadAll here ("." :: line.paths) .empty
    let needed := ((line.configOf standard given here).toOption.map Config.paths).getD []
    let before ← Disk.loadAll here needed given
    let outcome := line.run standard before here
    Disk.store before outcome.files
    outcome.out.forM IO.println
    outcome.err.forM IO.eprintln
    match outcome.result with
    | .ok () => return 0
    | .error failure =>
      IO.eprintln failure.report
      return failure.code
