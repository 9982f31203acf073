import Cartridge.FileSystem.Path

/-!
# Differences of file systems

What has to be done on a disk so that it holds what a file system holds.

* `FileSystem.obsolete` — what is to be removed, what is inside a directory before the directory.
* `FileSystem.fresh` — what is to be created, a directory before what is inside it.
-/

namespace Cartridge

/-- The absolute path of a location. -/
def Location.path (place : Location) : String := "/" ++ "/".intercalate place.reverse

/-- The location that a path names from a directory if there are no links on the way. -/
def Location.ofPath (here : Location) (path : String) : Location :=
  (FileSystem.pathNames path).foldl (fun place name =>
    if name = "." then place else if name = ".." then place.tail else name :: place)
    (if path.startsWith "/" then [] else here)

namespace FileSystem

/-- Whether a node is what is at a location. -/
def holds (files : FileSystem) (place : Location) (node : Node) : Bool :=
  match files.node? place, node with
  | some .directory, .directory => true
  | some (.file contents), .file expected => contents.data == expected.data
  | some (.link target), .link expected => target == expected
  | _, _ => false

/-- The directories that a location is in are there. -/
def putParents (files : FileSystem) : Location → FileSystem
  | [] => files
  | _ :: parent => (files.putParents parent).put parent .directory

/-- What is to be removed so that other nodes can be created. -/
def obsolete (before after : FileSystem) : List (Location × Node) :=
  let changed := before.nodes.toList.filter fun (place, node) => !after.holds place node
  changed.mergeSort fun first second => decide (second.1.length ≤ first.1.length)

/-- What is to be created once the rest has been removed. -/
def fresh (before after : FileSystem) : List (Location × Node) :=
  let changed := after.nodes.toList.filter fun (place, node) => !before.holds place node
  changed.mergeSort fun first second => decide (first.1.length ≤ second.1.length)

end FileSystem
end Cartridge
