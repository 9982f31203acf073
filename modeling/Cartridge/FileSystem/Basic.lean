import Std.Data.HashMap

/-!
# File systems

What is stored where: directories, files and symbolic links.

* `FileSystem.node?` — the view of a file system: what is at a location.
* `FileSystem.node?_put`, `FileSystem.node?_erase`, `FileSystem.node?_clear` — what the changes do
  to it.
* `FileError.message` — the text for what the operating system refuses.
-/

namespace Cartridge

/-- Where something is: the names that lead to it from the root, the last one first. -/
abbrev Location : Type := List String

/-- What can be at a location. -/
inductive Node where
  | directory
  | file (contents : ByteArray)
  /-- A symbolic link, with the path that it stands for. -/
  | link (target : String)

/-- Whether it is a directory. -/
def Node.isDirectory : Node → Bool
  | directory => true
  | file _ | link _ => false

/-- Why the operating system refuses something. -/
inductive FileError where
  | notFound
  | alreadyExists
  | notDirectory
  | isDirectory
  | nameTooLong
  | tooManyLinks
  /-- The path holds a character that no path can. -/
  | badPath
  /-- There is no path that an absolute one could be made from. -/
  | emptyPath
  /-- The file's bytes are no text. -/
  | notText
  | permissionDenied
  /-- The operation makes no sense for this path. -/
  | invalidArgument
  | notEmpty
  deriving DecidableEq, Repr

/-- What was refused, in words. -/
def FileError.description : FileError → String
  | notFound => "No such file or directory"
  | permissionDenied => "Permission denied"
  | invalidArgument => "Invalid argument"
  | notEmpty => "Directory not empty"
  | alreadyExists => "File exists"
  | notDirectory => "Not a directory"
  | isDirectory => "Is a directory"
  | nameTooLong => "File name too long"
  | tooManyLinks => "Too many levels of symbolic links"
  | badPath => "file name contained an unexpected NUL byte"
  | emptyPath => "cannot make an empty path absolute"
  | notText => "stream did not contain valid UTF-8"

/-- The number by which the operating system knows what it has refused. -/
def FileError.number? : FileError → Option Nat
  | notFound => some 2
  | permissionDenied => some 13
  | alreadyExists => some 17
  | notDirectory => some 20
  | isDirectory => some 21
  | invalidArgument => some 22
  | nameTooLong => some 36
  | notEmpty => some 39
  | tooManyLinks => some 40
  | badPath | emptyPath | notText => none

/-- The message for what was refused. -/
def FileError.message (error : FileError) : String :=
  match error.number? with
  | some number => s!"{error.description} (os error {number})"
  | none => error.description

/-- What is stored, below the root. -/
structure FileSystem where
  nodes : Std.HashMap Location Node

namespace FileSystem

/-- Nothing below the root. -/
def empty : FileSystem := ⟨∅⟩

/-- What is at a location. The root is a directory. -/
def node? (files : FileSystem) : Location → Option Node
  | [] => some .directory
  | name :: parent => files.nodes[name :: parent]?

/-- Puts something at a location. -/
def put (files : FileSystem) (place : Location) (node : Node) : FileSystem :=
  ⟨files.nodes.insert place node⟩

/-- Takes away what is at a location. -/
def erase (files : FileSystem) (place : Location) : FileSystem :=
  ⟨files.nodes.erase place⟩

/-- Whether a location is another one or below it. -/
def isWithin (outer place : Location) : Bool := outer.isSuffixOf place

/-- Takes away everything below a location. -/
def clear (files : FileSystem) (place : Location) : FileSystem :=
  ⟨files.nodes.filter fun other _ => !isWithin place other || other == place⟩

/-- The names of what is directly in a directory. -/
def names (files : FileSystem) (place : Location) : List String :=
  (files.nodes.toList.filterMap fun (other, _) =>
    match other with
    | name :: parent => if parent = place then some name else none
    | [] => none).mergeSort

/-- Everything below a location, with the names that lead there from it, in the order of the paths
that they make. -/
def below (files : FileSystem) (place : Location) : List (String × Node) :=
  let found := files.nodes.toList.filterMap fun (other, node) =>
    if isWithin place other && other != place then
      some ("/".intercalate (other.take (other.length - place.length)).reverse, node)
    else none
  found.mergeSort fun first second => decide (first.1 ≤ second.1)

theorem node?_nil (files : FileSystem) : files.node? [] = some .directory := rfl

/-- What was put somewhere is there, and the rest is as it was. -/
theorem node?_put (files : FileSystem) (place other : Location) (node : Node)
    (below : other ≠ []) :
    (files.put place node).node? other
      = if place = other then some node else files.node? other := by
  cases other with
  | nil => exact absurd rfl below
  | cons name parent =>
    simp only [node?, put, Std.HashMap.getElem?_insert, beq_iff_eq]

/-- What was taken away is gone, and the rest is as it was. -/
theorem node?_erase (files : FileSystem) (place other : Location) (below : other ≠ []) :
    (files.erase place).node? other = if place = other then none else files.node? other := by
  cases other with
  | nil => exact absurd rfl below
  | cons name parent =>
    simp only [node?, erase, Std.HashMap.getElem?_erase, beq_iff_eq]

/-- Nothing is left below a location that was cleared, and the rest is as it was. -/
theorem node?_clear (files : FileSystem) (place other : Location) (below : other ≠ []) :
    (files.clear place).node? other
      = if place <:+ other ∧ other ≠ place then none else files.node? other := by
  cases other with
  | nil => exact absurd rfl below
  | cons name parent =>
    have kept : (!isWithin place (name :: parent) || name :: parent == place)
        = !decide (place <:+ name :: parent ∧ name :: parent ≠ place) := by
      have same : isWithin place (name :: parent) = decide (place <:+ name :: parent) := by
        rw [isWithin, Bool.eq_iff_iff, List.isSuffixOf_iff_suffix, decide_eq_true_iff]
      by_cases inside : place <:+ name :: parent <;> by_cases equal : name :: parent = place <;>
        simp [same, inside, equal]
    simp only [node?, clear]
    rw [Std.HashMap.getElem?_filter]
    simp only [Std.HashMap.getKey_eq, kept]
    by_cases inside : place <:+ name :: parent ∧ name :: parent ≠ place
    · simp [inside]
    · cases found : files.nodes[name :: parent]? <;> simp [inside, Option.filter]

end FileSystem
end Cartridge
