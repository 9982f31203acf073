import Cartridge.Build.Event
import Cartridge.FileSystem.Basic
import Cartridge.Shell.Arithmetic

/-!
# The state of a running script

What a script can change for itself: its variables, its directory, and where its descriptors lead.
-/

namespace Cartridge.Shell

/-- Where what is printed goes. -/
inductive Sink where
  /-- To whoever watches the group of processes. -/
  | channel (group : Nat) (channel : Channel)
  /-- To the end of a file. -/
  | file (place : Location)
  /-- To a buffer of the machine. -/
  | buffer (index : Nat)
  | nowhere
  deriving DecidableEq, Repr

/-- What a descriptor is good for. -/
inductive Descriptor where
  /-- Bytes are still to be read. -/
  | source (bytes : List UInt8)
  | sink (sink : Sink)
  deriving DecidableEq, Repr

/-- The descriptors that are open, by their numbers. -/
abbrev Descriptors : Type := List (Nat × Descriptor)

/-- Gives a descriptor a new meaning. -/
def Descriptors.set (descriptors : Descriptors) (number : Nat) (descriptor : Descriptor) :
    Descriptors :=
  (number, descriptor) :: descriptors.filter (·.1 != number)

/-- Where what is printed to a descriptor goes. -/
def Descriptors.sinkOf (descriptors : Descriptors) (number : Nat) : Sink :=
  match descriptors.lookup number with
  | some (.sink sink) => sink
  | some (.source _) | none => .nowhere

/-- What is still to be read from a descriptor. -/
def Descriptors.sourceOf (descriptors : Descriptors) (number : Nat) : List UInt8 :=
  match descriptors.lookup number with
  | some (.source bytes) => bytes
  | some (.sink _) | none => []

/-- The state of a running script. -/
structure Session where
  /-- The name that the script was called by. -/
  name : String
  arguments : List String
  bindings : Variables
  functions : Std.HashMap String Command
  directory : Location
  descriptors : Descriptors
  /-- The number of the process. -/
  id : Nat
  /-- How the last command ended. -/
  status : Nat
  /-- The process that was put into the background last. -/
  background : Option Nat
  /-- Whether the script ends when a command fails. -/
  stopsOnFailure : Bool
  /-- The variables that scripts see which this one runs. -/
  exported : List String
  /-- What is done at signals, by their numbers. The end of the script has the number zero. -/
  traps : List (Nat × String)

/-- The state of a subshell when it begins. What is done at signals is forgotten, but ignored ones
stay ignored. -/
def Session.inSubshell (session : Session) : Session :=
  { session with traps := session.traps.filter fun (_, action) => action.isEmpty }

/-- The variables that a script sees which is run. -/
def Session.passedOn (session : Session) : Variables :=
  session.exported.foldl (fun passed name =>
    match session.bindings[name]? with
    | some value => passed.insert name value
    | none => passed) ∅

/-- The value of a parameter. -/
def Session.parameter? (session : Session) (name : String) : Option String :=
  match name with
  | "?" => some (toString session.status)
  | "$" => some (toString session.id)
  | "#" => some (toString session.arguments.length)
  | "!" => session.background.map toString
  | "@" | "*" => some (" ".intercalate session.arguments)
  | "-" => some (if session.stopsOnFailure then "e" else "")
  | "0" => some session.name
  | _ =>
    match name.toList with
    | first :: _ =>
      if first.isDigit then session.arguments[(name.toNat?.getD 1) - 1]?
      else session.bindings[name]?
    | [] => none

end Cartridge.Shell
