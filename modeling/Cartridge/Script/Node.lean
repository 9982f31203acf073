import Cartridge.Project.Event

/-!
# Nodes of a script and their faults

* `NodePath` — where in its tree an event stands.
* `NodeFault` — what is wrong with one event.
* `CompileError` — why a script is refused.
-/

namespace Cartridge

/-- One step from a list of events down to an event. -/
inductive Descent where
  /-- To an event of the script itself. -/
  | item (index : Nat)
  | whenTrue (index : Nat)
  | whenFalse (index : Nat)
  | body (index : Nat)
  deriving DecidableEq, Repr

/-- How a step is written. -/
def Descent.text : Descent → String
  | item index => s!"[{index}]"
  | whenTrue index => s!".true_branch[{index}]"
  | whenFalse index => s!".false_branch[{index}]"
  | body index => s!".body[{index}]"

/-- The steps from the script down to an event, the last one first. -/
abbrev NodePath : Type := List Descent

/-- How a path is written, from the script downwards. -/
def NodePath.text (path : NodePath) : String :=
  String.join (path.reverse.map Descent.text)

/-- What a name in an event refers to. -/
inductive Referent where
  | gameVariable
  | flag
  | actor
  | script
  | scene
  | song
  | sound
  deriving DecidableEq, Repr

/-- The noun for what a name refers to. -/
def Referent.noun : Referent → String
  | gameVariable => "variable"
  | flag => "flag"
  | actor => "actor"
  | script => "script"
  | scene => "scene"
  | song => "song"
  | sound => "sound"

/-- A name in a field of an event. -/
structure Reference where
  field : String
  referent : Referent
  name : String
  deriving DecidableEq, Repr

/-- The longest text of one text box, in bytes. -/
def longestText : Nat := 255

/-- The greatest speed of the camera. -/
def greatestSpeed : UInt8 := 5

/-- What is wrong with one event. -/
inductive NodeFault where
  /-- A name is not declared. -/
  | unresolved (reference : Reference)
  /-- A text is too long for its box. -/
  | longText (size : Nat)
  /-- The camera is too fast. -/
  | fastCamera (speed : UInt8)
  /-- A loop is left where there is none. -/
  | strayLeave
  /-- An asset of the wrong kind is played. The kinds are given by name. -/
  | wrongAssetKind (name found wanted : String)
  deriving DecidableEq, Repr

/-- What is wrong with one event, in words. -/
def NodeFault.reason : NodeFault → String
  | unresolved ⟨field, referent, name⟩ => s!"unknown {referent.noun} `{name}` in field `{field}`"
  | longText size => s!"text is {size} bytes, at most {longestText} fit one box"
  | fastCamera speed => s!"camera speed {speed} is outside 0..={greatestSpeed}"
  | strayLeave => "`break` outside of a loop"
  | wrongAssetKind name found wanted => s!"`{name}` is a {found}, not a {wanted}"

/-- Why a script is refused. A script is called by its origin in the project. -/
inductive CompileError where
  /-- One of its events is at fault. -/
  | node (origin : String) (path : NodePath) (fault : NodeFault)
  /-- Its code is larger than an address reaches. -/
  | tooLarge (origin : String) (size : Nat)
  /-- A label is jumped to and has no address. -/
  | danglingLabel (origin : String) (label : UInt16)
  deriving DecidableEq, Repr

/-- The message for a refused script. -/
def CompileError.message : CompileError → String
  | node origin path fault => s!"{origin}: node {path.text}: {fault.reason}"
  | tooLarge origin size =>
    s!"{origin}: compiled size {size} exceeds the 65535 byte script limit"
  | danglingLabel origin label =>
    s!"{origin}: label L{label} was referenced but never bound"

end Cartridge
