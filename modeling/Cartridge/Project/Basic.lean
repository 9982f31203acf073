import Cartridge.Project.Event

/-!
# Projects

A project is what the game's author declares: names, pictures, sounds, places and scripts. Nothing
in it refers to anything but by name.

* `Project.declarations` — everything that gets a symbol, in the order of the symbol table.
-/

namespace Cartridge

/-- What a resource file holds. -/
inductive AssetKind where
  | image
  | tileset
  | song
  | sound
  deriving DecidableEq, Repr, Hashable

/-- The name of an asset kind, as projects and messages write it. -/
def AssetKind.name : AssetKind → String
  | image => "image"
  | tileset => "tileset"
  | song => "song"
  | sound => "sound"

/-- A colour of eight bits per channel. -/
structure Color where
  red : UInt8
  green : UInt8
  blue : UInt8
  deriving DecidableEq, Repr

/-- Four colours, from the lightest shade to the darkest. -/
structure Palette where
  name : String
  colors : Vector Color 4
  deriving DecidableEq, Repr

/-- A resource file; its path starts at the project's directory. -/
structure AssetSource where
  name : String
  kind : AssetKind
  path : String
  deriving DecidableEq, Repr

/-- A scene, with the script that runs when it is entered. -/
structure Scene where
  name : String
  background : Option String
  init : List Event
  deriving Repr

/-- An actor, with the script that runs when the player talks to it. -/
structure Actor where
  name : String
  scene : String
  sprite : Option String
  x : UInt8
  y : UInt8
  interact : List Event
  deriving Repr

/-- A region of a scene, with the script that runs when the player steps on it. -/
structure Trigger where
  name : String
  scene : String
  x : UInt8
  y : UInt8
  width : UInt8
  height : UInt8
  enter : List Event
  deriving Repr

/-- A script that other scripts call. -/
structure CustomScript where
  name : String
  body : List Event
  deriving Repr

/-- Everything the author declares. -/
structure Project where
  title : String
  startScene : Option String
  gameVariables : List String
  flags : List String
  palettes : List Palette
  assets : List AssetSource
  scenes : List Scene
  actors : List Actor
  triggers : List Trigger
  scripts : List CustomScript
  deriving Repr

/-- The name of the actor that the player moves. It is declared by every project. -/
def playerName : String := "player"

end Cartridge
