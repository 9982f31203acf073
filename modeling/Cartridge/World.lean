import Cartridge.Symbol.Tables

/-!
# Placement of scenes, actors and triggers

The tables that tell the engine what is where. They hold numbers only, so that the engine never
looks up a name.

* `World.ofProject` — the placements of a project.
-/

namespace Cartridge

/-- The index that stands for no symbol. -/
def noSymbol : UInt16 := 0xFFFF

/-- A scene: the symbol of its script and the symbol of its background. -/
structure SceneEntry where
  init : UInt16
  background : UInt16
  deriving DecidableEq, Repr

/-- An actor: its slot, the number of its scene, its place, and the symbols of its sprite and its
script. -/
structure ActorEntry where
  slot : UInt8
  scene : UInt8
  x : UInt8
  y : UInt8
  sprite : UInt16
  interact : UInt16
  deriving DecidableEq, Repr

/-- A trigger: the number of its scene, its place and size, and the symbol of its script. -/
structure TriggerEntry where
  scene : UInt8
  x : UInt8
  y : UInt8
  width : UInt8
  height : UInt8
  enter : UInt16
  deriving DecidableEq, Repr

/-- The placement tables. -/
structure World where
  scenes : List SceneEntry
  actors : List ActorEntry
  triggers : List TriggerEntry
  deriving DecidableEq, Repr

namespace World

/-- The index of a symbol. -/
def symbolIndex (tables : Tables) (symbol : String) : UInt16 :=
  (tables.symbols.get? symbol).getD noSymbol

/-- The index of the symbol of an asset, if one is named. -/
def assetIndex (tables : Tables) (asset : Option String) : UInt16 :=
  match asset with
  | some name => symbolIndex tables (assetSymbol name)
  | none => noSymbol

/-- The number of a scene. One that is not declared, or stands too far back, has the greatest
number. -/
def sceneNumber (project : Project) (name : String) : UInt8 :=
  match project.scenes.findIdx? (·.name = name) with
  | some index => if index < 256 then UInt8.ofNat index else 255
  | none => 255

/-- The placements of a project whose names are in the tables. -/
def ofProject (project : Project) (tables : Tables) : World where
  scenes := project.scenes.map fun scene =>
    { init := symbolIndex tables (sceneSymbol scene.name)
      background := assetIndex tables scene.background }
  actors := project.actors.map fun actor =>
    { slot := (tables.actors.get? actor.name).getD 0
      scene := sceneNumber project actor.scene
      x := actor.x
      y := actor.y
      sprite := assetIndex tables actor.sprite
      interact := symbolIndex tables (actorSymbol actor.name) }
  triggers := project.triggers.map fun trigger =>
    { scene := sceneNumber project trigger.scene
      x := trigger.x
      y := trigger.y
      width := trigger.width
      height := trigger.height
      enter := symbolIndex tables (triggerSymbol trigger.name) }

end World
end Cartridge
