import Cartridge.Project.Basic
import Cartridge.Project.EventReading

/-!
# Reading projects

A project is a JSON record; every part of it has a default.

* `Project.ofJson` — the project that a text describes.
* `Event.listOfJson` — the script that a text describes.
-/

namespace Cartridge

open Json

/-- Reads a list of names. -/
def nameList : Reader (List String) := Reader.list Reader.ofText

/-- Reads a colour, an array of its three channels. -/
def Color.reader : Reader Color :=
  (Reader.vector 3 Reader.ofByte).map fun channels => ⟨channels[0], channels[1], channels[2]⟩

/-- Reads a palette. -/
def Palette.reader : Reader Palette :=
  (Record.reader (.needs "name" Reader.ofText (.needs "colors" (Reader.vector 4 Color.reader)
    .done))).map fun (name, colors, _) => ⟨name, colors⟩

/-- Reads an asset kind. -/
def AssetKind.reader : Reader AssetKind :=
  Reader.choice ([.image, .tileset, .song, .sound].map fun kind => (kind.name, kind))

/-- Reads the declaration of a resource file. -/
def AssetSource.reader : Reader AssetSource :=
  (Record.reader (.needs "name" Reader.ofText (.needs "kind" AssetKind.reader
    (.needs "path" Reader.ofText .done)))).map fun (name, kind, path, _) => ⟨name, kind, path⟩

/-- Reads a scene. -/
def Scene.reader : Reader Scene :=
  (Record.reader (.needs "name" Reader.ofText
    (.admits "background" (Reader.optional Reader.ofText) none
      (.admits "init" (Reader.list Event.reader) [] .done)))).map
    fun (name, background, init, _) => ⟨name, background, init⟩

/-- Reads an actor. -/
def Actor.reader : Reader Actor :=
  (Record.reader (.needs "name" Reader.ofText (.needs "scene" Reader.ofText
    (.admits "sprite" (Reader.optional Reader.ofText) none (.admits "x" Reader.ofByte 0
      (.admits "y" Reader.ofByte 0 (.admits "interact" (Reader.list Event.reader) []
        .done))))))).map
    fun (name, scene, sprite, x, y, interact, _) => ⟨name, scene, sprite, x, y, interact⟩

/-- Reads a trigger. One that gives no size covers one tile. -/
def Trigger.reader : Reader Trigger :=
  (Record.reader (.needs "name" Reader.ofText (.needs "scene" Reader.ofText
    (.admits "x" Reader.ofByte 0 (.admits "y" Reader.ofByte 0 (.admits "width" Reader.ofByte 1
      (.admits "height" Reader.ofByte 1 (.admits "enter" (Reader.list Event.reader) []
        .done)))))))).map
    fun (name, scene, x, y, width, height, enter, _) =>
      ⟨name, scene, x, y, width, height, enter⟩

/-- Reads a script. -/
def CustomScript.reader : Reader CustomScript :=
  (Record.reader (.needs "name" Reader.ofText (.admits "body" (Reader.list Event.reader) []
    .done))).map fun (name, body, _) => ⟨name, body⟩

namespace Project

/-- Reads a project. -/
def reader : Reader Project :=
  (Record.reader (.admits "title" Reader.ofText ""
    (.admits "start_scene" (Reader.optional Reader.ofText) none
      (.admits "variables" nameList []
        (.admits "flags" nameList []
          (.admits "palettes" (Reader.list Palette.reader) []
            (.admits "assets" (Reader.list AssetSource.reader) []
              (.admits "scenes" (Reader.list Scene.reader) []
                (.admits "actors" (Reader.list Actor.reader) []
                  (.admits "triggers" (Reader.list Trigger.reader) []
                    (.admits "scripts" (Reader.list CustomScript.reader) [] .done))))))))))).map
    fun (title, startScene, gameVariables, flags, palettes, assets, scenes, actors, triggers,
      scripts, _) =>
      { title, startScene, gameVariables, flags, palettes, assets, scenes, actors, triggers,
        scripts }

/-- The project that a text describes. -/
def ofJson (text : String) : Except Fault Project :=
  reader.whole text

end Project

/-- The script that a text describes. -/
def Event.listOfJson (text : String) : Except Fault (List Event) :=
  (Reader.list Event.reader).whole text

end Cartridge
