import Cartridge.Command.Failure
import Cartridge.Config.Reading
import Cartridge.FileSystem.Access
import Cartridge.Project.Reading

/-!
# Loading projects and configurations

* `Project.load` — the project that a text describes, if it is valid.
* `Config.load` — the configuration in a file, if the cartridge can have its geometry.
* `Game.load` — the compiled game of the project in a file.
-/

namespace Cartridge

/-- The project that a text describes, if it is valid. -/
def Project.load (text : String) : Except Failure Project := do
  let project ← Failure.within "Deserializing project"
    ((Project.ofJson text).mapError (Failure.of ∘ Cause.json))
  project.validate.mapError (Failure.of ∘ Cause.game ∘ GameError.project)
  return project

/-- The configuration in a file, over default settings. -/
def Config.load (standard : Config) (files : FileSystem) (here : Location) (path : String) :
    Except Failure Config := do
  let text ← Failure.within s!"Reading config {path}"
    ((files.readText here path).mapError (Failure.of ∘ Cause.file))
  let config ← Failure.within s!"Parsing config {path}"
    ((Config.ofJson standard text).mapError (Failure.of ∘ Cause.json))
  let _ ← Failure.within s!"Checking config {path}"
    (config.geometry.budget.mapError (Failure.of ∘ Cause.game ∘ GameError.capacity))
  return config

/-- The directory that the resource files of a project belong to. -/
def resourceRoot (projectPath : String) : String :=
  (FilePath.parent? projectPath).getD "."

/-- The compiled game of the project in a file. Resource files are read from its directory. -/
def Game.load (geometry : Geometry) (files : FileSystem) (here : Location) (path : String) :
    Except Failure Game := do
  let text ← Failure.within s!"Reading {path}"
    ((files.readText here path).mapError (Failure.of ∘ Cause.file))
  let project ← Failure.within "Parsing project JSON" (Project.load text)
  let read (resource : String) : Except FileError ByteArray :=
    files.read here (FilePath.join (resourceRoot path) resource)
  Failure.within s!"Compiling {path}"
    ((Game.ofProject read geometry project).mapError (Failure.of ∘ Cause.game))

end Cartridge
