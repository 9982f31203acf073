import Cartridge.Symbol.Identifier
import Cartridge.Project.Basic

/-!
# Declarations and their symbols

What the engine can be pointed to: the scripts of scenes, actors, triggers and the author's own
ones, the assets and the palettes. Each has a symbol, made from its name.

* `Declaration.symbol` — the symbol of a declaration.
* `Project.declarations` — the declarations of a project, in the order of the symbol table.
-/

namespace Cartridge

/-- What can have a symbol. -/
inductive Category where
  | scene
  | actor
  | trigger
  | script
  | asset
  | palette
  deriving DecidableEq, Repr

/-- Something that has a symbol. -/
structure Declaration where
  category : Category
  name : String
  deriving DecidableEq, Repr

namespace Declaration

/-- The symbol of a declaration. -/
def symbol : Declaration → String
  | ⟨.scene, name⟩ => "scene_" ++ Identifier.ofName name ++ "_init"
  | ⟨.actor, name⟩ => "actor_" ++ Identifier.ofName name ++ "_interact"
  | ⟨.trigger, name⟩ => "trigger_" ++ Identifier.ofName name ++ "_enter"
  | ⟨.script, name⟩ => "script_" ++ Identifier.ofName name
  | ⟨.asset, name⟩ => "asset_" ++ Identifier.ofName name
  | ⟨.palette, name⟩ => "palette_" ++ Identifier.ofName name

end Declaration

/-- The symbol of a scene's script. -/
abbrev sceneSymbol (name : String) : String := Declaration.symbol ⟨.scene, name⟩

/-- The symbol of an actor's script. -/
abbrev actorSymbol (name : String) : String := Declaration.symbol ⟨.actor, name⟩

/-- The symbol of a trigger's script. -/
abbrev triggerSymbol (name : String) : String := Declaration.symbol ⟨.trigger, name⟩

/-- The symbol of one of the author's own scripts. -/
abbrev scriptSymbol (name : String) : String := Declaration.symbol ⟨.script, name⟩

/-- The symbol of an asset. -/
abbrev assetSymbol (name : String) : String := Declaration.symbol ⟨.asset, name⟩

/-- The symbol of a palette. -/
abbrev paletteSymbol (name : String) : String := Declaration.symbol ⟨.palette, name⟩

/-- The declarations of a project, in the order of the symbol table. -/
def Project.declarations (project : Project) : List Declaration :=
  project.scenes.map (⟨.scene, ·.name⟩)
    ++ project.actors.map (⟨.actor, ·.name⟩)
    ++ project.triggers.map (⟨.trigger, ·.name⟩)
    ++ project.scripts.map (⟨.script, ·.name⟩)
    ++ project.assets.map (⟨.asset, ·.name⟩)
    ++ project.palettes.map (⟨.palette, ·.name⟩)

end Cartridge
