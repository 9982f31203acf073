import Cartridge.Script.Assembly

/-!
# Compiling scripts

* `CompiledScript.ofSource` — the bytecode of one script.
* `Project.scriptSources` — the scripts of a project, in the order of their symbols.
* `Project.compileScripts` — the bytecode of all of them, or the fault of the first bad one.
-/

namespace Cartridge

/-- A script to be compiled. -/
structure ScriptSource where
  /-- The symbol that it is published under. -/
  symbol : String
  /-- What messages call it. -/
  origin : String
  body : List Event

/-- The bytecode of a script. -/
structure CompiledScript where
  symbol : String
  code : List UInt8
  /-- The addresses of the labels, by their numbers. -/
  labels : List UInt16
  deriving DecidableEq, Repr

/-- The size from which on a script is refused: an address is two bytes. -/
def scriptSizeLimit : Nat := 65535

/-- The bytecode of a script. -/
def CompiledScript.ofSource (tables : Tables) (source : ScriptSource) :
    Except CompileError CompiledScript :=
  match Lowered.ofBody tables source.body with
  | .error (path, fault) => .error (.node source.origin path fault)
  | .ok lowered =>
    if scriptSizeLimit < lowered.size then .error (.tooLarge source.origin lowered.size)
    else
      match Assembly.ofLowered lowered with
      | .error target => .error (.danglingLabel source.origin target)
      | .ok (code, labels) => .ok ⟨source.symbol, code, labels⟩

namespace Project

/-- The scripts of a project, in the order of their symbols. -/
def scriptSources (project : Project) : List ScriptSource :=
  (project.scenes.map fun scene =>
      ⟨sceneSymbol scene.name, s!"scene `{scene.name}` init", scene.init⟩)
    ++ (project.actors.map fun actor =>
      ⟨actorSymbol actor.name, s!"actor `{actor.name}` interact", actor.interact⟩)
    ++ (project.triggers.map fun trigger =>
      ⟨triggerSymbol trigger.name, s!"trigger `{trigger.name}` enter", trigger.enter⟩)
    ++ (project.scripts.map fun script =>
      ⟨scriptSymbol script.name, s!"script `{script.name}`", script.body⟩)

/-- The bytecode of all scripts of a project. -/
def compileScripts (project : Project) (tables : Tables) :
    Except CompileError (List CompiledScript) :=
  project.scriptSources.mapM (CompiledScript.ofSource tables)

end Project
end Cartridge
