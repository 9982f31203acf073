import Cartridge.Asset.Packing
import Cartridge.Bank.Allocation
import Cartridge.Project.Validity
import Cartridge.Script.Compilation
import Cartridge.World

/-!
# Compiled games

A compiled game is all that goes onto the cartridge: bytecode, packed assets, tables, and where in
the banks everything is.

* `Game.ofProject` — the compiled game of a project, or the first fault.
* `Game.farPointer?` — where something is that the tables name.
-/

namespace Cartridge

/-- A compiled game. -/
structure Game where
  title : String
  tables : Tables
  scripts : List CompiledScript
  assets : PackedAssets
  world : World
  allocation : Allocation

/-- Why a project cannot be compiled. -/
inductive GameError where
  | project (error : ProjectError)
  | script (error : CompileError)
  | assets (fault : PackingFault)
  | capacity (error : CapacityError)

/-- The message for a project that cannot be compiled. -/
def GameError.message : GameError → String
  | project error => error.message
  | script error => error.message
  | assets fault => fault.message
  | capacity error => error.message

namespace Game

/-- What must be placed in the banks: the scripts, then what is stored for assets and palettes. -/
def blobs (scripts : List CompiledScript) (assets : PackedAssets) : List Blob :=
  (scripts.map fun script => .aligned script.symbol script.code.toArray 1)
    ++ (assets.packed.toList.map fun asset =>
      .aligned asset.symbol asset.payload.toArray asset.kind.align)

/-- The compiled game of a project, given how its resource files are read. -/
def ofProject (read : String → Except FileError ByteArray) (geometry : Geometry)
    (project : Project) : Except GameError Game := do
  project.validate.mapError .project
  let tables ← (Tables.ofProject project).mapError .project
  let scripts ← (project.compileScripts tables).mapError .script
  let assets ← (PackedAssets.ofProject read project).mapError .assets
  let allocation ← (Allocation.ofBlobs geometry (blobs scripts assets)).mapError .capacity
  return {
    title := project.title
    tables, scripts, assets
    world := World.ofProject project tables
    allocation }

/-- The name in the banks that a symbol stands for: its own, or that of what is stored for it. -/
def physicalSymbol? (game : Game) (symbol : String) : Option String :=
  if game.allocation.addresses.contains symbol then some symbol
  else
    match game.assets.get? symbol with
    | some asset =>
      if game.allocation.addresses.contains asset.symbol then some asset.symbol else none
    | none => none

/-- The bank and the offset of a symbol. -/
def farPointer? (game : Game) (symbol : String) : Option (UInt16 × UInt16) := do
  game.allocation.address? (← game.physicalSymbol? symbol)

end Game
end Cartridge
