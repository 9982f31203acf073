import Cartridge.Project.Error
import Cartridge.Symbol.Declaration
import Cartridge.Table.Ordered

/-!
# Tables of names

The numbers that stand for names in the bytecode: slots of variables, flags and actors, and indices
of symbols. All follow the order of declaration.

* `Tables.ofProject` — the tables of a project, or the fault that two declarations share a symbol.
-/

namespace Cartridge

/-- The numbers that stand for names. -/
structure Tables where
  gameVariables : NameTable UInt8
  flags : NameTable UInt8
  actors : NameTable UInt8
  /-- The kinds of the declared assets. -/
  assets : NameTable AssetKind
  /-- The places of the symbols in the pointer table. -/
  symbols : NameTable UInt16
  /-- The symbol of the scene that the game starts in. -/
  startScene : Option String

namespace Tables

/-- The slots of names, counted from `first` in the order of declaration. A slot is one byte. -/
def slotsFrom (table : NameTable UInt8) (first : Nat) (names : List String) : NameTable UInt8 :=
  names.zipIdx.foldl (fun table (name, index) => table.insert name (UInt8.ofNat (first + index)))
    table

/-- The slots of the actors. The player has the first one. -/
def actorSlots (names : List String) : NameTable UInt8 :=
  slotsFrom ((∅ : NameTable UInt8).insert playerName 0) 1 names

/-- Gives a symbol the next index. -/
def addSymbol (symbols : NameTable UInt16) (symbol : String) :
    Except ProjectError (NameTable UInt16) :=
  if symbols.contains symbol then .error (.duplicateSymbol symbol)
  else if symbols.size < 65536 then .ok (symbols.insert symbol (UInt16.ofNat symbols.size))
  else .error .tooManySymbols

/-- The tables of a project. -/
def ofProject (project : Project) : Except ProjectError Tables := do
  let symbols ← (project.declarations.map Declaration.symbol).foldlM addSymbol ∅
  return {
    gameVariables := slotsFrom ∅ 0 project.gameVariables
    flags := slotsFrom ∅ 0 project.flags
    actors := actorSlots (project.actors.map (·.name))
    assets := project.assets.foldl (fun table asset => table.insert asset.name asset.kind) ∅
    symbols
    startScene := (project.startScene <|> project.scenes.head?.map (·.name)).map sceneSymbol }

end Tables
end Cartridge
