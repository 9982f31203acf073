import Cartridge.Source.Header

/-!
# Generated data

* `DataSource.lines` — the title and the tables of a game.
* `BankSource.lines` — the data of a bank, with a remark for each symbol in it.
* `bankImage` — the data of all banks, one behind the other.
-/

namespace Cartridge

/-- Lines as one text. -/
def joinLines (lines : List String) : String :=
  String.join (lines.map (· ++ "\n"))

namespace DataSource

/-- A row of a table. -/
def row (entries : List String) : String :=
  "    \x7b" ++ ", ".intercalate entries ++ "\x7d,"

/-- How the index of a symbol is written. -/
def symbolIndex (index : UInt16) : String :=
  if index = noSymbol then "NO_SYMBOL" else toString index.toNat

/-- The row of a symbol: its bank and its offset. -/
def pointerRow (game : Game) (symbol : String) : String :=
  let (bank, offset) := (game.farPointer? symbol).getD (0, 0)
  let physical := (game.physicalSymbol? symbol).getD symbol
  row [toString bank.toNat, Literal.ofOffset offset.toNat] ++ " // " ++ symbol
    ++ if physical = symbol then "" else " -> " ++ physical

/-- The row of a scene. -/
def sceneRow (scene : SceneEntry) : String :=
  row [symbolIndex scene.init, symbolIndex scene.background]

/-- The row of an actor. -/
def actorRow (actor : ActorEntry) : String :=
  row [toString actor.slot.toNat, toString actor.scene.toNat, toString actor.x.toNat,
    toString actor.y.toNat, symbolIndex actor.sprite, symbolIndex actor.interact]

/-- The row of a trigger. -/
def triggerRow (trigger : TriggerEntry) : String :=
  row [toString trigger.scene.toNat, toString trigger.x.toNat, toString trigger.y.toNat,
    toString trigger.width.toNat, toString trigger.height.toNat, symbolIndex trigger.enter]

/-- A table. One without rows gets a row that stands for none. -/
def table (type name : String) (filler : List String) (rows : List String) : List String :=
  [s!"const {type} {name}[] = \x7b"] ++ (if rows.isEmpty then [row filler] else rows) ++ ["\x7d;"]

/-- The title and the tables of a game. -/
def lines (game : Game) : List String :=
  [banner, s!"#include \"{dataHeaderName}\"", "",
      s!"const char GAME_TITLE[] = \"{Literal.ofText game.title}\";", ""]
    ++ table "far_ptr_t" "symbol_table" ["0", "0"]
      (game.tables.symbols.keys.toList.map (pointerRow game)) ++ [""]
    ++ table "scene_def_t" "scene_table" ["NO_SYMBOL", "NO_SYMBOL"]
      (game.world.scenes.map sceneRow) ++ [""]
    ++ table "actor_def_t" "actor_table" ["0", "0", "0", "0", "NO_SYMBOL", "NO_SYMBOL"]
      (game.world.actors.map actorRow) ++ [""]
    ++ table "trigger_def_t" "trigger_table" ["0", "0", "0", "0", "0", "NO_SYMBOL"]
      (game.world.triggers.map triggerRow)

end DataSource

namespace BankSource

/-- The name of the file with the data of a bank. -/
def fileName (index : UInt16) : String := s!"bank_{Literal.ofBank index}.c"

/-- The symbols of the tables that stand for a name in the banks, by that name, in their order. -/
def aliases (game : Game) : Std.HashMap String (Array String) :=
  game.tables.symbols.keys.foldl (fun found symbol =>
    match game.physicalSymbol? symbol with
    | some physical =>
      if physical = symbol then found
      else found.insert physical ((found.getD physical #[]).push symbol)
    | none => found) ∅

/-- The remark for a symbol in a bank: its place, its size, and the symbols that stand for it. -/
def remark (aliases : Std.HashMap String (Array String)) (symbol : Placed) : String :=
  let start := symbol.offset.toNat
  let size := symbol.bytes.size
  let others := (aliases.getD symbol.name #[]).toList
  s!"// {Literal.ofOffset start}-{Literal.ofOffset (start + (size - 1))} {symbol.name} "
    ++ s!"({size} bytes)" ++ if others.isEmpty then "" else " = " ++ ", ".intercalate others

/-- How many bytes stand on a line. -/
def bytesPerLine : Nat := 16

/-- The lines of some bytes. One unit of fuel for each byte is enough. -/
def dataLines (bytes : Array UInt8) : (fuel : Nat) → (start : Nat) → List String
  | 0, _ => []
  | fuel + 1, start =>
    if bytes.size ≤ start then []
    else
      ("    " ++ ", ".intercalate
        ((bytes.extract start (start + bytesPerLine)).toList.map Literal.ofByte) ++ ",")
        :: dataLines bytes fuel (start + bytesPerLine)

/-- The data of a bank. -/
def lines (aliases : Std.HashMap String (Array String)) (bank : Bank) : List String :=
  [s!"#pragma bank {bank.index.toNat}", banner, ""]
    ++ bank.symbols.toList.map (remark aliases)
    ++ [s!"const unsigned char {bankArrayName bank.index}[] = \x7b"]
    ++ dataLines bank.image bank.used 0
    ++ ["\x7d;"]

end BankSource

/-- The data of all banks, one behind the other, each filled up with zeros to the size of a bank. -/
def bankImage (allocation : Allocation) : Array UInt8 :=
  allocation.banks.foldl (fun image bank =>
    image ++ bank.image ++ Array.replicate (allocation.capacity - bank.used) 0) #[]

end Cartridge
