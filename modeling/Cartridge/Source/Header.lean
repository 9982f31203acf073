import Cartridge.Game
import Cartridge.Source.Literal

/-!
# Generated headers

The headers give the engine the geometry of the banks, the indices of all symbols, the slots of
variables, flags and actors, the numbers of the operations, and the shapes of the tables.

* `Header.ofBanks` — the header of the banks.
* `Header.ofData` — the header of the tables.
* `Header.macros` — the macros that a header defines, with their values.
-/

namespace Cartridge

/-- The line that generated sources start with. -/
def banner : String := "// Auto-generated by cartforge - DO NOT EDIT"

/-- The name of the header of the banks. -/
def bankHeaderName : String := "banks.h"

/-- The name of the header of the tables. -/
def dataHeaderName : String := "data_ptrs.h"

/-- The name of an array with the data of a bank. -/
def bankArrayName (index : UInt16) : String := s!"bank_{Literal.ofBank index}_data"

namespace Header

/-- A line of a header. -/
inductive Line where
  | text (line : String)
  | define (name value : String)
  deriving DecidableEq, Repr

/-- A line as it is written. -/
def Line.render : Line → String
  | text line => line
  | define name value => s!"#define {name} {value}"

/-- The macros that lines define, with their values. -/
def macros (lines : List Line) : List (String × String) :=
  lines.filterMap fun line =>
    match line with
    | .define name value => some (name, value)
    | .text _ => none

/-- The lines as one text. -/
def render (lines : List Line) : String :=
  String.join (lines.map fun line => line.render ++ "\n")

/-- Lines without macros. -/
def texts (lines : List String) : List Line := lines.map .text

/-- A macro whose value is a number. -/
def count (name : String) (value : Nat) : Line := .define name (toString value)

/-- The header of the banks. -/
def ofBanks (allocation : Allocation) : List Line :=
  texts [banner, "#ifndef BANKS_H", "#define BANKS_H", ""]
    ++ [count "NUM_BANKS" allocation.banks.size,
      count "FIRST_DATA_BANK" allocation.firstBank.toNat,
      count "BANK_CAPACITY" allocation.capacity]
    ++ texts ["", "#endif"]

/-! ### The header of the tables -/

/-- The name of the macro of a symbol. -/
def symbolMacro (symbol : String) : String := "SYM_" ++ Identifier.upper symbol

/-- The macros of names and their slots. -/
def slotMacros (start : String) (slots : NameTable UInt8) : List Line :=
  slots.toList.map fun (name, slot) =>
    count (start ++ Identifier.upper (Identifier.ofName name)) slot.toNat

/-- The indices of the symbols and the slots of names. -/
def indexLines (tables : Tables) : List Line :=
  [.define "NO_SYMBOL" ("0x" ++ Hex.upper 4 noSymbol.toNat)]
    ++ (tables.symbols.toList.map fun (symbol, index) => count (symbolMacro symbol) index.toNat)
    ++ [count "SYMBOL_COUNT" tables.symbols.size,
      .define "START_SCENE_SYMBOL"
        (match tables.startScene with
          | some symbol => symbolMacro symbol
          | none => "NO_SYMBOL"),
      .text ""]
    ++ slotMacros "VAR_" tables.gameVariables
    ++ [count "NUM_VARIABLES" tables.gameVariables.size, .text ""]
    ++ slotMacros "FLAG_" tables.flags
    ++ [count "NUM_FLAGS" tables.flags.size, .text ""]
    ++ slotMacros "ACTOR_" tables.actors
    ++ [.text ""]

/-- The numbers of the operations. -/
def operationLines : List Line :=
  texts (["typedef enum \x7b"]
    ++ (Opcode.all.zipIdx.map fun (operation, index) => s!"    {operation.constant} = {index},")
    ++ ["\x7d script_opcode;", ""])

/-- The shapes of the placement tables. -/
def shapeLines : List Line :=
  texts [
    "typedef struct \x7b", "    uint16_t init;", "    uint16_t background;",
    "\x7d scene_def_t;", "",
    "typedef struct \x7b", "    uint8_t slot, scene, x, y;", "    uint16_t sprite;",
    "    uint16_t interact;", "\x7d actor_def_t;", "",
    "typedef struct \x7b", "    uint8_t scene, x, y, width, height;", "    uint16_t enter;",
    "\x7d trigger_def_t;", ""]

/-- The tables and the arrays of the banks. -/
def tableLines (world : World) (allocation : Allocation) : List Line :=
  [count "SCENE_COUNT" world.scenes.length, count "ACTOR_COUNT" world.actors.length,
      count "TRIGGER_COUNT" world.triggers.length]
    ++ texts ["", "extern const char GAME_TITLE[];", "extern const far_ptr_t symbol_table[];",
      "extern const scene_def_t scene_table[];", "extern const actor_def_t actor_table[];",
      "extern const trigger_def_t trigger_table[];"]
    ++ texts (allocation.banks.toList.map fun bank =>
      s!"extern const unsigned char {bankArrayName bank.index}[];")

/-- The header of the tables. -/
def ofData (game : Game) : List Line :=
  texts [banner, "#ifndef DATA_PTRS_H", "#define DATA_PTRS_H", "", "#include <stdint.h>",
      s!"#include \"{bankHeaderName}\"", "", "typedef struct \x7b", "    uint16_t bank;",
      "    uint16_t offset;", "\x7d far_ptr_t;", ""]
    ++ indexLines game.tables
    ++ operationLines
    ++ shapeLines
    ++ tableLines game.world game.allocation
    ++ texts ["", "#endif"]

end Header
end Cartridge
