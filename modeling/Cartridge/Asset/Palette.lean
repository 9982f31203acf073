import Cartridge.Bytecode.Instruction
import Cartridge.Project.Basic

/-!
# Palettes

* `Palette.payload` — the payload of a palette: its colours in five bits per channel.
-/

namespace Cartridge

/-- The word of a colour: five bits of red, then of green and of blue, from the lowest bit on. -/
def Color.word (color : Color) : UInt16 :=
  (color.red >>> 3).toUInt16 ||| ((color.green >>> 3).toUInt16 <<< 5)
    ||| ((color.blue >>> 3).toUInt16 <<< 10)

/-- The payload of a palette. -/
def Palette.payload (palette : Palette) : List UInt8 :=
  palette.colors.toList.flatMap fun color => littleEndian color.word

end Cartridge
