import Cartridge.Bytecode.Instruction
import Cartridge.Picture.Basic
import Cartridge.Table.Ordered

/-!
# Shades and tiles

The screen shows four shades, from the lightest (0) to the darkest (3), and is put together from
tiles of eight by eight pixels. A tile has two bytes for each of its rows: the lower bits of the
shades, then the upper ones, the leftmost pixel in the highest bit.

* `ShadeGrid.ofPicture` — the shades of a picture that consists of whole tiles.
* `ShadeGrid.imagePayload` — the tiles of a picture, row by row.
* `ShadeGrid.tilesetPayload` — the different tiles of a picture, and which of them stands where.
-/

namespace Cartridge

/-- The width and the height of a tile, in pixels. -/
def tileSide : Nat := 8

/-- The shades of a picture, row by row. -/
structure ShadeGrid where
  /-- The width in tiles. -/
  columns : UInt8
  /-- The height in tiles. -/
  rows : UInt8
  /-- The shades of the pixels, row by row. -/
  shades : Array UInt8

/-- The bytes of a tile. -/
abbrev Tile : Type := List UInt8

/-- Why a picture cannot be cut into tiles, or its tiles cannot be stored. -/
inductive ShadeGrid.Fault where
  /-- A side is no multiple of a tile's side. -/
  | ragged (width height : Nat)
  /-- There are more tiles on a side than a byte can count. -/
  | tooLarge (width height : Nat)
  /-- There are more different tiles than a byte can number. -/
  | tooManyTiles
  deriving DecidableEq, Repr

/-- The shade of a pixel. What is more than half transparent is as light as can be. -/
def Pixel.shade (pixel : Pixel) : UInt8 :=
  if pixel.alpha < 128 then 0 else (255 - pixel.luma) / 64

namespace ShadeGrid

/-- The shades of a picture. -/
def ofPicture (picture : Picture) : Except Fault ShadeGrid :=
  let ⟨width, height, pixels⟩ := picture
  if width = 0 ∨ height = 0 ∨ width % tileSide ≠ 0 ∨ height % tileSide ≠ 0 then
    .error (.ragged width height)
  else if 255 < width / tileSide ∨ 255 < height / tileSide then .error (.tooLarge width height)
  else
    .ok ⟨UInt8.ofNat (width / tileSide), UInt8.ofNat (height / tileSide), pixels.map Pixel.shade⟩

/-- The width in pixels. -/
def width (grid : ShadeGrid) : Nat := grid.columns.toNat * tileSide

/-- The shade of a pixel. -/
def shade (grid : ShadeGrid) (x y : Nat) : UInt8 := grid.shades.getD (y * grid.width + x) 0

/-- One bit of the shades of eight pixels, the first pixel in the highest bit. -/
def plane (bit : UInt8) (shades : List UInt8) : UInt8 :=
  shades.foldl (fun packed shade => packed <<< 1 ||| (shade >>> bit &&& 1)) 0

/-- The bytes of the tile in a column and a row. -/
def tile (grid : ShadeGrid) (column row : Nat) : Tile :=
  (List.range tileSide).flatMap fun line =>
    let shades := (List.range tileSide).map fun pixel =>
      grid.shade (column * tileSide + pixel) (row * tileSide + line)
    [plane 0 shades, plane 1 shades]

/-- The tiles of a picture, row by row. -/
def tiles (grid : ShadeGrid) : List Tile :=
  (List.range grid.rows.toNat).flatMap fun row =>
    (List.range grid.columns.toNat).map fun column => grid.tile column row

/-- The payload of an image: its size in tiles, then its tiles. -/
def imagePayload (grid : ShadeGrid) : List UInt8 :=
  grid.columns :: grid.rows :: grid.tiles.flatten

/-- The greatest number of different tiles in a tileset. -/
def tilesetLimit : Nat := 256

/-- Numbers a tile as an earlier equal one, or else with the next number. -/
def numberTile (state : OrderedTable Tile UInt8 × Array UInt8) (tile : Tile) :
    Except Fault (OrderedTable Tile UInt8 × Array UInt8) :=
  let (numbers, map) := state
  match numbers.get? tile with
  | some number => .ok (numbers, map.push number)
  | none =>
    if tilesetLimit ≤ numbers.size then .error .tooManyTiles
    else
      let number := UInt8.ofNat numbers.size
      .ok (numbers.insert tile number, map.push number)

/-- The payload of a tileset: its size in tiles, how many different tiles there are, the number of
the tile at each place, and the different tiles. -/
def tilesetPayload (grid : ShadeGrid) : Except Fault (List UInt8) := do
  let (numbers, map) ← grid.tiles.foldlM numberTile (∅, #[])
  return grid.columns :: grid.rows :: littleEndian (UInt16.ofNat numbers.size)
    ++ map.toList ++ numbers.keys.toList.flatten

end ShadeGrid
end Cartridge
