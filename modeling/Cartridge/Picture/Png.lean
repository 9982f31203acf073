import Cartridge.Picture.Basic
import Cartridge.Picture.Inflate
import Cartridge.Picture.Png.Chunk

/-!
# PNG pictures

The first chunk of a PNG file is the picture's header. Others tell of colours, of the space that the
colours are in, and of the frames of a moving picture, of which the picture is the first. Its rows
are filtered and compressed, and may be spread over several chunks and, interlaced, over seven
passes.

* `Png.picture?` — the picture of a file, unless it is malformed.
-/

namespace Cartridge.Png

open Bytes

/-! ### The header -/

/-- What a pixel consists of. -/
inductive ColorType where
  | gray
  | color
  | indexed
  | grayAlpha
  | colorAlpha
  deriving DecidableEq, Repr

/-- The header of a picture. -/
structure Header where
  width : Nat
  height : Nat
  /-- The bits of a sample. -/
  depth : Nat
  colorType : ColorType
  isInterlaced : Bool

/-- How many samples a pixel has. -/
def ColorType.samples : ColorType → Nat
  | gray | indexed => 1
  | grayAlpha => 2
  | color => 3
  | colorAlpha => 4

/-- The sample depths that go with a colour type. -/
def ColorType.depths : ColorType → List Nat
  | gray => [1, 2, 4, 8, 16]
  | indexed => [1, 2, 4, 8]
  | color | grayAlpha | colorAlpha => [8, 16]

/-- The colour type that a number stands for. -/
def colorType? : Nat → Option ColorType
  | 0 => some .gray
  | 2 => some .color
  | 3 => some .indexed
  | 4 => some .grayAlpha
  | 6 => some .colorAlpha
  | _ => none

/-- The header that a chunk holds. -/
def header? (bytes : ByteArray) (chunk : Chunk) : Option Header := do
  let width ← chunk.long? bytes 0
  let height ← chunk.long? bytes 4
  let depth ← byte? bytes (chunk.start + 8)
  let colorType ← colorType? (← byte? bytes (chunk.start + 9))
  let compression ← byte? bytes (chunk.start + 10)
  let filter ← byte? bytes (chunk.start + 11)
  let interlace ← byte? bytes (chunk.start + 12)
  if width = 0 ∨ height = 0 ∨ depth ∉ colorType.depths then none
  if compression ≠ 0 ∨ filter ≠ 0 ∨ 1 < interlace then none
  return ⟨width, height, depth, colorType, interlace == 1⟩

/-- The bits of a pixel. -/
def Header.pixelBits (header : Header) : Nat := header.depth * header.colorType.samples

/-- The bytes of a row of so many pixels. -/
def Header.rowBytes (header : Header) (width : Nat) : Nat := (width * header.pixelBits + 7) / 8

/-- A pass of an interlaced picture: it starts at a column and a row and goes on in steps. -/
structure Pass where
  column : Nat
  row : Nat
  columnStep : Nat
  rowStep : Nat

/-- The passes of an interlaced picture. -/
def passes : List Pass :=
  [⟨0, 0, 8, 8⟩, ⟨4, 0, 8, 8⟩, ⟨0, 4, 4, 8⟩, ⟨2, 0, 4, 4⟩, ⟨0, 2, 2, 4⟩, ⟨1, 0, 2, 2⟩,
    ⟨0, 1, 1, 2⟩]

/-- How many columns of a picture a pass has. -/
def Pass.columns (pass : Pass) (header : Header) : Nat :=
  (header.width - pass.column + pass.columnStep - 1) / pass.columnStep

/-- How many rows of a picture a pass has. -/
def Pass.rows (pass : Pass) (header : Header) : Nat :=
  (header.height - pass.row + pass.rowStep - 1) / pass.rowStep

/-- The bytes of so many rows, each with its filter. Rows without columns are not written. -/
def Header.filteredBytes (header : Header) (columns rows : Nat) : Nat :=
  if columns = 0 then 0 else rows * (1 + header.rowBytes columns)

/-- How many bytes the rows of a picture take before they are compressed. -/
def Header.dataSize (header : Header) : Nat :=
  if header.isInterlaced then
    passes.foldl (fun size pass =>
      size + header.filteredBytes (pass.columns header) (pass.rows header)) 0
  else header.filteredBytes header.width header.height

/-! ### Rows -/

/-- The neighbour that a linear estimate from the left, upper and upper left ones is closest to. -/
def paeth (left upper corner : UInt8) : UInt8 :=
  let estimate : Int := (left.toNat : Int) + upper.toNat - corner.toNat
  let fromLeft := (estimate - left.toNat).natAbs
  let fromUpper := (estimate - upper.toNat).natAbs
  let fromCorner := (estimate - corner.toNat).natAbs
  if fromLeft ≤ fromUpper && fromLeft ≤ fromCorner then left
  else if fromUpper ≤ fromCorner then upper
  else corner

/-- What a filter adds to a byte. -/
def predicted (filter : Nat) (left upper corner : UInt8) : UInt8 :=
  match filter with
  | 1 => left
  | 2 => upper
  | 3 => UInt8.ofNat ((left.toNat + upper.toNat) / 2)
  | 4 => paeth left upper corner
  | _ => 0

/-- The row whose filtered bytes start at a place, behind the row above. Bytes are predicted from
those `stride` bytes to the left. -/
def unfilteredRow (data : ByteArray) (place size stride filter : Nat) (above : ByteArray) :
    ByteArray :=
  (List.range size).foldl (fun row index =>
    let left := if index < stride then 0 else byteAt row (index - stride)
    let corner := if index < stride then 0 else byteAt above (index - stride)
    row.push (byteAt data (place + index) + predicted filter left (byteAt above index) corner))
    (ByteArray.emptyWithCapacity size)

/-- The rows of a picture or of a pass, and where its data ends. -/
def unfilteredRows (data : ByteArray) (size stride : Nat) : (count : Nat) → (place : Nat) →
    (above : ByteArray) → Array ByteArray → Option (Array ByteArray × Nat)
  | 0, place, _, rows => some (rows, place)
  | count + 1, place, above, rows => do
    let filter ← byte? data place
    if 4 < filter ∨ data.size < place + 1 + size then none
    let row := unfilteredRow data (place + 1) size stride filter above
    unfilteredRows data size stride count (place + 1 + size) row (rows.push row)

/-! ### Pixels -/

/-- What the chunks before the data tell about colours. -/
structure Colors where
  /-- The channels of the palette, three bytes to a colour. -/
  palette : ByteArray
  /-- What is transparent: the samples of one colour, or the opacity of the palette's colours. -/
  transparency : Option ByteArray

/-- How many colours a palette has. -/
def Colors.size (colors : Colors) : Nat := colors.palette.size / 3

/-- A channel of a colour of the palette. What is behind its end is black. -/
def Colors.channel (colors : Colors) (number channel : Nat) : UInt8 :=
  if number < colors.size then byteAt colors.palette (3 * number + channel) else 0

/-- The opacity of a colour of the palette. Opacities count only if there are no more of them than
colours. -/
def Colors.opacity (colors : Colors) (number : Nat) : UInt8 :=
  match colors.transparency with
  | some values =>
    if values.size ≤ colors.size ∧ number < values.size then byteAt values number else 255
  | none => 255

/-- The sample of that number in a row. -/
def sample (depth : Nat) (row : ByteArray) (index : Nat) : Nat :=
  if depth = 16 then (byteAt row (2 * index)).toNat * 256 + (byteAt row (2 * index + 1)).toNat
  else
    let position := index * depth
    ((byteAt row (position / 8)).toNat >>> (8 - depth - position % 8)) % 1 <<< depth

/-- The transparent value of that number, as samples of a depth are compared with it. -/
def transparentSample (depth : Nat) (transparency : ByteArray) (index : Nat) : Nat :=
  let low := (byteAt transparency (2 * index + 1)).toNat
  if depth = 16 then (byteAt transparency (2 * index)).toNat * 256 + low else low

/-- The pixel of that number in a row. Samples of two bytes are compared only with a transparent
colour that has no bytes behind them. -/
def pixel (header : Header) (colors : Colors) (row : ByteArray) (index : Nat) : Pixel :=
  let raw (channel : Nat) : Nat :=
    sample header.depth row (index * header.colorType.samples + channel)
  let scaled (channel : Nat) : UInt8 := scaledSample header.depth (raw channel)
  let clear (channels : Nat) : UInt8 :=
    match colors.transparency with
    | some values =>
      let isExact := header.depth < 16 || values.size == 2 * channels
      if isExact && (List.range channels).all fun channel =>
        raw channel == transparentSample header.depth values channel then 0 else 255
    | none => 255
  match header.colorType with
  | .gray => .gray (scaled 0) (clear 1)
  | .grayAlpha => .gray (scaled 0) (scaled 1)
  | .color => .ofColor (scaled 0) (scaled 1) (scaled 2) (clear 3)
  | .colorAlpha => .ofColor (scaled 0) (scaled 1) (scaled 2) (scaled 3)
  | .indexed =>
    let number := raw 0
    .ofColor (colors.channel number 0) (colors.channel number 1) (colors.channel number 2)
      (colors.opacity number)

/-- The distance of the bytes that predict each other. -/
def Header.stride (header : Header) : Nat := max 1 (header.pixelBits / 8)

/-- The pixels of a picture whose rows stand one after the other. -/
def plainPixels (header : Header) (colors : Colors) (data : ByteArray) :
    Option (Array Pixel) := do
  let (rows, _) ← unfilteredRows data (header.rowBytes header.width) header.stride header.height 0
    ByteArray.empty #[]
  return rows.foldl (fun pixels row =>
    (List.range header.width).foldl (fun pixels index =>
      pixels.push (pixel header colors row index)) pixels)
    (Array.emptyWithCapacity (header.width * header.height))

/-- The rows of the passes of an interlaced picture, one pass behind the other in the data. -/
def passRows (header : Header) (data : ByteArray) (place : Nat) :
    List Pass → Option (List (Pass × Array ByteArray))
  | [] => some []
  | pass :: later => do
    let columns := pass.columns header
    let count := pass.rows header
    if columns = 0 ∨ count = 0 then passRows header data place later
    else
      let (rows, place) ← unfilteredRows data (header.rowBytes columns) header.stride count place
        ByteArray.empty #[]
      return (pass, rows) :: (← passRows header data place later)

/-- The pixels of an interlaced picture. -/
def interlacedPixels (header : Header) (colors : Colors) (data : ByteArray) :
    Option (Array Pixel) := do
  let passes ← passRows header data 0 passes
  return passes.foldl (fun pixels (pass, rows) =>
    rows.toList.zipIdx.foldl (fun pixels (row, y) =>
      let first := (pass.row + y * pass.rowStep) * header.width + pass.column
      (List.range (pass.columns header)).foldl (fun (pixels : Array Pixel) x =>
        pixels.setIfInBounds (first + x * pass.columnStep) (pixel header colors row x)) pixels)
      pixels)
    (Array.replicate (header.width * header.height) default)

/-! ### What the chunks tell -/

/-- Whether a chunk tells of a frame that can be the picture: the frame has the number that is its
turn and the size of the picture, and what is done behind and below it is known. -/
def Chunk.isFrame (bytes : ByteArray) (header : Header) (chunk : Chunk) (number : Nat) : Bool :=
  chunk.size == 26 && chunk.long? bytes 0 == some number
    && chunk.long? bytes 4 == some header.width && chunk.long? bytes 8 == some header.height
    && chunk.long? bytes 12 == some 0 && chunk.long? bytes 16 == some 0
    && chunk.byte bytes 24 ≤ 2 && chunk.byte bytes 25 ≤ 1

/-- Whether the frames that chunks tell of can be the picture. -/
def areFrames (bytes : ByteArray) (header : Header) (chunks : List Chunk) : Bool :=
  (chunks.filter (·.name == "fcTL")).zipIdx.all fun (chunk, number) =>
    chunk.isFrame bytes header number

/-- Whether a chunk tells of a space in which colours have a red, a green and a blue part. -/
def Chunk.isColorSpace (bytes : ByteArray) (chunk : Chunk) : Bool :=
  chunk.byte bytes 2 == 0 && chunk.byte bytes 3 ≤ 1

/-- Whether the colours of a picture are in a space that can be. The first chunk of the right size
before the palette tells of it. -/
def hasColorSpace (bytes : ByteArray) (chunks : List Chunk) : Bool :=
  ((chunks.takeWhile (·.name != "PLTE")).find? fun chunk =>
    chunk.name == "cICP" && chunk.size == 4).all (Chunk.isColorSpace bytes)

/-- Whether a chunk tells what is transparent in a picture of a colour type. -/
def Chunk.isTransparency (colorType : ColorType) (chunk : Chunk) : Bool :=
  chunk.name == "tRNS" && chunk.size ≤ 256 &&
    match colorType with
    | .gray => 2 ≤ chunk.size
    | .color => 6 ≤ chunk.size
    | .indexed => 1 ≤ chunk.size
    | .grayAlpha | .colorAlpha => false

/-- What the chunks tell about colours. A picture whose pixels are numbers of colours must have a
palette, and their opacities follow it. -/
def colors? (bytes : ByteArray) (colorType : ColorType) (chunks : List Chunk) : Option Colors :=
  let behind := chunks.dropWhile (·.name != "PLTE")
  match colorType with
  | .indexed => do
    let palette ← behind.head?
    let transparency := behind.find? (Chunk.isTransparency .indexed)
    return ⟨palette.data bytes, transparency.map (Chunk.data bytes)⟩
  | _ =>
    let transparency := chunks.find? (Chunk.isTransparency colorType)
    some ⟨ByteArray.empty, transparency.map (Chunk.data bytes)⟩

/-- The picture of a file. -/
def picture? (bytes : ByteArray) : Option Picture := do
  let chunks ← chunks? bytes
  let header ← header? bytes (← chunks.head?)
  let colors ← colors? bytes header.colorType chunks
  if !areFrames bytes header chunks || !hasColorSpace bytes chunks then none
  let compressed := (chunks.filter Chunk.isData).map (Chunk.data bytes)
  let data ← Inflate.zlib? compressed header.dataSize
  let pixels ← if header.isInterlaced then interlacedPixels header colors data
    else plainPixels header colors data
  return ⟨header.width, header.height, pixels⟩

end Cartridge.Png
