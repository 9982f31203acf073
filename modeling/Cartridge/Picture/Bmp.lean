import Cartridge.Picture.Basic
import Cartridge.Picture.Bytes

/-!
# BMP pictures

A BMP file says where its rows are. A header tells their size and what a pixel is: the number of a
colour of a palette, or a word with a field of bits for each channel. Numbers of colours may be
written as runs. The rows come from the lowest to the highest unless the height is negative.

* `Bmp.picture?` — the picture of a file, unless it is malformed.
-/

namespace Cartridge.Bmp

open Bytes

/-- The bytes that a BMP file starts with. -/
def signature : List UInt8 := [0x42, 0x4D]

/-- Where the header is. -/
def headerStart : Nat := 14

/-! ### Fields of bits -/

/-- A field of the word of a pixel: its bits start at `shift`, and there are `length` of them. -/
structure BitField where
  shift : Nat
  length : Nat

/-- The field of the set bits of a mask, counted from its lowest bit. -/
def BitField.ofMask (mask : Nat) : (bits : Nat) → BitField
  | 0 => ⟨0, 0⟩
  | bits + 1 =>
    let rest := BitField.ofMask (mask / 2) bits
    if mask % 2 = 1 then ⟨0, if rest.shift = 0 then rest.length + 1 else 1⟩
    else ⟨rest.shift + 1, rest.length⟩

/-- The mask whose set bits are those of a field. -/
def BitField.mask (field : BitField) : Nat := (1 <<< field.length - 1) <<< field.shift

/-- The field of a mask, which must be one run of bits of the word. The empty mask is no field. -/
def field? (bits mask : Nat) : Option BitField :=
  let field := BitField.ofMask mask bits
  if mask = 0 ∨ field.mask ≠ mask then none else some field

/-- The value of a field as a byte. Of more than eight bits the upper eight count. -/
def BitField.read (field : BitField) (word : Nat) : UInt8 :=
  let dropped := field.length - 8
  let kept := field.length - dropped
  scaledSample kept (word >>> (field.shift + dropped) % 1 <<< kept)

/-- The fields of the word of a pixel. -/
structure Channels where
  red : BitField
  green : BitField
  blue : BitField
  /-- A word without such a field is opaque. -/
  alpha : Option BitField

/-- The pixel of a word. -/
def Channels.pixel (channels : Channels) (word : Nat) : Pixel :=
  .ofColor (channels.red.read word) (channels.green.read word) (channels.blue.read word)
    (match channels.alpha with
      | some field => field.read word
      | none => 255)

/-- Five bits for each channel. -/
def fiveBits : Channels := ⟨⟨10, 5⟩, ⟨5, 5⟩, ⟨0, 5⟩, none⟩

/-- Eight bits for each channel. -/
def eightBits : Channels := ⟨⟨16, 8⟩, ⟨8, 8⟩, ⟨0, 8⟩, none⟩

/-- The fields whose masks start at a place. -/
def channels? (bytes : ByteArray) (bits place : Nat) (hasAlpha : Bool) : Option Channels := do
  let red ← field? bits (← little? bytes place 4)
  let green ← field? bits (← little? bytes (place + 4) 4)
  let blue ← field? bits (← little? bytes (place + 8) 4)
  let opacity ← if hasAlpha then little? bytes (place + 12) 4 else some 0
  if opacity = 0 then return ⟨red, green, blue, none⟩
  return ⟨red, green, blue, some (← field? bits opacity)⟩

/-! ### The header -/

/-- What a pixel is. -/
inductive Format where
  /-- The number of a colour, of that many bits. -/
  | indexed (bits : Nat)
  /-- Numbers of colours, of that many bits, written as runs. -/
  | runs (bits : Nat)
  /-- A word of that many bits. -/
  | words (bits : Nat) (channels : Channels)

/-- The header of a picture. -/
structure Header where
  width : Nat
  height : Nat
  /-- Whether the highest row comes first. -/
  isTopDown : Bool
  format : Format
  /-- Where the palette is, if there is one. -/
  paletteStart : Nat
  /-- How many colours the palette has; zero stands for as many as can be numbered. -/
  colorsUsed : Nat
  /-- How many bytes a colour of the palette takes. -/
  colorBytes : Nat

/-- The sizes of the headers that are like the usual one, which the others continue. -/
def headerSizes : List Nat := [40, 52, 56, 108, 124]

/-- The header of the oldest form. -/
def oldHeader? (bytes : ByteArray) : Option Header := do
  let width ← little? bytes 18 2
  let height ← little? bytes 20 2
  let planes ← little? bytes 22 2
  let bits ← little? bytes 24 2
  if width = 0 ∨ height = 0 ∨ planes ≠ 1 then none
  let format ← if bits = 24 then some (Format.words 24 eightBits)
    else if bits ∈ [1, 4, 8] then some (.indexed bits) else none
  return ⟨width, height, false, format, 26, 0, 3⟩

/-- What a pixel is, given the depth and the number of the compression. -/
def format? (bytes : ByteArray) (size bits : Nat) : (compression : Nat) → Option Format
  | 0 =>
    if bits ∈ [1, 2, 4, 8] then some (.indexed bits)
    else if bits = 16 then some (.words 16 fiveBits)
    else if bits = 24 ∨ bits = 32 then some (.words bits eightBits)
    else none
  | 1 => if bits = 8 then some (.runs 8) else none
  | 2 => if bits = 4 then some (.runs 4) else none
  | 3 =>
    if bits = 16 ∨ bits = 32 then
      (channels? bytes bits 54 (56 ≤ size)).map (Format.words bits)
    else none
  | _ => none

/-- The header of a usual form. -/
def usualHeader? (bytes : ByteArray) (size : Nat) : Option Header := do
  let width ← little? bytes 18 4
  let written ← little? bytes 22 4
  let planes ← little? bytes 26 2
  let bits ← little? bytes 28 2
  let compression ← little? bytes 30 4
  let colorsUsed ← little? bytes 46 4
  let _ ← little? bytes 50 4
  let isTopDown := 0x80000000 ≤ written
  let height := if isTopDown then 0x100000000 - written else written
  if width = 0 ∨ height = 0 ∨ 0xFFFF < width ∨ 0xFFFF < height ∨ planes ≠ 1 then none
  if isTopDown ∧ compression ≠ 0 ∧ compression ≠ 3 then none
  let format ← format? bytes size bits compression
  let masks := if size = 40 ∧ compression = 3 then 12 else 0
  return ⟨width, height, isTopDown, format, headerStart + size + masks, colorsUsed, 4⟩

/-- The header of a file. -/
def header? (bytes : ByteArray) : Option Header := do
  let size ← little? bytes headerStart 4
  if size = 12 then oldHeader? bytes
  else if size ∈ headerSizes then usualHeader? bytes size
  else none

/-! ### Palettes -/

/-- The colours that numbers of so many bits stand for. A number without a colour is black. -/
def palette? (bytes : ByteArray) (header : Header) (bits : Nat) : Option (Array Pixel) :=
  let count := if header.colorsUsed = 0 then 1 <<< bits else header.colorsUsed
  if 1 <<< bits < count ∨ bytes.size < header.paletteStart + count * header.colorBytes then none
  else some ((Array.range count).map fun number =>
    let place := header.paletteStart + number * header.colorBytes
    .ofColor (byteAt bytes (place + 2)) (byteAt bytes (place + 1)) (byteAt bytes place) 255)

/-- An opaque black pixel. -/
def black : Pixel := .gray 0 255

/-- The colour of a number. -/
def color (palette : Array Pixel) (number : Nat) : Pixel := palette.getD number black

/-- The number at an index of a row of numbers of so many bits, the first in the highest bits. -/
def numberAt (bytes : ByteArray) (start bits index : Nat) : Nat :=
  let position := index * bits
  ((byteAt bytes (start + position / 8)).toNat >>> (8 - bits - position % 8)) % 1 <<< bits

/-! ### Rows -/

/-- The bytes of a row. They fill words of four bytes. -/
def rowBytes (width bits : Nat) : Nat := (width * bits + 31) / 32 * 4

/-- The pixels of the rows from a place on, in the order of the file. -/
def rows? (bytes : ByteArray) (start width height bits : Nat) (pixel : Nat → Nat → Pixel) :
    Option (Array Pixel) :=
  if bytes.size < start + height * rowBytes width bits then none
  else some <| (List.range height).foldl (fun pixels row =>
    (List.range width).foldl (fun pixels index =>
      pixels.push (pixel (start + row * rowBytes width bits) index)) pixels) #[]

/-- Where the next pixel of a picture that is written as runs goes. Pixels that are passed over are
black. -/
structure Pen where
  width : Nat
  height : Nat
  /-- The pixels so far, row by row in the order of the file. -/
  pixels : Array Pixel
  row : Nat
  column : Nat

/-- Where the first pixel of a picture goes. -/
def Pen.start (width height : Nat) : Pen :=
  ⟨width, height, Array.replicate (width * height) black, 0, 0⟩

/-- Writes pixels and goes on behind them. Nothing is written behind the end of the row. -/
def Pen.write (pen : Pen) (count : Nat) (pixel : Nat → Pixel) : Pen :=
  let ⟨width, height, pixels, row, column⟩ := pen
  let indices := List.range (min count (width - column))
  let written := indices.foldl (fun (pixels : Array Pixel) index =>
    pixels.setIfInBounds (row * width + column + index) (pixel index)) pixels
  ⟨width, height, written, row, column + count⟩

/-- Writes pixels, unless there is no room for them in the row. -/
def Pen.write? (pen : Pen) (count : Nat) (pixel : Nat → Pixel) : Option Pen :=
  if pen.width < pen.column + count then none else some (pen.write count pixel)

/-- Goes to the beginning of the next row. -/
def Pen.nextRow (pen : Pen) : Pen := { pen with row := pen.row + 1, column := 0 }

/-- Goes to the right and up by a distance, but not out of the picture. -/
def Pen.move? (pen : Pen) (right up : Nat) : Option Pen :=
  if (right = 0 ∧ up = 0) ∨ (pen.column + right ≤ pen.width ∧ pen.row + up < pen.height) then
    some { pen with row := pen.row + up, column := pen.column + right }
  else none

/-- Carries out the runs from a place on until the rows are full. Numbers of eight bits may be
repeated beyond the end of a row. Each run takes two bytes at least, so that one unit of fuel for
each byte is enough. -/
def runs? (bytes : ByteArray) (palette : Array Pixel) (bits : Nat) :
    (fuel : Nat) → (place : Nat) → Pen → Option (Array Pixel)
  | 0, _, _ => none
  | fuel + 1, place, pen => do
    if pen.height ≤ pen.row then return pen.pixels
    match ← byte? bytes place, ← byte? bytes (place + 1) with
    | 0, 0 => runs? bytes palette bits fuel (place + 2) pen.nextRow
    | 0, 1 => return pen.pixels
    | 0, 2 =>
      let moved ← pen.move? (← byte? bytes (place + 2)) (← byte? bytes (place + 3))
      runs? bytes palette bits fuel (place + 4) moved
    | 0, count =>
      let size := (count * bits + 15) / 16 * 2
      if bytes.size < place + 2 + size then none
      let pixel (index : Nat) : Pixel := color palette (numberAt bytes (place + 2) bits index)
      runs? bytes palette bits fuel (place + 2 + size) (← pen.write? count pixel)
    | count, _ =>
      let pixel (index : Nat) : Pixel :=
        color palette (numberAt bytes (place + 1) bits (index % (8 / bits)))
      let written ← if bits = 8 then some (pen.write count pixel) else pen.write? count pixel
      runs? bytes palette bits fuel (place + 2) written

/-- The pixels of a file, in the order of its rows. -/
def pixels? (bytes : ByteArray) (header : Header) (start : Nat) : Option (Array Pixel) := do
  match header.format with
  | .indexed bits =>
    let palette ← palette? bytes header bits
    rows? bytes start header.width header.height bits fun row index =>
      color palette (numberAt bytes row bits index)
  | .words bits channels =>
    rows? bytes start header.width header.height bits fun row index =>
      channels.pixel ((little? bytes (row + index * (bits / 8)) (bits / 8)).getD 0)
  | .runs bits =>
    let palette ← palette? bytes header bits
    runs? bytes palette bits (bytes.size + 1) start (.start header.width header.height)

/-- The greatest number of pixels of a picture. -/
def pixelLimit : Nat := 0x20000000 / 3

/-- The picture of a file. -/
def picture? (bytes : ByteArray) : Option Picture := do
  let start ← little? bytes 10 4
  let header ← header? bytes
  if pixelLimit < header.width * header.height then none
  let pixels ← pixels? bytes header start
  let ordered := if header.isTopDown then pixels else
    (List.range header.height).foldl (fun ordered row =>
      let first := (header.height - 1 - row) * header.width
      ordered ++ pixels.extract first (first + header.width)) #[]
  return ⟨header.width, header.height, ordered⟩

end Cartridge.Bmp
