import Cartridge.Picture.Bytes

/-!
# Chunks of PNG files

A PNG file is a signature and a series of chunks. A chunk has a size, a name, data, and a check of
the name and the data. Its name tells whether it may be passed over by a reader that does not know
it.

* `Png.chunks?` — the chunks up to the end of the picture's data, unless they are malformed.
* `Chunk.data` — the data of a chunk.
-/

namespace Cartridge.Png

open Bytes

/-- The bytes that a PNG file starts with. -/
def signature : List UInt8 := [0x89, 0x50, 0x4E, 0x47, 0x0D, 0x0A, 0x1A, 0x0A]

/-- The remainder of one byte in the cyclic redundancy check. -/
def checkTable : Array UInt32 :=
  (Array.range 256).map fun byte =>
    (List.range 8).foldl (fun (rest : UInt32) _ =>
      if rest &&& 1 == 1 then (0xEDB88320 : UInt32) ^^^ (rest >>> 1) else rest >>> 1)
      (UInt32.ofNat byte)

/-- The cyclic redundancy check of the bytes between two places. -/
def check (bytes : ByteArray) (start stop : Nat) : UInt32 :=
  let rest := (List.range (stop - start)).foldl (fun (rest : UInt32) index =>
    let byte := byteAt bytes (start + index)
    checkTable.getD ((rest ^^^ byte.toUInt32) &&& 0xFF).toNat 0 ^^^ (rest >>> 8)) 0xFFFFFFFF
  rest ^^^ 0xFFFFFFFF

/-- The number of four bytes at a place, the highest first. -/
def long? (bytes : ByteArray) (place : Nat) : Option Nat := big? bytes place 4

/-- A chunk: its name, where its data starts and how long it is. -/
structure Chunk where
  name : String
  start : Nat
  size : Nat

/-- Where the chunk behind a chunk starts. -/
def Chunk.next (chunk : Chunk) : Nat := chunk.start + chunk.size + 4

/-- The name and the size of the chunk at a place. -/
def chunkHead? (bytes : ByteArray) (place : Nat) : Option Chunk := do
  let size ← long? bytes place
  let _ ← long? bytes (place + 4)
  let name := String.ofList ((List.range 4).map fun index =>
    Char.ofNat ((byte? bytes (place + 4 + index)).getD 0))
  return ⟨name, place + 8, size⟩

/-- Whether a reader that does not know a chunk may pass over it. -/
def Chunk.isAncillary (chunk : Chunk) : Bool :=
  match chunk.name.toList with
  | first :: _ => first.toNat / 32 % 2 == 1
  | [] => false

/-- Whether a chunk that must be understood is. The data of the picture may have any size. -/
def Chunk.isUnderstood (chunk : Chunk) : Bool :=
  match chunk.name with
  | "IHDR" => chunk.size == 13
  | "PLTE" => 3 ≤ chunk.size && chunk.size ≤ 768
  | "IDAT" => true
  | _ => false

/-- Whether a chunk holds data of the picture. -/
def Chunk.isData (chunk : Chunk) : Bool := chunk.name == "IDAT"

/-- The data of a chunk. -/
def Chunk.data (bytes : ByteArray) (chunk : Chunk) : ByteArray :=
  bytes.extract chunk.start (chunk.start + chunk.size)

/-- The number at a place of the data of a chunk. -/
def Chunk.long? (bytes : ByteArray) (chunk : Chunk) (place : Nat) : Option Nat :=
  Png.long? bytes (chunk.start + place)

/-- The byte at a place of the data of a chunk. -/
def Chunk.byte (bytes : ByteArray) (chunk : Chunk) (place : Nat) : UInt8 :=
  byteAt bytes (chunk.start + place)

/-- The chunks from a place on up to the first one that follows the picture's data, of which the
head must be there. All of a chunk must be there, and its check is right; one that may be passed
over is, if its check is wrong. Every chunk that must be understood is, and only data may be spread
over several. No data of another frame comes before the picture's. -/
def chunksFrom (bytes : ByteArray) : (fuel : Nat) → (place : Nat) → (before : List Chunk) →
    Option (List Chunk)
  | 0, _, _ => none
  | fuel + 1, place, before => do
    let chunk ← chunkHead? bytes place
    if before.head?.any Chunk.isData && !chunk.isData then return before.reverse
    let written ← chunk.long? bytes chunk.size
    let isIntact := check bytes (chunk.start - 4) (chunk.start + chunk.size) == written.toUInt32
    let isRepeated := !chunk.isData && before.any (·.name == chunk.name)
    if chunk.name == "fdAT" then none
    if !chunk.isAncillary && (!isIntact || !chunk.isUnderstood || isRepeated) then none
    chunksFrom bytes fuel chunk.next (if isIntact then chunk :: before else before)

/-- The chunks up to the first one that follows the picture's data. The first one is the header. -/
def chunks? (bytes : ByteArray) : Option (List Chunk) := do
  let first ← chunkHead? bytes signature.length
  if first.name ≠ "IHDR" then none
  chunksFrom bytes (bytes.size + 1) signature.length []

end Cartridge.Png
