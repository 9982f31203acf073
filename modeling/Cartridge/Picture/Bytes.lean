/-!
# Numbers in a file

* `Bytes.byte?`, `Bytes.byteAt` — the byte at a place, with nothing or zero behind the end.
* `Bytes.little?`, `Bytes.big?` — the number of several bytes, its lowest or its highest first.
-/

namespace Cartridge.Bytes

/-- The byte at a place. -/
def byte? (bytes : ByteArray) (place : Nat) : Option Nat :=
  if inside : place < bytes.size then some bytes[place].toNat else none

/-- The byte at a place, or zero behind the end. -/
def byteAt (bytes : ByteArray) (place : Nat) : UInt8 :=
  if inside : place < bytes.size then bytes[place] else 0

/-- The number of so many bytes from a place on, the lowest one first. -/
def little? (bytes : ByteArray) (place : Nat) : (count : Nat) → Option Nat
  | 0 => some 0
  | count + 1 => do
    let low ← byte? bytes place
    return low + 256 * (← little? bytes (place + 1) count)

/-- The number of so many bytes from a place on, the highest one first. -/
def big? (bytes : ByteArray) (place : Nat) : (count : Nat) → Option Nat
  | 0 => some 0
  | count + 1 => do
    let low ← byte? bytes (place + count)
    return low + 256 * (← big? bytes place count)

end Cartridge.Bytes
