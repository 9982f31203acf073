import Cartridge.Bank.Geometry
import Cartridge.Table.Ordered
import Cartridge.Table.Total

/-!
# Placing symbols in banks

Symbols are placed one after the other, the largest first and equally large ones in the order of
their names. Each goes into the first bank that has room for it behind what is there already; if
none has, a bank is opened.

* `Allocation.ofBlobs` — the placement of symbols, or why they do not fit.
* `Bank.image` — the contents of a bank, with zeros between the symbols.
-/

namespace Cartridge

/-- A named run of bytes that must stay together. -/
structure Blob where
  name : String
  bytes : Array UInt8
  /-- Its offset is a multiple of this. -/
  align : Nat
  align_pos : 0 < align

namespace Blob

/-- A run of bytes with an alignment; none at all counts as one. -/
def aligned (name : String) (bytes : Array UInt8) (align : Nat) : Blob :=
  ⟨name, bytes, max align 1, Nat.lt_of_lt_of_le Nat.one_pos (Nat.le_max_right align 1)⟩

/-- The number of its bytes. -/
def size (blob : Blob) : Nat := blob.bytes.size

/-- Whether one symbol is placed before another: larger ones are, and of equally large ones those
with lesser names. -/
def precedes (first second : Blob) : Bool :=
  second.size < first.size || (second.size == first.size && first.name ≤ second.name)

end Blob

/-- A symbol in its place. -/
structure Placed where
  name : String
  offset : UInt16
  bytes : Array UInt8

/-- A bank that is being filled. -/
structure Bank where
  /-- Its number on the cartridge. -/
  index : UInt16
  /-- What it holds, in the order of the offsets. -/
  symbols : Array Placed
  /-- Where its last symbol ends. -/
  used : Nat

namespace Bank

/-- A bank that holds nothing. -/
def opened (index : UInt16) : Bank := ⟨index, #[], 0⟩

/-- Where a symbol would go, if there is room for it. -/
def fit? (capacity : Nat) (blob : Blob) (bank : Bank) : Option UInt16 :=
  let offset := (bank.used + blob.align - 1) / blob.align * blob.align
  if offset + blob.size ≤ capacity ∧ offset < 65536 then some (UInt16.ofNat offset) else none

/-- Puts a symbol at an offset behind all others. -/
def put (bank : Bank) (offset : UInt16) (blob : Blob) : Bank :=
  let ⟨index, symbols, _⟩ := bank
  ⟨index, symbols.push ⟨blob.name, offset, blob.bytes⟩, offset.toNat + blob.size⟩

/-- Puts a symbol where it fits; one that does not fit is left out. -/
def add (capacity : Nat) (blob : Blob) (bank : Bank) : Bank :=
  match bank.fit? capacity blob with
  | some offset => bank.put offset blob
  | none => bank

/-- Writes bytes over those from a place on. -/
def overwrite (image : Array UInt8) (place : Nat) : List UInt8 → Array UInt8
  | [] => image
  | byte :: bytes => overwrite (image.setIfInBounds place byte) (place + 1) bytes

/-- The contents of a bank up to where its last symbol ends. -/
def image (bank : Bank) : Array UInt8 :=
  bank.symbols.foldl (fun image symbol => overwrite image symbol.offset.toNat symbol.bytes.toList)
    (Array.replicate bank.used 0)

end Bank

/-- Where everything is on the cartridge. -/
structure Allocation where
  capacity : Nat
  firstBank : UInt16
  banks : Array Bank
  /-- The bank and the offset of each symbol, in the order of the banks. -/
  addresses : NameTable (UInt16 × UInt16)

namespace Allocation

/-- The bank and the offset of a symbol. -/
def address? (allocation : Allocation) (name : String) : Option (UInt16 × UInt16) :=
  allocation.addresses.get? name

/-- How many bytes of the banks are used. -/
def used (allocation : Allocation) : Nat :=
  total (allocation.banks.toList.map Bank.used)

/-- Places a symbol in the first bank with room, or in a new one. -/
def place (geometry : Geometry) (banks : Array Bank) (blob : Blob) :
    Except CapacityError (Array Bank) :=
  match banks.findIdx? fun bank => (bank.fit? geometry.capacity blob).isSome with
  | some found => .ok (banks.modify found (Bank.add geometry.capacity blob))
  | none =>
    if geometry.ceiling ≤ banks.size then
      .error (.ceilingExceeded blob.name blob.size (banks.size + 1) geometry.ceiling)
    else
      let index := geometry.firstBank + UInt16.ofNat banks.size
      .ok (banks.push ((Bank.opened index).put 0 blob))

/-- The addresses of all that the banks hold. -/
def addressTable (banks : Array Bank) : NameTable (UInt16 × UInt16) :=
  banks.foldl (fun table bank =>
    bank.symbols.foldl (fun table symbol =>
      table.insert symbol.name (bank.index, symbol.offset)) table) ∅

/-- The placement of symbols. Symbols that fit no bank are reported together, then a total that is
too large, then the first symbol that is not placed. -/
def ofBlobs (geometry : Geometry) (blobs : List Blob) : Except CapacityError Allocation := do
  let available ← geometry.budget
  let oversized := blobs.filter (geometry.capacity < ·.size)
  if !oversized.isEmpty then
    throw (.symbolTooLarge (oversized.map fun blob => (blob.name, blob.size)) geometry.capacity)
  let required := total (blobs.map Blob.size)
  if available < required then throw (.totalExceeded required available)
  let banks ← (blobs.mergeSort Blob.precedes).foldlM (place geometry) #[]
  return {
    capacity := geometry.capacity
    firstBank := geometry.firstBank
    banks
    addresses := addressTable banks }

end Allocation
end Cartridge
