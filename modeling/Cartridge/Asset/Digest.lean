import Cartridge.Text.Hex

/-!
# SHA-256

* `Digest.ofBytes` — the SHA-256 digest of some bytes.
* `Digest.hex` — its text.
-/

namespace Cartridge

/-- The 32 bytes of a digest. -/
abbrev Digest : Type := List UInt8

namespace Digest

/-- The fractional bits of the cube roots of the first 64 primes. -/
def roundConstants : Array UInt32 := #[
  0x428a2f98, 0x71374491, 0xb5c0fbcf, 0xe9b5dba5, 0x3956c25b, 0x59f111f1, 0x923f82a4, 0xab1c5ed5,
  0xd807aa98, 0x12835b01, 0x243185be, 0x550c7dc3, 0x72be5d74, 0x80deb1fe, 0x9bdc06a7, 0xc19bf174,
  0xe49b69c1, 0xefbe4786, 0x0fc19dc6, 0x240ca1cc, 0x2de92c6f, 0x4a7484aa, 0x5cb0a9dc, 0x76f988da,
  0x983e5152, 0xa831c66d, 0xb00327c8, 0xbf597fc7, 0xc6e00bf3, 0xd5a79147, 0x06ca6351, 0x14292967,
  0x27b70a85, 0x2e1b2138, 0x4d2c6dfc, 0x53380d13, 0x650a7354, 0x766a0abb, 0x81c2c92e, 0x92722c85,
  0xa2bfe8a1, 0xa81a664b, 0xc24b8b70, 0xc76c51a3, 0xd192e819, 0xd6990624, 0xf40e3585, 0x106aa070,
  0x19a4c116, 0x1e376c08, 0x2748774c, 0x34b0bcb5, 0x391c0cb3, 0x4ed8aa4a, 0x5b9cca4f, 0x682e6ff3,
  0x748f82ee, 0x78a5636f, 0x84c87814, 0x8cc70208, 0x90befffa, 0xa4506ceb, 0xbef9a3f7, 0xc67178f2]

/-- The eight words that a digest is computed in. -/
structure State where
  a : UInt32
  b : UInt32
  c : UInt32
  d : UInt32
  e : UInt32
  f : UInt32
  g : UInt32
  h : UInt32

/-- The fractional bits of the square roots of the first eight primes. -/
def State.initial : State :=
  ⟨0x6a09e667, 0xbb67ae85, 0x3c6ef372, 0xa54ff53a, 0x510e527f, 0x9b05688c, 0x1f83d9ab, 0x5be0cd19⟩

/-- A word turned to the right. -/
def rotate (word : UInt32) (count : UInt32) : UInt32 :=
  (word >>> count) ||| (word <<< (32 - count))

/-- The 64 words of a block: its own 16 ones, and 48 made from them. -/
def schedule (block : Array UInt32) : Array UInt32 :=
  (List.range 48).foldl (fun words index =>
    let early := words.getD (index + 1) 0
    let late := words.getD (index + 14) 0
    let small := rotate early 7 ^^^ rotate early 18 ^^^ (early >>> 3)
    let large := rotate late 17 ^^^ rotate late 19 ^^^ (late >>> 10)
    words.push (words.getD index 0 + small + words.getD (index + 9) 0 + large)) block

/-- One of the 64 rounds. -/
def round (state : State) (word constant : UInt32) : State :=
  let ⟨a, b, c, d, e, f, g, h⟩ := state
  let mixed := rotate e 6 ^^^ rotate e 11 ^^^ rotate e 25
  let chosen := (e &&& f) ^^^ ((~~~e) &&& g)
  let first := h + mixed + chosen + constant + word
  let turned := rotate a 2 ^^^ rotate a 13 ^^^ rotate a 22
  let majority := (a &&& b) ^^^ (a &&& c) ^^^ (b &&& c)
  ⟨first + (turned + majority), a, b, c, d + first, e, f, g⟩

/-- Takes in one block of 16 words. -/
def compress (state : State) (block : Array UInt32) : State :=
  let words := schedule block
  let last := (List.range 64).foldl (fun state index =>
    round state (words.getD index 0) (roundConstants.getD index 0)) state
  ⟨state.a + last.a, state.b + last.b, state.c + last.c, state.d + last.d,
    state.e + last.e, state.f + last.f, state.g + last.g, state.h + last.h⟩

/-- The bytes with a one bit, zeros and the number of their bits behind them, so that they fill
blocks of 64 bytes. -/
def padded (bytes : ByteArray) : ByteArray :=
  let size := bytes.size
  let zeros := (119 - size % 64) % 64
  let marked := (List.range zeros).foldl (fun bytes _ => bytes.push 0) (bytes.push 0x80)
  (List.range 8).foldl (fun bytes index =>
    bytes.push (UInt8.ofNat ((size * 8) >>> (56 - 8 * index)))) marked

/-- A byte of an array, or zero behind its end. -/
def byteAt (bytes : ByteArray) (index : Nat) : UInt32 :=
  if inside : index < bytes.size then bytes[index].toUInt32 else 0

/-- The words of the block that starts at a place. -/
def blockAt (bytes : ByteArray) (start : Nat) : Array UInt32 :=
  (Array.range 16).map fun index =>
    let place := start + 4 * index
    (byteAt bytes place <<< 24) ||| (byteAt bytes (place + 1) <<< 16)
      ||| (byteAt bytes (place + 2) <<< 8) ||| byteAt bytes (place + 3)

/-- The bytes of a word, the highest first. -/
def wordBytes (word : UInt32) : List UInt8 :=
  [(word >>> 24).toUInt8, (word >>> 16).toUInt8, (word >>> 8).toUInt8, word.toUInt8]

/-- The SHA-256 digest of some bytes. -/
def ofArray (bytes : ByteArray) : Digest :=
  let all := padded bytes
  let state := (List.range (all.size / 64)).foldl
    (fun state index => compress state (blockAt all (64 * index))) State.initial
  [state.a, state.b, state.c, state.d, state.e, state.f, state.g, state.h].flatMap wordBytes

/-- The SHA-256 digest of a list of bytes. -/
def ofBytes (bytes : List UInt8) : Digest := ofArray ⟨bytes.toArray⟩

/-- The text of a digest. -/
def hex (digest : Digest) : String := Hex.ofBytes digest

end Digest
end Cartridge
