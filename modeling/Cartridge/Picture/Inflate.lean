import Cartridge.Picture.Bytes

/-!
# Inflating compressed bytes

Reads the zlib format: a header of two bytes, a stream of blocks, and a checksum, which is not
compared. The stream comes in pieces, and is read as far as the pieces at hand allow before the next
one is asked for. No more bytes are inflated than are wanted, and the stream may end behind them. If
it goes on, it is still read as far as it gives nothing and no further piece is asked for; what is
read then must mean something.

Every block and every symbol takes at least one bit, so that one unit of fuel for each bit is
enough.

* `Inflate.zlib?` — the bytes that a zlib stream starts with, unless it is malformed.
-/

namespace Cartridge.Inflate

/-- Why nothing can be read. -/
inductive Fault where
  /-- There are too few bits. -/
  | ended
  /-- The bits mean nothing. -/
  | malformed
  deriving DecidableEq, Repr

/-- What stands for nothing is malformed. -/
def demand {α : Type} : Option α → Except Fault α
  | some value => .ok value
  | none => .error .malformed

/-- Where the pieces of a stream end, in bits. -/
def endsOf (pieces : List ByteArray) : List Nat :=
  (pieces.foldl (fun (ends, size) piece => (8 * (size + piece.size) :: ends, size + piece.size))
    (([] : List Nat), 0)).1.reverse

/-- Reads something from the bits before the first limit for which there are enough of them. The
limits before it are dropped. -/
def await {α : Type} (read : (limit : Nat) → Except Fault α) :
    (limits : List Nat) → Except Fault (α × List Nat)
  | [] => .error .ended
  | limit :: later =>
    match read limit with
    | .ok value => .ok (value, limit :: later)
    | .error .ended => await read later
    | .error .malformed => .error .malformed

/-- The bit at a position, the lowest one of each byte first. Behind the limit all are zero. -/
def bitAt (bytes : ByteArray) (limit position : Nat) : Nat :=
  if position < limit then
    ((Bytes.byteAt bytes (position / 8)).toNat >>> (position % 8)) % 2
  else 0

/-- The number that `count` bits from a position on write, the lowest one first. -/
def peek (bytes : ByteArray) (limit position count : Nat) : Nat :=
  (List.range count).foldl (fun value index =>
    value + bitAt bytes limit (position + index) <<< index) 0

/-- The number that `count` bits from a position on write, if they are there. -/
def bits (bytes : ByteArray) (limit position count : Nat) : Except Fault Nat :=
  if position + count ≤ limit then .ok (peek bytes limit position count) else .error .ended

/-! ### Prefix codes -/

/-- A code that gives short bit strings to some numbers. Bit strings of one length are given in the
order of the numbers. -/
structure Code where
  /-- How many bit strings of each length there are. -/
  counts : Array Nat
  /-- The numbers, in the order of their bit strings. -/
  symbols : Array Nat

/-- The greatest length of a bit string. -/
def longestCode : Nat := 15

/-- The code in which each number has a bit string of the given length, none if it is zero. -/
def Code.ofLengths (lengths : List Nat) : Code :=
  let numbered := lengths.zipIdx
  { counts := ((List.range (longestCode + 1)).map fun length =>
      if length = 0 then 0 else lengths.count length).toArray
    symbols := ((List.range longestCode).flatMap fun shorter =>
      (numbered.filter fun (length, _) => length = shorter + 1).map Prod.snd).toArray }

/-- How much of the room for bit strings is left, in units of the longest one; negative if there are
too many. -/
def Code.room (code : Code) : Int :=
  (List.range longestCode).foldl (fun room shorter =>
    room - (code.counts.getD (shorter + 1) 0 <<< (longestCode - (shorter + 1)) : Nat))
    (1 <<< longestCode : Nat)

/-- Whether every string of bits starts with one of the code. -/
def Code.isComplete (code : Code) : Bool := code.room == 0

/-- Whether a code can stand for distances: it may also have no bit string, or a single bit. -/
def Code.isDistanceCode (code : Code) : Bool :=
  code.isComplete || code.symbols.isEmpty || (code.symbols.size == 1 && code.counts.getD 1 0 == 1)

/-- Reads the bit string of a number, of which `length` bits have been read. They write `read`; the
least bit string of that length is `first`, and the numbers of shorter ones come before `index`. -/
def Code.readFrom (code : Code) (bytes : ByteArray) (limit : Nat) :
    (fuel : Nat) → (length read first index position : Nat) → Except Fault (Nat × Nat)
  | 0, _, _, _, _, _ => .error .malformed
  | fuel + 1, length, read, first, index, position => do
    let read := read + bitAt bytes limit position
    let count := code.counts.getD (length + 1) 0
    if read < first + count then
      return (← demand code.symbols[index + (read - first)]?, position + 1)
    else
      code.readFrom bytes limit fuel (length + 1) (read * 2) ((first + count) * 2) (index + count)
        (position + 1)

/-- Reads the bit string of a number, which may go on behind the limit. What comes out is the
number, and where its bit string ends. -/
def Code.read (code : Code) (bytes : ByteArray) (limit position : Nat) : Except Fault (Nat × Nat) :=
  code.readFrom bytes limit longestCode 0 0 0 0 position

/-! ### Heads of blocks -/

/-- The code of the literals and lengths that needs no description. -/
def fixedLiterals : Code :=
  Code.ofLengths (List.replicate 144 8 ++ List.replicate 112 9 ++ List.replicate 24 7
    ++ List.replicate 8 8)

/-- The code of the distances that needs no description. -/
def fixedDistances : Code := Code.ofLengths (List.replicate 32 5)

/-- The symbol that ends a block. -/
def endOfBlock : Nat := 256

/-- The order in which the lengths of the length code are written. -/
def lengthOrder : List Nat := [16, 17, 18, 0, 8, 7, 9, 6, 10, 5, 11, 4, 12, 3, 13, 2, 14, 1, 15]

/-- Reads the lengths of the codes of a block, the last one first, until there are enough. Seven
bits are looked at for each, which is what the longest bit string takes. -/
def codeLengths (code : Code) (bytes : ByteArray) (limit wanted : Nat) :
    (fuel : Nat) → (position : Nat) → List Nat → Except Fault (Nat × List Nat)
  | 0, _, _ => .error .malformed
  | fuel + 1, position, lengths =>
    if wanted = lengths.length then .ok (position, lengths.reverse)
    else if wanted < lengths.length then .error .malformed
    else do
      let _ ← bits bytes limit position 7
      let (symbol, position) ← code.read bytes limit position
      if symbol < 16 then
        codeLengths code bytes limit wanted fuel position (symbol :: lengths)
      else
        let (least, extra) := match symbol with
          | 16 => (3, 2)
          | 17 => (3, 3)
          | _ => (11, 7)
        let count := least + (← bits bytes limit position extra)
        let repeated ← if symbol = 16 then demand lengths.head? else .ok 0
        codeLengths code bytes limit wanted fuel (position + extra)
          (List.replicate count repeated ++ lengths)

/-- Reads the codes of a block that describes its own. -/
def dynamicCodes (bytes : ByteArray) (limit position : Nat) : Except Fault (Nat × Code × Code) := do
  let counts ← bits bytes limit position 14
  let literalCount := 257 + counts % 32
  let distanceCount := 1 + counts / 32 % 32
  let lengthCount := 4 + counts / 1024
  if 286 < literalCount ∨ 30 < distanceCount then .error .malformed
  let start := position + 14
  let described ← (List.range lengthCount).mapM fun index =>
    bits bytes limit (start + 3 * index) 3
  let lengths := (List.range 19).map fun symbol =>
    ((lengthOrder.zip described).lookup symbol).getD 0
  let code := Code.ofLengths lengths
  if !code.isComplete then .error .malformed
  let (position, lengths) ← codeLengths code bytes limit (literalCount + distanceCount)
    (literalCount + distanceCount + 1) (start + 3 * lengthCount) []
  let literals := Code.ofLengths (lengths.take literalCount)
  let distances := Code.ofLengths (lengths.drop literalCount)
  if !literals.symbols.contains endOfBlock || !literals.isComplete || !distances.isDistanceCode then
    .error .malformed
  return (position, literals, distances)

/-- What a block holds. -/
inductive Content where
  /-- So many bytes as they are. -/
  | stored (length : Nat)
  /-- Symbols of a code for literals and lengths and of one for distances. -/
  | coded (literals distances : Code)

/-- What is told at the beginning of a block. -/
structure Head where
  isLast : Bool
  content : Content
  /-- Where the content starts. -/
  start : Nat

/-- Reads the head of a block. No block is shorter than ten bits. Stored bytes start at a whole
byte. A block of the fixed codes that ends at once is one of no bytes. -/
def head (bytes : ByteArray) (position limit : Nat) : Except Fault Head := do
  let first ← bits bytes limit position 10
  let isLast := first % 2 == 1
  let start := position + 3
  match first / 2 % 4 with
  | 0 =>
    let start := (start + 7) / 8 * 8
    let length ← bits bytes limit start 16
    let inverse ← bits bytes limit (start + 16) 16
    if length + inverse = 0xFFFF then return ⟨isLast, .stored length, start + 32⟩
    else .error .malformed
  | 1 =>
    if first / 8 = 0 then return ⟨isLast, .stored 0, position + 10⟩
    else return ⟨isLast, .coded fixedLiterals fixedDistances, start⟩
  | 2 =>
    let (start, literals, distances) ← dynamicCodes bytes limit start
    return ⟨isLast, .coded literals distances, start⟩
  | _ => .error .malformed

/-! ### Blocks -/

/-- The least length of each length symbol, and how many bits follow it. -/
def lengthTable : Array (Nat × Nat) := #[
  (3, 0), (4, 0), (5, 0), (6, 0), (7, 0), (8, 0), (9, 0), (10, 0), (11, 1), (13, 1), (15, 1),
  (17, 1), (19, 2), (23, 2), (27, 2), (31, 2), (35, 3), (43, 3), (51, 3), (59, 3), (67, 4),
  (83, 4), (99, 4), (115, 4), (131, 5), (163, 5), (195, 5), (227, 5), (258, 0)]

/-- The least distance of each distance symbol, and how many bits follow it. -/
def distanceTable : Array (Nat × Nat) := #[
  (1, 0), (2, 0), (3, 0), (4, 0), (5, 1), (7, 1), (9, 2), (13, 2), (17, 3), (25, 3), (33, 4),
  (49, 4), (65, 5), (97, 5), (129, 6), (193, 6), (257, 7), (385, 7), (513, 8), (769, 8),
  (1025, 9), (1537, 9), (2049, 10), (3073, 10), (4097, 11), (6145, 11), (8193, 12), (12289, 12),
  (16385, 13), (24577, 13)]

/-- Repeats bytes that were written `distance` bytes ago. -/
def copyBack (output : ByteArray) (distance : Nat) : (count : Nat) → ByteArray
  | 0 => output
  | count + 1 =>
    let byte := if inside : output.size - distance < output.size then
      output[output.size - distance] else 0
    copyBack (output.push byte) distance count

/-- What a block is made of. -/
inductive Item where
  | literal (byte : UInt8)
  /-- Two literals that are read at once. -/
  | pair (first second : UInt8)
  /-- So many bytes that were written some distance ago. -/
  | copy (length distance : Nat)
  | blockEnd

/-- The greatest number of bits in which two literals are read at once. -/
def pairBits : Nat := 12

/-- Reads what follows a literal, which is taken together with another one if they take few bits. -/
def literalItem (literals : Code) (bytes : ByteArray) (limit start symbol position : Nat) :
    Item × Nat :=
  let alone := (.literal (UInt8.ofNat symbol), position)
  if start + pairBits ≤ position then alone
  else
    match literals.read bytes limit position with
    | .ok (next, behind) =>
      if next < endOfBlock ∧ behind ≤ start + pairBits then
        (.pair (UInt8.ofNat symbol) (UInt8.ofNat next), behind)
      else alone
    | .error _ => alone

/-- Reads what follows a length symbol. -/
def copyItem (distances : Code) (bytes : ByteArray) (limit symbol position : Nat) :
    Except Fault (Item × Nat) := do
  let (least, extra) ← demand lengthTable[symbol - (endOfBlock + 1)]?
  let length := least + peek bytes limit position extra
  let (symbol, position) ← distances.read bytes limit (position + extra)
  let (least, extra) ← demand distanceTable[symbol]?
  let distance := least + peek bytes limit position extra
  return (.copy length distance, position + extra)

/-- Reads the next thing that a block is made of, and where it ends. -/
def item (literals distances : Code) (bytes : ByteArray) (position limit : Nat) :
    Except Fault (Item × Nat) := do
  let (symbol, behind) ← literals.read bytes limit position
  let (found, behind) ←
    if symbol < endOfBlock then .ok (literalItem literals bytes limit position symbol behind)
    else if symbol = endOfBlock then .ok (.blockEnd, behind)
    else copyItem distances bytes limit symbol behind
  if limit < behind then .error .ended
  return (found, behind)

/-- What a block has given: the output, the ends of the pieces that are not exhausted, and where
the block ends, unless it is left before. -/
abbrev Given : Type := ByteArray × List Nat × Option Nat

/-- Where a block ends, if its end is the next thing in the piece at hand, and if that holds as many
bits as the longest bit string has. -/
def endAhead? (literals : Code) (bytes : ByteArray) (ends : List Nat) (position : Nat) :
    Option Nat := do
  let limit ← ends.head?
  let (symbol, behind) ← (literals.read bytes limit position).toOption
  if symbol = endOfBlock ∧ position + longestCode ≤ limit then some behind else none

/-- Reads the symbols of a block until it ends or there are as many bytes as are wanted. -/
def symbols (literals distances : Code) (bytes : ByteArray) (wanted : Nat) :
    (fuel : Nat) → (position : Nat) → (ends : List Nat) → ByteArray → Except Fault Given
  | 0, _, _, _ => .error .malformed
  | fuel + 1, position, ends, output =>
    if wanted ≤ output.size then .ok (output, ends, endAhead? literals bytes ends position)
    else
      match await (item literals distances bytes position) ends with
      | .error fault => .error fault
      | .ok ((.blockEnd, behind), ends) => .ok (output, ends, some behind)
      | .ok ((.literal byte, behind), ends) =>
        symbols literals distances bytes wanted fuel behind ends (output.push byte)
      | .ok ((.pair first second, behind), ends) =>
        let output := output.push first
        if wanted ≤ output.size then .ok (output, ends, none)
        else symbols literals distances bytes wanted fuel behind ends (output.push second)
      | .ok ((.copy length distance, behind), ends) =>
        if output.size < distance then .error .malformed
        else if wanted < output.size + length then
          .ok (copyBack output distance (wanted - output.size), ends, none)
        else
          symbols literals distances bytes wanted fuel behind ends
            (copyBack output distance length)

/-- Reads bytes that are stored, no more than are wanted. -/
def storedBytes (bytes : ByteArray) (wanted length position : Nat) (ends : List Nat)
    (output : ByteArray) : Except Fault Given := do
  let taken := min length (wanted - output.size)
  let behind := position + 8 * taken
  let (taking, ends) ← await (fun limit =>
    if behind ≤ limit then .ok (bytes.extract (position / 8) (behind / 8)) else .error .ended) ends
  return (output ++ taking, ends, if taken < length then none else some behind)

/-- Reads the blocks from a position on. Once there are enough bytes, no further piece is asked for,
and it does not matter whether the next block is there. -/
def blocks (bytes : ByteArray) (wanted : Nat) :
    (fuel : Nat) → (position : Nat) → (ends : List Nat) → ByteArray → Except Fault ByteArray
  | 0, _, _, _ => .error .malformed
  | fuel + 1, position, ends, output =>
    let isEnough := wanted ≤ output.size
    let ends := if isEnough then ends.take 1 else ends
    match await (head bytes position) ends with
    | .error fault => if isEnough ∧ fault = .ended then .ok output else .error fault
    | .ok (⟨isLast, content, start⟩, ends) => do
      let (output, ends, behind) ← match content with
        | .stored length => storedBytes bytes wanted length start ends output
        | .coded literals distances =>
          symbols literals distances bytes wanted (8 * bytes.size + 1) start ends output
      match behind with
      | some position =>
        if isLast then .ok output else blocks bytes wanted fuel position ends output
      | none => .ok output

/-- The bytes that a zlib stream starts with, which comes in pieces: as many as are wanted, or fewer
if it stands for fewer. -/
def zlib? (pieces : List ByteArray) (wanted : Nat) : Option ByteArray :=
  let bytes := pieces.foldl (· ++ ·) ByteArray.empty
  let inflated : Except Fault ByteArray := do
    let (header, ends) ← await (fun limit => bits bytes limit 0 16) (endsOf pieces)
    let form := header % 256
    let flags := header / 256
    if form % 16 ≠ 8 ∨ 7 < form / 16 ∨ (form * 256 + flags) % 31 ≠ 0 ∨ flags / 32 % 2 = 1 then
      .error .malformed
    blocks bytes wanted (8 * bytes.size) 16 ends ByteArray.empty
  inflated.toOption

end Cartridge.Inflate
