import Cartridge.Bytecode.Instruction

/-!
# Reading instructions back

The script engine knows from the operation which operands follow it. Here is its way of reading
bytes, and the proof that it undoes the writing of an instruction whose labels are addresses.

* `Opcode.shapes`: the operands that follow an operation.
* `Instruction.read?`: the instruction at the start of some bytes, and what follows it.
* `Instruction.read?_code`: reading gives back what was written, whatever follows.
* `Instruction.readScript?_flatMap_code`: so a whole script is read back as its instructions.
-/

namespace Cartridge

/-- The shape of an operand in the bytecode. -/
inductive OperandShape where
  | byte
  | word
  | argument
  | label
  | symbol
  | text
  deriving DecidableEq, Repr

/-- The operands that follow an operation. -/
def Opcode.shapes : Opcode → List OperandShape
  | stop | hideOverlay | stopMusic => []
  | text => [.text]
  | setVariable => [.byte, .argument]
  | changeVariable => [.byte, .byte, .argument]
  | setFlag | clearFlag | showActor | hideActor => [.byte]
  | jumpIfFlagClear => [.byte, .label]
  | jumpUnless => [.byte, .byte, .argument, .label]
  | jump => [.label]
  | invoke | playSong | playSound => [.symbol]
  | switchScene => [.symbol, .byte, .byte]
  | moveActor => [.byte, .argument, .argument]
  | turnActor => [.byte, .byte]
  | moveCamera | showOverlay => [.byte, .byte, .byte]
  | wait => [.word]

/-- The shape of an operand. -/
def Operand.shape : Operand → OperandShape
  | byte _ => .byte
  | word _ => .word
  | argument _ => .argument
  | label _ => .label
  | symbol _ => .symbol
  | text _ => .text

/-- A text has a length of one byte. -/
def Operand.IsShort : Operand → Prop
  | text bytes => bytes.length < 256
  | _ => True

/-- **An instruction that the engine can read.** -/
structure Instruction.IsReadable (instruction : Instruction) : Prop where
  /-- The operands are those of the operation. -/
  shapes : instruction.operands.map Operand.shape = instruction.operation.shapes
  short : ∀ operand ∈ instruction.operands, operand.IsShort

/-- The word of two bytes, the low one first. -/
def wordOf (low high : UInt8) : UInt16 := UInt16.ofNat (low.toNat + 256 * high.toNat)

theorem toNat_low (word : UInt16) : word.toUInt8.toNat = word.toNat % 256 := by
  rw [UInt16.toNat_toUInt8]

theorem toNat_high (word : UInt16) : (word >>> 8).toUInt8.toNat = word.toNat / 256 := by
  have bounded := word.toNat_lt
  rw [UInt16.toNat_toUInt8, UInt16.toNat_shiftRight, show (8 : UInt16).toNat % 16 = 8 from rfl,
    Nat.shiftRight_eq_div_pow]
  exact Nat.mod_eq_of_lt (by omega)

theorem wordOf_low_high (word : UInt16) : wordOf word.toUInt8 (word >>> 8).toUInt8 = word := by
  rw [wordOf, toNat_low, toNat_high, Nat.mod_add_div, UInt16.ofNat_toNat]

namespace Operand

/-- The operand of a shape at the start of some bytes, and what follows it. -/
def read? : OperandShape → List UInt8 → Option (Operand × List UInt8)
  | .byte, value :: rest => some (.byte value, rest)
  | .word, low :: high :: rest => some (.word (wordOf low high), rest)
  | .label, low :: high :: rest => some (.label (wordOf low high), rest)
  | .symbol, low :: high :: rest => some (.symbol (wordOf low high), rest)
  | .argument, tag :: low :: high :: rest =>
    if tag = 0 then some (.argument (.literal (wordOf low high)), rest)
    else if tag = 1 ∧ high = 0 then some (.argument (.slot low), rest)
    else none
  | .text, length :: rest =>
    if length.toNat ≤ rest.length then
      some (.text (rest.take length.toNat), rest.drop length.toNat)
    else none
  | _, _ => none

/-- **An operand is read back**, its label being an address. -/
theorem read?_bytes (operand : Operand) (short : operand.IsShort) (rest : List UInt8) :
    read? operand.shape (operand.bytes some ++ rest) = some (operand, rest) := by
  cases operand with
  | byte value => rfl
  | word value => simp [shape, bytes, littleEndian, read?, wordOf_low_high]
  | label target => simp [shape, bytes, littleEndian, read?, wordOf_low_high]
  | symbol index => simp [shape, bytes, littleEndian, read?, wordOf_low_high]
  | argument value =>
    cases value with
    | literal value => simp [shape, bytes, littleEndian, read?, wordOf_low_high]
    | slot slot =>
      have high : (slot.toUInt16 >>> 8).toUInt8 = 0 := by
        have bounded := slot.toNat_lt
        apply UInt8.toNat_inj.1
        rw [toNat_high, UInt8.toNat_toUInt16]
        exact Nat.div_eq_of_lt bounded
      simp [shape, bytes, littleEndian, read?, high]
  | text bytes =>
    have length : (UInt8.ofNat bytes.length).toNat = bytes.length :=
      UInt8.toNat_ofNat_of_lt' short
    simp only [shape, Operand.bytes, List.cons_append, read?, length]
    simp

/-- The operands of some shapes at the start of some bytes, and what follows them. -/
def readAll? : List OperandShape → List UInt8 → Option (List Operand × List UInt8)
  | [], bytes => some ([], bytes)
  | shape :: shapes, bytes => do
    let (operand, rest) ← read? shape bytes
    let (operands, rest) ← readAll? shapes rest
    return (operand :: operands, rest)

theorem readAll?_flatMap_bytes (operands : List Operand)
    (short : ∀ operand ∈ operands, operand.IsShort) (rest : List UInt8) :
    readAll? (operands.map shape) (operands.flatMap (bytes some) ++ rest)
      = some (operands, rest) := by
  induction operands with
  | nil => rfl
  | cons operand operands ih =>
    rw [List.map_cons, List.flatMap_cons, List.append_assoc, readAll?,
      read?_bytes operand (short operand List.mem_cons_self)]
    have later := ih fun other member => short other (List.mem_cons_of_mem _ member)
    simp [later]

end Operand

namespace Instruction

/-- The bytes of an instruction whose labels are addresses. -/
def code (instruction : Instruction) : List UInt8 := instruction.bytes some

theorem length_code (instruction : Instruction) : instruction.code.length = instruction.size :=
  instruction.length_bytes some

theorem size_pos (instruction : Instruction) : 0 < instruction.size := by
  unfold size
  omega

/-- The instruction at the start of some bytes, and what follows it. -/
def read? : List UInt8 → Option (Instruction × List UInt8)
  | [] => none
  | number :: bytes => do
    let operation ← Opcode.ofNumber? number
    let (operands, rest) ← Operand.readAll? operation.shapes bytes
    return (⟨operation, operands⟩, rest)

/-- **An instruction is read back**, whatever follows it. -/
theorem read?_code {instruction : Instruction} (readable : instruction.IsReadable)
    (rest : List UInt8) : read? (instruction.code ++ rest) = some (instruction, rest) := by
  obtain ⟨operation, operands⟩ := instruction
  have shapes : operands.map Operand.shape = operation.shapes := readable.shapes
  have operandsRead := Operand.readAll?_flatMap_bytes operands readable.short rest
  rw [shapes] at operandsRead
  simp only [code, bytes, List.cons_append, read?, Opcode.ofNumber?_number]
  simp [operandsRead]

/-- The instructions that some bytes consist of, read one after the other. One unit of fuel for each
instruction is enough. -/
def readAll? : (fuel : Nat) → List UInt8 → Option (List Instruction)
  | _, [] => some []
  | 0, _ :: _ => none
  | fuel + 1, number :: bytes => do
    let (instruction, rest) ← read? (number :: bytes)
    let instructions ← readAll? fuel rest
    return instruction :: instructions

/-- The instructions of a whole script. -/
def readScript? (code : List UInt8) : Option (List Instruction) := readAll? code.length code

theorem readAll?_flatMap_code {instructions : List Instruction}
    (readable : ∀ instruction ∈ instructions, instruction.IsReadable) {fuel : Nat}
    (enough : instructions.length ≤ fuel) :
    readAll? fuel (instructions.flatMap code) = some instructions := by
  induction instructions generalizing fuel with
  | nil => unfold readAll?; rfl
  | cons instruction instructions ih =>
    obtain ⟨fuel, rfl⟩ := Nat.exists_eq_add_of_lt (Nat.lt_of_lt_of_le (Nat.succ_pos _) enough)
    rw [Nat.zero_add]
    have later := @ih (fun other member => readable other (List.mem_cons_of_mem _ member)) fuel
      (by rw [List.length_cons] at enough; omega)
    have head := read?_code (readable instruction List.mem_cons_self) (instructions.flatMap code)
    rw [List.flatMap_cons]
    show readAll? (fuel + 1) (instruction.operation.number :: _) = _
    rw [readAll?]
    show (read? (instruction.code ++ instructions.flatMap code) >>= _) = _
    rw [head]
    simp [later]

theorem length_le_length_flatMap_code (instructions : List Instruction) :
    instructions.length ≤ (instructions.flatMap code).length := by
  induction instructions with
  | nil => exact Nat.le_refl _
  | cons instruction instructions ih =>
    have positive := instruction.size_pos
    rw [List.flatMap_cons, List.length_append, length_code, List.length_cons]
    omega

/-- **A script is read back as its instructions.** -/
theorem readScript?_flatMap_code {instructions : List Instruction}
    (readable : ∀ instruction ∈ instructions, instruction.IsReadable) :
    readScript? (instructions.flatMap code) = some instructions :=
  readAll?_flatMap_code readable (length_le_length_flatMap_code instructions)

end Instruction
end Cartridge
