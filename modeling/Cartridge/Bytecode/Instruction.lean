import Cartridge.Bytecode.Opcode
import Cartridge.Table.Total

/-!
# Instructions and their bytes

An instruction is an operation with its operands. Jumps name labels; a label whose address is not
known yet leaves a hole of two bytes, which is filled in later.

* `Instruction.bytes` — the bytes of an instruction, given the addresses of labels known so far.
* `Instruction.holes` — the labels it leaves open, and where.
* `Instruction.encode` — both, behind the bytes that have been written already.
-/

namespace Cartridge

/-- The number of a label within its script. -/
abbrev Label : Type := UInt16

/-- The low byte of a word, then the high one. -/
def littleEndian (word : UInt16) : List UInt8 :=
  [word.toUInt8, (word >>> 8).toUInt8]

/-- The word that stands in the place of an address that is not known yet. -/
def unresolved : UInt16 := 0xFFFF

/-- An argument whose name has been resolved. -/
inductive ArgumentOperand where
  | literal (value : UInt16)
  /-- The slot of a variable. -/
  | slot (slot : UInt8)
  deriving DecidableEq, Repr

/-- An operand of an instruction. -/
inductive Operand where
  | byte (value : UInt8)
  | word (value : UInt16)
  | argument (value : ArgumentOperand)
  /-- The address of a label in the same script. -/
  | label (label : Label)
  /-- The index of a symbol in the pointer table. -/
  | symbol (index : UInt16)
  /-- A text, its length before it. -/
  | text (bytes : List UInt8)
  deriving DecidableEq, Repr

namespace Operand

/-- How many bytes an operand takes. -/
def size : Operand → Nat
  | byte _ => 1
  | word _ | label _ | symbol _ => 2
  | argument _ => 3
  | text bytes => 1 + bytes.length

/-- The bytes of an operand, given the addresses of labels. -/
def bytes (address? : Label → Option UInt16) : Operand → List UInt8
  | byte value => [value]
  | word value => littleEndian value
  | argument (.literal value) => 0 :: littleEndian value
  | argument (.slot slot) => 1 :: littleEndian slot.toUInt16
  | label target => littleEndian ((address? target).getD unresolved)
  | symbol index => littleEndian index
  | text bytes => UInt8.ofNat bytes.length :: bytes

/-- The label that an operand leaves open. -/
def hole? (address? : Label → Option UInt16) : Operand → Option Label
  | label target => if (address? target).isSome then none else some target
  | _ => none

/-- An operand takes as many bytes as its size says. -/
theorem length_bytes (address? : Label → Option UInt16) (operand : Operand) :
    (operand.bytes address?).length = operand.size := by
  cases operand with
  | argument value => cases value <;> simp [bytes, size, littleEndian]
  | _ => simp [bytes, size, littleEndian, Nat.add_comm]

end Operand

/-- An operation with its operands. -/
structure Instruction where
  operation : Opcode
  operands : List Operand
  deriving DecidableEq, Repr

namespace Instruction

/-- How many bytes an instruction takes. -/
def size (instruction : Instruction) : Nat :=
  1 + total (instruction.operands.map Operand.size)

/-- The bytes of an instruction, given the addresses of labels. -/
def bytes (address? : Label → Option UInt16) (instruction : Instruction) : List UInt8 :=
  instruction.operation.number :: instruction.operands.flatMap (Operand.bytes address?)

/-- The labels that operands starting at a place leave open, each with the place of its hole. -/
def operandHoles (address? : Label → Option UInt16) (start : Nat) :
    List Operand → List (Label × Nat)
  | [] => []
  | operand :: operands =>
    let later := operandHoles address? (start + operand.size) operands
    match operand.hole? address? with
    | some target => (target, start) :: later
    | none => later

/-- The labels that an instruction starting at a place leaves open, each with the place of its
hole. -/
def holes (address? : Label → Option UInt16) (start : Nat) (instruction : Instruction) :
    List (Label × Nat) :=
  operandHoles address? (start + 1) instruction.operands

/-- Writes an instruction behind the code so far. -/
def encode (address? : Label → Option UInt16) (code : Array UInt8) (instruction : Instruction) :
    Array UInt8 × List (Label × Nat) :=
  (code ++ instruction.bytes address?, instruction.holes address? code.size)

/-- An instruction takes as many bytes as its size says. -/
theorem length_bytes (address? : Label → Option UInt16) (instruction : Instruction) :
    (instruction.bytes address?).length = instruction.size := by
  simp only [bytes, size, List.length_cons, length_flatMap_eq_total, Operand.length_bytes]
  exact Nat.add_comm _ _

end Instruction
end Cartridge
