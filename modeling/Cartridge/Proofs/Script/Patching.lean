import Cartridge.Proofs.Script.Recording
import Cartridge.Script.Assembly

/-!
# What the second pass assembles

The second pass writes the code of a statement with holes in it. When a block closes, its own labels
have addresses and their holes are filled; what is left are the places where the loop around is left
for its end, and these are handed on.

* `Statement.breaks`, `Statement.blockBreaks`: the places that wait for the end of the loop around.
* `Statement.fill_blockBreaks`: filling them makes the code what it is with that end.
* `Instruction.encode_toward_of_some`, `Instruction.encode_toward_of_none`: a jump is written with
  the address of its label, or leaves a hole.
-/

namespace Cartridge

/-! ### Writing instructions -/

/-- **An instruction without labels.** -/
def Instruction.IsLabelFree (instruction : Instruction) : Prop :=
  ∀ operand ∈ instruction.operands, operand.shape ≠ .label

theorem Instruction.IsStraight.labelFree {instruction : Instruction}
    (straight : instruction.IsStraight) : instruction.IsLabelFree := by
  intro operand member same
  apply straight.noLabel
  rw [← straight.shapes, ← same]
  exact List.mem_map_of_mem member

theorem Instruction.labelFree_jump : IsLabelFree ⟨.jump, []⟩ :=
  fun _ member => (List.not_mem_nil member).elim

theorem Test.labelFree_jump (test : Test) : test.jump.IsLabelFree := by
  cases test <;> simp [Test.jump, Instruction.IsLabelFree, Operand.shape]

namespace Operand

theorem bytes_of_ne_label {operand : Operand} (other : operand.shape ≠ .label)
    (address? : Label → Option UInt16) : operand.bytes address? = operand.bytes some := by
  cases operand with
  | label target => exact (other rfl).elim
  | argument value => cases value <;> rfl
  | _ => rfl

theorem hole?_of_ne_label {operand : Operand} (other : operand.shape ≠ .label)
    (address? : Label → Option UInt16) : operand.hole? address? = none := by
  cases operand with
  | label target => exact (other rfl).elim
  | _ => rfl

end Operand

namespace Instruction

variable {instruction : Instruction}

theorem IsLabelFree.flatMap_bytes (free : instruction.IsLabelFree)
    (address? : Label → Option UInt16) :
    instruction.operands.flatMap (Operand.bytes address?)
      = instruction.operands.flatMap (Operand.bytes some) := by
  rw [List.flatMap_def, List.flatMap_def, List.map_congr_left fun operand member =>
    Operand.bytes_of_ne_label (free operand member) address?]

/-- Operands without labels leave no holes, whatever comes behind them. -/
theorem operandHoles_append (address? : Label → Option UInt16) (start : Nat)
    (operands later : List Operand) (free : ∀ operand ∈ operands, operand.shape ≠ .label) :
    operandHoles address? start (operands ++ later)
      = operandHoles address? (start + total (operands.map Operand.size)) later := by
  induction operands generalizing start with
  | nil => rfl
  | cons operand operands ih =>
    rw [List.cons_append, operandHoles,
      Operand.hole?_of_ne_label (free operand List.mem_cons_self) address?]
    show operandHoles address? (start + operand.size) (operands ++ later) = _
    rw [ih _ fun other member => free other (List.mem_cons_of_mem _ member), List.map_cons,
      total_cons, Nat.add_assoc]

theorem code_toward (instruction : Instruction) (address : UInt16) :
    (instruction.toward address).code = instruction.code ++ littleEndian address := by
  simp [toward, code, bytes, Operand.bytes]

/-- **An instruction without labels is written as it is.** -/
theorem encode_of_labelFree (free : instruction.IsLabelFree) (address? : Label → Option UInt16)
    (written : Array UInt8) :
    instruction.encode address? written = (written ++ instruction.code, []) := by
  have holes := operandHoles_append address? (written.size + 1) instruction.operands [] free
  rw [List.append_nil] at holes
  rw [encode, code, bytes, free.flatMap_bytes address?, Instruction.holes, holes]
  rfl

/-- **A jump to a label with an address is written with it.** -/
theorem encode_toward_of_some (free : instruction.IsLabelFree) {address? : Label → Option UInt16}
    {target : Label} {address : UInt16} (known : address? target = some address)
    (written : Array UInt8) :
    (instruction.toward target).encode address? written
      = (written ++ (instruction.toward address).code, []) := by
  have holes := operandHoles_append address? (written.size + 1) instruction.operands
    [.label target] free
  rw [encode, code_toward, code, bytes, bytes, toward, List.flatMap_append, free.flatMap_bytes,
    Instruction.holes, holes]
  simp [operandHoles, Operand.hole?, Operand.bytes, known]

/-- **A jump to a label without an address leaves a hole at its end.** -/
theorem encode_toward_of_none (free : instruction.IsLabelFree) {address? : Label → Option UInt16}
    {target : Label} (unknown : address? target = none) (written : Array UInt8) :
    (instruction.toward target).encode address? written
      = (written ++ (instruction.toward unresolved).code,
        [(target, written.size + instruction.size)]) := by
  have holes := operandHoles_append address? (written.size + 1) instruction.operands
    [.label target] free
  rw [encode, code_toward, code, bytes, bytes, toward, List.flatMap_append, free.flatMap_bytes,
    Instruction.holes, holes]
  simp [operandHoles, Operand.hole?, Operand.bytes, unknown, size, Nat.add_assoc]

end Instruction

/-! ### Filling holes -/

namespace Assembly

theorem fill_middle (before after : List UInt8) (old address : UInt16) :
    fill (before ++ littleEndian old ++ after).toArray before.length address
      = (before ++ littleEndian address ++ after).toArray := by
  simp [fill, littleEndian]

theorem fill_toward (before after : List UInt8) (instruction : Instruction)
    (old address : UInt16) :
    fill (before ++ (instruction.toward old).code ++ after).toArray
        (before.length + instruction.size) address
      = (before ++ (instruction.toward address).code ++ after).toArray := by
  have filled := fill_middle (before ++ instruction.code) after old address
  rw [List.length_append, Instruction.length_code] at filled
  simpa only [Instruction.code_toward, List.append_assoc] using filled

/-- Fills a hole whose label has an address, and keeps any other. -/
def fillHole (addresses : Array (Option UInt16)) (filled : Array UInt8 × Array Hole)
    (hole : Hole) : Array UInt8 × Array Hole :=
  match address? addresses hole.1 with
  | some address => (fill filled.1 hole.2 address, filled.2)
  | none => (filled.1, filled.2.push hole)

theorem fillAll_eq_foldl (addresses : Array (Option UInt16)) (code : Array UInt8)
    (holes : List Hole) :
    fillAll addresses code holes.toArray = holes.foldl (fillHole addresses) (code, #[]) := by
  rw [fillAll, List.foldl_toArray]
  rfl

theorem foldl_fillHole_of_none {addresses : Array (Option UInt16)} {target : Label}
    (unknown : address? addresses target = none) (code : Array UInt8) (left : List Hole)
    (places : List Nat) :
    (places.map (target, ·)).foldl (fillHole addresses) (code, left.toArray)
      = (code, (left ++ places.map (target, ·)).toArray) := by
  induction places generalizing left with
  | nil => simp
  | cons place places ih =>
    have kept : fillHole addresses (code, left.toArray) (target, place)
        = (code, (left ++ [(target, place)]).toArray) := by
      simp [fillHole, unknown]
    rw [List.map_cons, List.foldl_cons, kept, ih, List.append_assoc]
    rfl

/-- Where the labels of all holes have got their addresses, closing a block fills all of them. -/
theorem foldl_fillHole_of_known {addresses : Array (Option UInt16)} (address : Label → UInt16)
    (holes : List Hole)
    (known : ∀ hole ∈ holes, address? addresses hole.1 = some (address hole.1))
    (code : Array UInt8) (left : Array Hole) :
    holes.foldl (fillHole addresses) (code, left)
      = (holes.foldl (fun code hole => fill code hole.2 (address hole.1)) code, left) := by
  induction holes generalizing code with
  | nil => rfl
  | cons hole holes ih =>
    have filled : fillHole addresses (code, left) hole
        = (fill code hole.2 (address hole.1), left) := by
      rw [fillHole, known hole List.mem_cons_self]
    rw [List.foldl_cons, filled, ih fun other member => known other (List.mem_cons_of_mem _ member),
      List.foldl_cons]

theorem foldl_fillHole_of_some {addresses : Array (Option UInt16)} {target : Label}
    {address : UInt16} (known : address? addresses target = some address) (code : Array UInt8)
    (left : Array Hole) (places : List Nat) :
    (places.map (target, ·)).foldl (fillHole addresses) (code, left)
      = (places.foldl (fun code place => fill code place address) code, left) := by
  have all : ∀ hole ∈ places.map (target, ·), address? addresses hole.1 = some address := by
    intro hole member
    obtain ⟨place, _, rfl⟩ := List.mem_map.1 member
    exact known
  rw [foldl_fillHole_of_known (fun _ => address) _ all, List.foldl_map]

end Assembly

namespace Statement

open Assembly

mutual

/-- The places in a statement that wait for the end of the loop around it. -/
def breaks (start : Nat) : Statement → List Nat
  | perform _ | loop .. => []
  | branch test whenTrue whenFalse =>
    blockBreaks (start + test.size) whenTrue
      ++ blockBreaks (start + test.size + blockSize whenTrue + skipSize whenFalse) whenFalse
  | leaveLoop => [start + 1]

/-- The places in a block that wait for the end of the loop around it. -/
def blockBreaks (start : Nat) : List Statement → List Nat
  | [] => []
  | statement :: statements =>
    breaks start statement ++ blockBreaks (start + statement.size) statements

end

mutual

/-- Filling the places that wait makes a statement's code what it is with that exit. -/
theorem fill_breaks (before after : List UInt8) (start : Nat) (address : UInt16)
    (placed : before.length = start) : (statement : Statement) →
      (statement.breaks start).foldl (fun code place => fill code place address)
          (before ++ statement.code start unresolved ++ after).toArray
        = (before ++ statement.code start address ++ after).toArray
  | perform _ => rfl
  | loop _ _ => rfl
  | leaveLoop => by
    rw [breaks, code_leaveLoop, code_leaveLoop]
    subst placed
    exact fill_toward before after ⟨.jump, []⟩ unresolved address
  | branch test whenTrue whenFalse => by
    rw [breaks, List.foldl_append, code_branch, code_branch]
    generalize UInt16.ofNat (start + test.size + blockSize whenTrue + skipSize whenFalse)
      = other
    generalize UInt16.ofNat (start + test.size + blockSize whenTrue + skipSize whenFalse
      + blockSize whenFalse) = past
    have first := fill_blockBreaks (before ++ (test.jump.toward other).code)
      ((skip past whenFalse).flatMap Instruction.code
        ++ blockCode (start + test.size + blockSize whenTrue + skipSize whenFalse) unresolved
          whenFalse ++ after) (start + test.size) address
      (by rw [List.length_append, placed, Instruction.length_code, size_jump_toward]) whenTrue
    have second := fill_blockBreaks (before ++ (test.jump.toward other).code
        ++ blockCode (start + test.size) address whenTrue
        ++ (skip past whenFalse).flatMap Instruction.code) after
      (start + test.size + blockSize whenTrue + skipSize whenFalse) address
      (by
        rw [List.length_append, List.length_append, List.length_append, placed,
          Instruction.length_code, size_jump_toward, length_blockCode, length_skip]) whenFalse
    simp only [List.append_assoc] at first second ⊢
    rw [first, second]

/-- **Filling the places that wait makes a block's code what it is with that exit.** -/
theorem fill_blockBreaks (before after : List UInt8) (start : Nat) (address : UInt16)
    (placed : before.length = start) : (statements : List Statement) →
      (blockBreaks start statements).foldl (fun code place => fill code place address)
          (before ++ blockCode start unresolved statements ++ after).toArray
        = (before ++ blockCode start address statements ++ after).toArray
  | [] => rfl
  | statement :: statements => by
    rw [blockBreaks, List.foldl_append, blockCode_cons, blockCode_cons]
    have first := fill_breaks before
      (blockCode (start + statement.size) unresolved statements ++ after) start address placed
      statement
    have second := fill_blockBreaks (before ++ statement.code start address) after
      (start + statement.size) address
      (by rw [List.length_append, placed, length_code]) statements
    simp only [List.append_assoc] at first second ⊢
    rw [first, second]

end

end Statement
end Cartridge
