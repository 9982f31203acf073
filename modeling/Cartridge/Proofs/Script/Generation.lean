import Cartridge.Proofs.Script.Statement
import Cartridge.Table.Total

/-!
# Generating code in one pass

The plain way to generate the code of a script: every size is known from the tree, so every address
is known when its jump is written. There are no labels, no holes and no second pass.

* `Statement.size`, `Statement.blockSize`: how many bytes the code takes.
* `Statement.instructions`, `Statement.blockInstructions`: the code from a place on, given the
  address behind the innermost loop around it. Its labels are addresses.
* `Statement.labels`, `Statement.blockLabels`: the addresses of the labels, in the order of the text.
* `Statement.readable_blockInstructions`: the engine can read all of it.
* `Statement.three_mul_blockLabelCount_le`: there are at most two labels for three bytes.
-/

namespace Cartridge

/-- The jump to an address. -/
def Instruction.leap (address : UInt16) : Instruction := Instruction.toward ⟨.jump, []⟩ address

/-- How many bytes a jump takes that depends on a test. -/
def Test.size (test : Test) : Nat := test.jump.size + 2

namespace Statement

/-- How many bytes a jump takes that depends on nothing. -/
def leapSize : Nat := 3

/-- How many bytes the test before a loop takes. -/
def guardSize : Option Test → Nat
  | some test => test.size
  | none => 0

/-- How many bytes the jump over a second branch takes. It is left out if that branch is empty. -/
def skipSize (whenFalse : List Statement) : Nat := if whenFalse.isEmpty then 0 else leapSize

mutual

/-- How many bytes the code of a statement takes. -/
def size : Statement → Nat
  | perform action => action.instruction.size
  | branch test whenTrue whenFalse =>
    test.size + blockSize whenTrue + skipSize whenFalse + blockSize whenFalse
  | loop test body => guardSize test + blockSize body + leapSize
  | leaveLoop => leapSize

/-- How many bytes the code of a block takes. -/
def blockSize : List Statement → Nat
  | [] => 0
  | statement :: statements => statement.size + blockSize statements

end

/-- The test before a loop, which leaves the loop where it fails. -/
def guard (past : UInt16) : Option Test → List Instruction
  | some test => [test.jump.toward past]
  | none => []

/-- The jump over a second branch. -/
def skip (past : UInt16) (whenFalse : List Statement) : List Instruction :=
  if whenFalse.isEmpty then [] else [.leap past]

mutual

/-- The code of a statement from a place on. Leaving a loop goes to `exit`. -/
def instructions (start : Nat) (exit : UInt16) : Statement → List Instruction
  | perform action => [action.instruction]
  | branch test whenTrue whenFalse =>
    let inner := start + test.size
    let other := inner + blockSize whenTrue + skipSize whenFalse
    let past := other + blockSize whenFalse
    test.jump.toward (UInt16.ofNat other) :: blockInstructions inner exit whenTrue
      ++ skip (UInt16.ofNat past) whenFalse ++ blockInstructions other exit whenFalse
  | loop test body =>
    let inner := start + guardSize test
    let past := UInt16.ofNat (inner + blockSize body + leapSize)
    guard past test ++ blockInstructions inner past body ++ [.leap (UInt16.ofNat start)]
  | leaveLoop => [.leap exit]

/-- The code of a block from a place on. -/
def blockInstructions (start : Nat) (exit : UInt16) : List Statement → List Instruction
  | [] => []
  | statement :: statements =>
    instructions start exit statement
      ++ blockInstructions (start + statement.size) exit statements

end

/-- The bytes of a statement from a place on. -/
def code (start : Nat) (exit : UInt16) (statement : Statement) : List UInt8 :=
  (statement.instructions start exit).flatMap Instruction.code

/-- The bytes of a block from a place on. -/
def blockCode (start : Nat) (exit : UInt16) (statements : List Statement) : List UInt8 :=
  (blockInstructions start exit statements).flatMap Instruction.code

mutual

/-- The addresses of the labels of a statement, those of the statement itself before those in it. -/
def labels (start : Nat) : Statement → List Nat
  | perform _ | leaveLoop => []
  | branch test whenTrue whenFalse =>
    let inner := start + test.size
    let other := inner + blockSize whenTrue + skipSize whenFalse
    let past := other + blockSize whenFalse
    (if whenFalse.isEmpty then [other] else [other, past])
      ++ blockLabels inner whenTrue ++ blockLabels other whenFalse
  | loop test body =>
    let inner := start + guardSize test
    let past := inner + blockSize body + leapSize
    [start, past] ++ blockLabels inner body

/-- The addresses of the labels of a block. -/
def blockLabels (start : Nat) : List Statement → List Nat
  | [] => []
  | statement :: statements =>
    labels start statement ++ blockLabels (start + statement.size) statements

end

/-- How many labels a branch has for itself. -/
def forkCount (whenFalse : List Statement) : Nat := if whenFalse.isEmpty then 1 else 2

mutual

/-- How many labels a statement has. -/
def labelCount : Statement → Nat
  | perform _ | leaveLoop => 0
  | branch _ whenTrue whenFalse =>
    forkCount whenFalse + blockLabelCount whenTrue + blockLabelCount whenFalse
  | loop _ body => 2 + blockLabelCount body

/-- How many labels a block has. -/
def blockLabelCount : List Statement → Nat
  | [] => 0
  | statement :: statements => statement.labelCount + blockLabelCount statements

end

/-! ### The code of the parts -/

variable (start : Nat) (exit : UInt16)

theorem blockCode_cons (statement : Statement) (statements : List Statement) :
    blockCode start exit (statement :: statements)
      = statement.code start exit ++ blockCode (start + statement.size) exit statements := by
  rw [blockCode, blockInstructions, List.flatMap_append]
  rfl

theorem code_perform (action : Action) :
    (perform action).code start exit = action.instruction.code := by
  rw [code, instructions, List.flatMap_singleton]

theorem code_branch (test : Test) (whenTrue whenFalse : List Statement) :
    (branch test whenTrue whenFalse).code start exit
      = (test.jump.toward (UInt16.ofNat
            (start + test.size + blockSize whenTrue + skipSize whenFalse))).code
        ++ blockCode (start + test.size) exit whenTrue
        ++ (skip (UInt16.ofNat (start + test.size + blockSize whenTrue + skipSize whenFalse
            + blockSize whenFalse)) whenFalse).flatMap Instruction.code
        ++ blockCode (start + test.size + blockSize whenTrue + skipSize whenFalse) exit
            whenFalse := by
  simp only [code, instructions, blockCode, List.cons_append, List.flatMap_cons,
    List.flatMap_append, List.append_assoc]

theorem code_loop (test : Option Test) (body : List Statement) :
    (loop test body).code start exit
      = (guard (UInt16.ofNat (start + guardSize test + blockSize body + leapSize)) test).flatMap
          Instruction.code
        ++ blockCode (start + guardSize test)
            (UInt16.ofNat (start + guardSize test + blockSize body + leapSize)) body
        ++ (Instruction.leap (UInt16.ofNat start)).code := by
  simp only [code, instructions, blockCode, List.flatMap_append, List.flatMap_singleton]

theorem code_leaveLoop : leaveLoop.code start exit = (Instruction.leap exit).code := by
  rw [code, instructions, List.flatMap_singleton]

/-! ### Sizes -/

theorem size_jump_toward (test : Test) (address : UInt16) :
    (test.jump.toward address).size = test.size := by
  cases test <;> rfl

theorem size_leap (address : UInt16) : (Instruction.leap address).size = leapSize := rfl

theorem length_guard (past : UInt16) (test : Option Test) :
    ((guard past test).flatMap Instruction.code).length = guardSize test := by
  cases test with
  | none => rfl
  | some test =>
    rw [guard, List.flatMap_singleton, Instruction.length_code, size_jump_toward, guardSize]

theorem length_skip (past : UInt16) (whenFalse : List Statement) :
    ((skip past whenFalse).flatMap Instruction.code).length = skipSize whenFalse := by
  unfold skip skipSize
  split
  · rfl
  · rw [List.flatMap_singleton, Instruction.length_code, size_leap]

mutual

/-- **The code of a statement is as long as its size says**, wherever it stands. -/
theorem length_code (start : Nat) (exit : UInt16) :
    (statement : Statement) → (statement.code start exit).length = statement.size
  | perform action => by rw [code_perform, Instruction.length_code, size]
  | branch test whenTrue whenFalse => by
    rw [code_branch, List.length_append, List.length_append, List.length_append,
      Instruction.length_code, size_jump_toward, length_skip, length_blockCode _ _ whenTrue,
      length_blockCode _ _ whenFalse, size]
  | loop test body => by
    rw [code_loop, List.length_append, List.length_append, length_guard,
      Instruction.length_code, size_leap, length_blockCode _ _ body, size]
  | leaveLoop => by rw [code_leaveLoop, Instruction.length_code, size_leap, size]

theorem length_blockCode (start : Nat) (exit : UInt16) :
    (statements : List Statement) → (blockCode start exit statements).length = blockSize statements
  | [] => rfl
  | statement :: statements => by
    rw [blockCode_cons, List.length_append, length_code start exit statement,
      length_blockCode _ exit statements, blockSize]

end

/-! ### Labels -/

theorem labels_branch_zero (start : Nat) (test : Test) (whenTrue whenFalse : List Statement) :
    ((branch test whenTrue whenFalse).labels start)[0]?
      = some (start + test.size + blockSize whenTrue + skipSize whenFalse) := by
  rw [labels]
  split <;> rfl

theorem labels_branch_one (start : Nat) (test : Test) (whenTrue : List Statement)
    {whenFalse : List Statement} (filled : whenFalse.isEmpty = false) :
    ((branch test whenTrue whenFalse).labels start)[1]?
      = some (start + test.size + blockSize whenTrue + skipSize whenFalse
        + blockSize whenFalse) := by
  rw [labels, filled]
  rfl

mutual

theorem length_labels (start : Nat) :
    (statement : Statement) → (statement.labels start).length = statement.labelCount
  | perform _ | leaveLoop => rfl
  | branch test whenTrue whenFalse => by
    simp only [labels, labelCount, forkCount, List.length_append,
      length_blockLabels _ whenTrue, length_blockLabels _ whenFalse]
    split <;> rfl
  | loop test body => by
    simp only [labels, labelCount, List.length_append, length_blockLabels _ body]
    rfl

theorem length_blockLabels (start : Nat) :
    (statements : List Statement) →
      (blockLabels start statements).length = blockLabelCount statements
  | [] => rfl
  | statement :: statements => by
    rw [blockLabels, List.length_append, length_labels start statement,
      length_blockLabels _ statements, blockLabelCount]

end

theorem four_le_test_size (test : Test) : 4 ≤ test.size := by
  cases test <;> simp [Test.size, Test.jump, Instruction.size, Operand.size]

mutual

/-- The labels of a statement cost at least three bytes for two of them. -/
theorem three_mul_labelCount_le :
    (statement : Statement) → 3 * statement.labelCount ≤ 2 * statement.size
  | perform _ | leaveLoop => Nat.zero_le _
  | branch test whenTrue whenFalse => by
    have first := three_mul_blockLabelCount_le whenTrue
    have second := three_mul_blockLabelCount_le whenFalse
    have jump := four_le_test_size test
    simp only [labelCount, size, forkCount, skipSize, leapSize]
    split <;> omega
  | loop test body => by
    have inner := three_mul_blockLabelCount_le body
    simp only [labelCount, size, leapSize]
    omega

/-- **Two labels cost at least three bytes.** -/
theorem three_mul_blockLabelCount_le :
    (statements : List Statement) → 3 * blockLabelCount statements ≤ 2 * blockSize statements
  | [] => Nat.zero_le _
  | statement :: statements => by
    have first := three_mul_labelCount_le statement
    have second := three_mul_blockLabelCount_le statements
    rw [blockLabelCount, blockSize]
    omega

end

mutual

/-- The labels of a statement stand in it or right behind it. -/
theorem le_of_mem_labels (start : Nat) :
    (statement : Statement) → ∀ label ∈ statement.labels start, label ≤ start + statement.size
  | perform _ | leaveLoop => fun _ member => (List.not_mem_nil member).elim
  | branch test whenTrue whenFalse => fun label member => by
    simp only [labels, List.mem_append] at member
    rw [size]
    rcases member with (own | first) | second
    · split at own <;> simp only [List.mem_cons, List.not_mem_nil, or_false] at own <;> omega
    · have inner := le_of_mem_blockLabels _ whenTrue label first
      omega
    · have inner := le_of_mem_blockLabels _ whenFalse label second
      omega
  | loop test body => fun label member => by
    simp only [labels, List.mem_append, List.mem_cons, List.not_mem_nil, or_false] at member
    rw [size]
    rcases member with (entry | past) | inner
    · omega
    · omega
    · have inside := le_of_mem_blockLabels _ body label inner
      omega

theorem le_of_mem_blockLabels (start : Nat) :
    (statements : List Statement) →
      ∀ label ∈ blockLabels start statements, label ≤ start + blockSize statements
  | [] => fun _ member => (List.not_mem_nil member).elim
  | statement :: statements => fun label member => by
    rw [blockLabels, List.mem_append] at member
    rw [blockSize]
    rcases member with first | second
    · have inside := le_of_mem_labels start statement label first
      omega
    · have inside := le_of_mem_blockLabels _ statements label second
      omega

end

/-! ### Everything can be read -/

theorem readable_jump_toward (test : Test) (address : UInt16) :
    (test.jump.toward address).IsReadable := by
  cases test <;> exact ⟨rfl, by simp [Test.jump, Instruction.toward, Operand.IsShort]⟩

theorem readable_leap (address : UInt16) : (Instruction.leap address).IsReadable :=
  ⟨rfl, by simp [Instruction.leap, Instruction.toward, Operand.IsShort]⟩

theorem readable_guard (past : UInt16) (test : Option Test) :
    ∀ instruction ∈ guard past test, instruction.IsReadable := by
  intro instruction member
  cases test with
  | none => exact (List.not_mem_nil member).elim
  | some test =>
    rw [List.mem_singleton.1 member]
    exact readable_jump_toward test past

theorem readable_skip (past : UInt16) (whenFalse : List Statement) :
    ∀ instruction ∈ skip past whenFalse, instruction.IsReadable := by
  intro instruction member
  unfold skip at member
  split at member
  · exact (List.not_mem_nil member).elim
  · rw [List.mem_singleton.1 member]
    exact readable_leap past

mutual

theorem readable_instructions (start : Nat) (exit : UInt16) :
    (statement : Statement) →
      ∀ instruction ∈ statement.instructions start exit, instruction.IsReadable
  | perform action => fun instruction member => by
    rw [List.mem_singleton.1 member]
    exact action.straight.toIsReadable
  | branch test whenTrue whenFalse => fun instruction member => by
    simp only [instructions, List.mem_cons, List.mem_append] at member
    rcases member with ((jump | first) | leap) | second
    · rw [jump]
      exact readable_jump_toward _ _
    · exact readable_blockInstructions _ _ whenTrue instruction first
    · exact readable_skip _ _ instruction leap
    · exact readable_blockInstructions _ _ whenFalse instruction second
  | loop test body => fun instruction member => by
    simp only [instructions, List.mem_append, List.mem_singleton] at member
    rcases member with (entered | inner) | back
    · exact readable_guard _ _ instruction entered
    · exact readable_blockInstructions _ _ body instruction inner
    · rw [back]
      exact readable_leap _
  | leaveLoop => fun instruction member => by
    rw [List.mem_singleton.1 member]
    exact readable_leap exit

/-- **The engine can read the code of a block.** -/
theorem readable_blockInstructions (start : Nat) (exit : UInt16) :
    (statements : List Statement) →
      ∀ instruction ∈ blockInstructions start exit statements, instruction.IsReadable
  | [] => fun _ member => (List.not_mem_nil member).elim
  | statement :: statements => fun instruction member => by
    rw [blockInstructions, List.mem_append] at member
    rcases member with first | second
    · exact readable_instructions start exit statement instruction first
    · exact readable_blockInstructions _ exit statements instruction second

end

end Statement
end Cartridge
