import Cartridge.Proofs.Script.Compilation

/-!
# Compiled code is read back as the lowered script

Reading a compiled script gives the instructions of the first pass again, with addresses in the place
of labels, and every address among them is the start of an instruction.

* `Instruction.Settles`: an instruction, and the same one with an address for each label.
* `Instruction.IsBoundary`: a place with whole instructions before it and behind it.
* `Statement.settles_blockInstructions`: the generated code is the recorded one, settled.
* `Statement.isBoundary_of_mem_blockLabels`: a label stands between two instructions.
* `CompiledScript.decodes_of_ofSource`: both, for every script that compiles.
-/

namespace Cartridge

/-! ### Labels and their addresses -/

/-- **The operand with an address in the place of its label.** Any other operand is kept. -/
inductive Operand.Settles (labels : List UInt16) : Operand → Operand → Prop
  | label {target : Label} {address : UInt16} (known : labels[target.toNat]? = some address) :
    Settles labels (.label target) (.label address)
  | other {operand : Operand} (free : operand.shape ≠ .label) : Settles labels operand operand

/-- **The instruction with an address in the place of each label.** -/
structure Instruction.Settles (labels : List UInt16) (lowered settled : Instruction) : Prop where
  operation : lowered.operation = settled.operation
  operands : List.Forall₂ (Operand.Settles labels) lowered.operands settled.operands

namespace Instruction

variable {labels : List UInt16} {instruction : Instruction}

theorem IsLabelFree.forall₂_settles (free : instruction.IsLabelFree) :
    List.Forall₂ (Operand.Settles labels) instruction.operands instruction.operands :=
  List.forall₂_same.2 fun operand member => .other (free operand member)

theorem IsLabelFree.settles (free : instruction.IsLabelFree) :
    Settles labels instruction instruction :=
  ⟨rfl, free.forall₂_settles⟩

theorem settles_toward (free : instruction.IsLabelFree) {target : Label} {address : UInt16}
    (known : labels[target.toNat]? = some address) :
    Settles labels (instruction.toward target) (instruction.toward address) :=
  ⟨rfl, List.rel_append free.forall₂_settles (.cons (.label known) .nil)⟩

/-- The addresses in a settled instruction are those of labels. -/
theorem Settles.mem_labels {lowered settled : Instruction} (settles : Settles labels lowered settled)
    {address : UInt16} (member : .label address ∈ settled.operands) : address ∈ labels := by
  obtain ⟨operand, _, here⟩ := exists_of_mem_of_forall₂ settles.operands member
  cases here with
  | label known => exact List.mem_of_getElem? known
  | other free => exact (free rfl).elim

/-! ### Boundaries -/

/-- **A place between instructions.** The instructions stand from `start` on; before the place and
behind it are whole ones. -/
def IsBoundary (start : Nat) (instructions : List Instruction) (place : Nat) : Prop :=
  ∃ before after, instructions = before ++ after ∧ place = start + (before.flatMap code).length

namespace IsBoundary

variable {start place : Nat} {first second : List Instruction}

theorem middle {size : Nat} (length : (first.flatMap code).length = size) :
    IsBoundary start (first ++ second) (start + size) :=
  ⟨first, second, rfl, congrArg (start + ·) length.symm⟩

theorem front (start : Nat) (instructions : List Instruction) :
    IsBoundary start instructions start := ⟨[], instructions, rfl, rfl⟩

theorem back (start : Nat) (instructions : List Instruction) :
    IsBoundary start instructions (start + (instructions.flatMap code).length) :=
  ⟨instructions, [], (List.append_nil _).symm, rfl⟩

theorem left (boundary : IsBoundary start first place) : IsBoundary start (first ++ second) place := by
  obtain ⟨before, after, rfl, placed⟩ := boundary
  exact ⟨before, after ++ second, List.append_assoc .., placed⟩

theorem cons {instruction : Instruction}
    (boundary : IsBoundary (start + instruction.size) second place) :
    IsBoundary start (instruction :: second) place := by
  obtain ⟨before, after, rfl, rfl⟩ := boundary
  refine ⟨instruction :: before, after, rfl, ?_⟩
  rw [List.flatMap_cons, List.length_append, length_code, Nat.add_assoc]

theorem right (boundary : IsBoundary (start + (first.flatMap code).length) second place) :
    IsBoundary start (first ++ second) place := by
  obtain ⟨before, after, rfl, rfl⟩ := boundary
  refine ⟨first ++ before, after, (List.append_assoc ..).symm, ?_⟩
  rw [List.flatMap_append, List.length_append, Nat.add_assoc]

end IsBoundary

/-- **The start of an instruction in some code.** Up to the place and from it on, the code is read as
two halves of the instructions, and the second half has something in it. -/
def StartsAt (code : List UInt8) (instructions : List Instruction) (place : Nat) : Prop :=
  ∃ before instruction after, instructions = before ++ instruction :: after
    ∧ readScript? (code.take place) = some before
    ∧ readScript? (code.drop place) = some (instruction :: after)

/-- A boundary before the last instruction is the start of one. -/
theorem IsBoundary.startsAt {instructions : List Instruction} {last : Instruction} {place : Nat}
    (boundary : IsBoundary 0 instructions place)
    (readable : ∀ instruction ∈ instructions ++ [last], instruction.IsReadable) :
    StartsAt ((instructions ++ [last]).flatMap code) (instructions ++ [last]) place := by
  obtain ⟨before, after, rfl, rfl⟩ := boundary
  rw [List.append_assoc] at readable ⊢
  have beforeRead := readScript?_flatMap_code fun instruction member =>
    readable instruction (List.mem_append_left _ member)
  have afterRead := readScript?_flatMap_code fun instruction member =>
    readable instruction (List.mem_append_right _ member)
  rw [Nat.zero_add, List.flatMap_append, StartsAt, List.take_left, List.drop_left]
  obtain ⟨instruction, later, behind⟩ := List.exists_cons_of_ne_nil
    (List.append_ne_nil_of_right_ne_nil after (List.cons_ne_nil last []))
  rw [behind] at afterRead ⊢
  exact ⟨before, instruction, later, rfl, beforeRead, afterRead⟩

end Instruction

/-! ### The instructions of the first pass -/

/-- The instruction that a step emits. -/
def Step.instruction? : Step → Option Instruction
  | emit instruction => some instruction
  | _ => none

/-- The instructions among some steps, in their order. -/
def Step.instructions (steps : List Step) : List Instruction := steps.filterMap Step.instruction?

theorem Step.instructions_append (first second : List Step) :
    instructions (first ++ second) = instructions first ++ instructions second :=
  List.filterMap_append

theorem Step.instructions_map_emit (emitted : List Instruction) :
    instructions (emitted.map .emit) = emitted := by
  rw [instructions, List.filterMap_map]
  exact List.filterMap_some

/-- The instructions of a lowered script. Their labels are numbers. -/
def Lowered.instructions (lowered : Lowered) : List Instruction :=
  Step.instructions lowered.steps.toList

/-! ### Addresses by the numbers of their labels -/

/-- The labels from number `fresh` on have the given addresses. -/
def HasLabels (labels : List UInt16) (fresh : Nat) (addresses : List Nat) : Prop :=
  ∀ index address, addresses[index]? = some address →
    labels[(UInt16.ofNat (fresh + index)).toNat]? = some (UInt16.ofNat address)

namespace HasLabels

variable {labels : List UInt16} {fresh : Nat} {first second : List Nat}

theorem left (has : HasLabels labels fresh (first ++ second)) : HasLabels labels fresh first := by
  intro index address found
  have inside := (List.getElem?_eq_some_iff.1 found).1
  exact has index address ((List.getElem?_append_left inside).trans found)

theorem right (has : HasLabels labels fresh (first ++ second)) :
    HasLabels labels (fresh + first.length) second := by
  intro index address found
  rw [Nat.add_assoc]
  refine has (first.length + index) address ?_
  rwa [List.getElem?_append_right (Nat.le_add_right _ _), Nat.add_sub_cancel_left]

/-- The labels of a script are numbered from zero, in their order. -/
theorem ofAll {addresses : List Nat} (few : addresses.length ≤ 65536) :
    HasLabels (addresses.map UInt16.ofNat) 0 addresses := by
  intro index address found
  have inside := (List.getElem?_eq_some_iff.1 found).1
  rw [Nat.zero_add, UInt16.toNat_ofNat_of_lt' (show index < 65536 by omega), List.getElem?_map,
    found]
  rfl

end HasLabels

namespace Statement

/-! ### The generated code is the recorded one, settled -/

section Settling

variable {labels : List UInt16}

theorem settles_guard {past : Label} {address : UInt16}
    (known : labels[past.toNat]? = some address) (test : Option Test) :
    List.Forall₂ (Instruction.Settles labels) (guard past test) (guard address test) := by
  cases test with
  | none => exact .nil
  | some test => exact .cons (Instruction.settles_toward test.labelFree_jump known) .nil

theorem settles_skip {past : Label} {address : UInt16} (whenFalse : List Statement)
    (known : whenFalse.isEmpty = false → labels[past.toNat]? = some address) :
    List.Forall₂ (Instruction.Settles labels) (skip past whenFalse) (skip address whenFalse) := by
  unfold skip
  split
  · exact .nil
  · rename_i filled
    exact .cons (Instruction.settles_toward Instruction.labelFree_jump
      (known (Bool.eq_false_iff.2 filled))) .nil

variable (fresh : Nat) (exit : Label)

theorem instructions_steps_branch (test : Test) (whenTrue whenFalse : List Statement) :
    Step.instructions ((branch test whenTrue whenFalse).steps fresh exit)
      = test.jump.toward (UInt16.ofNat fresh)
        :: Step.instructions (blockSteps (fresh + forkCount whenFalse) exit whenTrue)
        ++ skip (UInt16.ofNat (fresh + 1)) whenFalse
        ++ Step.instructions
          (blockSteps (fresh + forkCount whenFalse + blockLabelCount whenTrue) exit whenFalse) := by
  have past : Step.instructions
      (if whenFalse.isEmpty then [] else [.bind (UInt16.ofNat (fresh + 1))]) = [] := by
    split <;> rfl
  simp only [steps, Step.instructions_append, Step.instructions_map_emit, past]
  simp [Step.instructions, Step.instruction?, List.filterMap_cons]

theorem instructions_steps_loop (test : Option Test) (body : List Statement) :
    Step.instructions ((loop test body).steps fresh exit)
      = guard (UInt16.ofNat (fresh + 1)) test
        ++ Step.instructions (blockSteps (fresh + 2) (UInt16.ofNat (fresh + 1)) body)
        ++ [.leap (UInt16.ofNat fresh)] := by
  simp only [steps, Step.instructions_append, Step.instructions_map_emit]
  simp [Step.instructions, Step.instruction?, List.filterMap_cons]

theorem length_forkLabels (other past : Nat) (whenFalse : List Statement) :
    (if whenFalse.isEmpty then [other] else [other, past]).length = forkCount whenFalse := by
  rw [forkCount]
  split <;> rfl

mutual

/-- The code of a statement is what the first pass records for it, settled. The address behind the
loop around it matters only where the statement leaves that loop. -/
theorem settles_instructions (start fresh : Nat) (exit : Label) (address : UInt16) :
    (statement : Statement) → HasLabels labels fresh (statement.labels start) →
      (statement.breaks start ≠ [] → labels[exit.toNat]? = some address) →
      List.Forall₂ (Instruction.Settles labels) (Step.instructions (statement.steps fresh exit))
        (statement.instructions start address)
  | perform action => fun _ _ => .cons action.straight.labelFree.settles .nil
  | branch test whenTrue whenFalse => fun has leaves => by
    have other := has 0 _ (labels_branch_zero start test whenTrue whenFalse)
    have past := fun filled => has 1 _ (labels_branch_one start test whenTrue filled)
    rw [Statement.labels] at has
    have first := has.left.right
    have second := has.right
    rw [length_forkLabels] at first
    rw [List.length_append, length_forkLabels, length_blockLabels, ← Nat.add_assoc] at second
    rw [instructions_steps_branch, instructions]
    refine List.rel_append (List.rel_append (.cons ?_ ?_) ?_) ?_
    · exact Instruction.settles_toward test.labelFree_jump other
    · exact settles_blockInstructions _ _ exit address whenTrue first fun left =>
        leaves (List.append_ne_nil_of_left_ne_nil left _)
    · exact settles_skip whenFalse past
    · exact settles_blockInstructions _ _ exit address whenFalse second fun left =>
        leaves (List.append_ne_nil_of_right_ne_nil _ left)
  | loop test body => fun has _ => by
    have entry := has 0 _ rfl
    have past := has 1 _ rfl
    have inner : HasLabels labels (fresh + 2) (blockLabels (start + guardSize test) body) :=
      has.right
    rw [instructions_steps_loop, instructions]
    refine List.rel_append (List.rel_append (settles_guard past test)
      (settles_blockInstructions _ _ _ _ body inner fun _ => past)) (.cons ?_ .nil)
    exact Instruction.settles_toward Instruction.labelFree_jump entry
  | leaveLoop => fun _ leaves =>
    .cons (Instruction.settles_toward Instruction.labelFree_jump
      (leaves (List.cons_ne_nil _ _))) .nil

theorem settles_blockInstructions (start fresh : Nat) (exit : Label) (address : UInt16) :
    (statements : List Statement) → HasLabels labels fresh (blockLabels start statements) →
      (blockBreaks start statements ≠ [] → labels[exit.toNat]? = some address) →
      List.Forall₂ (Instruction.Settles labels) (Step.instructions (blockSteps fresh exit statements))
        (blockInstructions start address statements)
  | [] => fun _ _ => .nil
  | statement :: statements => fun has leaves => by
    have later := has.right
    rw [length_labels] at later
    rw [blockSteps, Step.instructions_append, blockInstructions]
    refine List.rel_append
      (settles_instructions start fresh exit address statement has.left fun left =>
        leaves (List.append_ne_nil_of_left_ne_nil left _))
      (settles_blockInstructions _ _ exit address statements later fun left =>
        leaves (List.append_ne_nil_of_right_ne_nil _ left))

end

end Settling

/-! ### Labels stand between instructions -/

/-- How much code stands before the second branch. -/
theorem length_flatMap_firstBranch (start : Nat) (exit other past : UInt16) (test : Test)
    (whenTrue whenFalse : List Statement) :
    ((test.jump.toward other :: blockInstructions start exit whenTrue
        ++ skip past whenFalse).flatMap Instruction.code).length
      = test.size + blockSize whenTrue + skipSize whenFalse := by
  rw [List.flatMap_append, List.flatMap_cons, List.length_append, List.length_append,
    Instruction.length_code, size_jump_toward, length_skip, ← blockCode, length_blockCode]

open Instruction (IsBoundary)

mutual

theorem isBoundary_of_mem_labels (start : Nat) (exit : UInt16) :
    (statement : Statement) → ∀ label ∈ statement.labels start,
      IsBoundary start (statement.instructions start exit) label
  | perform _ | leaveLoop => fun _ member => (List.not_mem_nil member).elim
  | branch test whenTrue whenFalse => fun label member => by
    have past := IsBoundary.back start ((branch test whenTrue whenFalse).instructions start exit)
    rw [← code, length_code, size, ← Nat.add_assoc, ← Nat.add_assoc, ← Nat.add_assoc] at past
    have before := length_flatMap_firstBranch (start + test.size) exit
      (UInt16.ofNat (start + test.size + blockSize whenTrue + skipSize whenFalse))
      (UInt16.ofNat (start + test.size + blockSize whenTrue + skipSize whenFalse
        + blockSize whenFalse)) test whenTrue whenFalse
    have other : IsBoundary start ((branch test whenTrue whenFalse).instructions start exit)
        (start + (test.size + blockSize whenTrue + skipSize whenFalse)) := .middle before
    rw [← Nat.add_assoc, ← Nat.add_assoc] at other
    simp only [labels, List.mem_append] at member
    rcases member with (own | first) | second
    · split at own
      · rw [List.mem_singleton.1 own]
        exact other
      · rcases List.mem_cons.1 own with rfl | own
        · exact other
        · rw [List.mem_singleton.1 own]
          exact past
    · refine .left (.left (.cons ?_))
      rw [size_jump_toward]
      exact isBoundary_of_mem_blockLabels _ exit whenTrue label first
    · refine .right ?_
      rw [before, ← Nat.add_assoc, ← Nat.add_assoc]
      exact isBoundary_of_mem_blockLabels _ exit whenFalse label second
  | loop test body => fun label member => by
    have whole := IsBoundary.back start ((loop test body).instructions start exit)
    rw [← code, length_code, size, ← Nat.add_assoc, ← Nat.add_assoc] at whole
    simp only [labels, List.mem_append, List.mem_cons, List.not_mem_nil, or_false] at member
    rcases member with (rfl | rfl) | inner
    · exact IsBoundary.front _ _
    · exact whole
    · refine .left (.right ?_)
      rw [length_guard]
      exact isBoundary_of_mem_blockLabels _ _ body label inner

/-- **A label of a block stands between two instructions**, or before or behind all of them. -/
theorem isBoundary_of_mem_blockLabels (start : Nat) (exit : UInt16) :
    (statements : List Statement) → ∀ label ∈ blockLabels start statements,
      IsBoundary start (blockInstructions start exit statements) label
  | [] => fun _ member => (List.not_mem_nil member).elim
  | statement :: statements => fun label member => by
    rw [blockLabels, List.mem_append] at member
    rw [blockInstructions]
    rcases member with first | second
    · exact .left (isBoundary_of_mem_labels start exit statement label first)
    · refine .right ?_
      rw [← code, length_code]
      exact isBoundary_of_mem_blockLabels _ exit statements label second

end

end Statement

/-! ### Compiled scripts -/

namespace CompiledScript

open Statement

/-- **An address that may be jumped to.** -/
structure IsTarget (script : CompiledScript) (instructions : List Instruction)
    (address : UInt16) : Prop where
  starts : Instruction.StartsAt script.code instructions address.toNat
  inside : address.toNat < script.code.length
  resolved : address ≠ unresolved

/-- **The code of a script is the code of a lowered script.** The engine reads it as `instructions`. -/
structure Decodes (script : CompiledScript) (lowered : Lowered)
    (instructions : List Instruction) : Prop where
  /-- Read from its first byte on, the code is used up by these instructions. -/
  read : Instruction.readScript? script.code = some instructions
  /-- Each of them has the operands that its operation asks for. -/
  readable : ∀ instruction ∈ instructions, instruction.IsReadable
  /-- No other instructions are written as this code. -/
  unique : ∀ others : List Instruction, (∀ other ∈ others, other.IsReadable) →
    others.flatMap Instruction.code = script.code → others = instructions
  /-- They are those of the first pass, in their order, with addresses for labels. -/
  settles : List.Forall₂ (Instruction.Settles script.labels) lowered.instructions instructions
  /-- Every jump goes to one of them. -/
  jumps : ∀ instruction ∈ instructions, ∀ address, .label address ∈ instruction.operands →
    script.IsTarget instructions address
  /-- Every label stands before one of them. -/
  labels : ∀ address ∈ script.labels, script.IsTarget instructions address
  /-- The last one stops the script. -/
  last : instructions.getLast? = some Lowered.ending

variable {statements : List Statement} (symbol : String)

theorem isTarget_of_mem_labels (fits : blockSize statements + 1 ≤ scriptSizeLimit) :
    ∀ address ∈ (ofStatements symbol statements).labels,
      (ofStatements symbol statements).IsTarget
        (blockInstructions 0 unresolved statements ++ [Lowered.ending]) address := by
  intro address member
  have counted : address.toNat ∈ (ofStatements symbol statements).labels.map UInt16.toNat :=
    List.mem_map_of_mem member
  rw [toNat_labels_ofStatements symbol fits] at counted
  have inside := le_of_mem_blockLabels 0 statements _ counted
  have boundary := isBoundary_of_mem_blockLabels 0 unresolved statements _ counted
  rw [Nat.zero_add] at inside
  refine ⟨?_, ?_, ?_⟩
  · rw [code_ofStatements]
    exact boundary.startsAt (readable_ofStatements statements)
  · rw [length_code_ofStatements]
    exact Nat.lt_succ_of_le inside
  · rintro rfl
    have large : blockSize statements < unresolved.toNat := fits
    exact absurd inside (Nat.not_le_of_lt large)

theorem settles_ofStatements (closed : blockBreaks 0 statements = [])
    (fits : blockSize statements + 1 ≤ scriptSizeLimit) :
    List.Forall₂ (Instruction.Settles (ofStatements symbol statements).labels)
      (Lowered.ofStatements statements).instructions
      (blockInstructions 0 unresolved statements ++ [Lowered.ending]) := by
  have few : (blockLabels 0 statements).length ≤ 65536 := by
    have counted := three_mul_blockLabelCount_le statements
    unfold scriptSizeLimit at fits
    rw [length_blockLabels]
    omega
  have recorded : (Lowered.ofStatements statements).instructions
      = Step.instructions (blockSteps 0 unresolved statements) ++ [Lowered.ending] := by
    rw [Lowered.instructions, Lowered.ofStatements, List.toList_toArray, Step.instructions_append,
      Step.instructions_append]
    rfl
  rw [recorded]
  exact List.rel_append
    (settles_blockInstructions 0 0 unresolved unresolved statements (.ofAll few)
      fun left => (left closed).elim)
    (.cons Assembly.labelFree_ending.settles .nil)

/-- **Compiled code is read back as the lowered script, and every jump is safe.** If a script
compiles, reading its code from the first byte on uses it up and gives one instruction for each
instruction of the first pass, in their order and with the same operation and operands, only that
labels have become addresses. Every address in a jump, and every address of a label, is the start of
one of these instructions, lies within the code and is not the mark of an open hole. The last
instruction is the stop. -/
theorem decodes_of_ofSource {tables : Tables} {source : ScriptSource} {script : CompiledScript}
    (compiled : ofSource tables source = .ok script) :
    ∃ lowered instructions, Lowered.ofBody tables source.body = .ok lowered
      ∧ script.Decodes lowered instructions := by
  obtain ⟨statements, accepted, fits, rfl⟩ := ofSource_eq_ok compiled
  have lowered : Lowered.ofBody tables source.body = .ok (.ofStatements statements) := by
    rw [Lowered.ofBody_eq, accepted]
    rfl
  have read := readScript?_ofStatements source.symbol statements
  have settles := settles_ofStatements source.symbol (blockBreaks_eq_nil 0 statements accepted) fits
  have targets := isTarget_of_mem_labels source.symbol fits
  refine ⟨_, _, lowered, read, readable_ofStatements statements, ?_, settles, ?_, targets,
    List.getLast?_concat⟩
  · intro others othersReadable written
    have again := Instruction.readScript?_flatMap_code othersReadable
    rw [written, read] at again
    exact (Option.some.inj again).symm
  · intro instruction member address jump
    obtain ⟨_, _, settled⟩ := exists_of_mem_of_forall₂ settles member
    exact targets address (settled.mem_labels jump)

/-- A loop that is left at once, with a text behind: the jump out of the loop has the address of the
stop, and the text comes back with its bytes. -/
theorem decodes_of_ofSource_text :
    ∃ script lowered instructions,
      ofSource ⟨∅, ∅, ∅, ∅, ∅, none⟩
          ⟨"script_sign", "script", [.loopForever [.leaveLoop, .text "Hi"]]⟩ = .ok script
        ∧ script.Decodes lowered instructions
        ∧ instructions = [.leap 10, ⟨.text, [.text [72, 105]]⟩, .leap 0, Lowered.ending] := by
  have compiled : ofSource ⟨∅, ∅, ∅, ∅, ∅, none⟩
      ⟨"script_sign", "script", [.loopForever [.leaveLoop, .text "Hi"]]⟩
        = .ok ⟨"script_sign", [8, 10, 0, 1, 2, 72, 105, 8, 0, 0, 0], [0, 10]⟩ := by
    rw [ofSource_eq]
    rfl
  obtain ⟨lowered, instructions, _, decodes⟩ := decodes_of_ofSource compiled
  refine ⟨_, lowered, instructions, compiled, decodes, ?_⟩
  exact Option.some.inj (decodes.read.symm.trans (by decide))

end CompiledScript
end Cartridge
