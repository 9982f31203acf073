import Cartridge.Proofs.Script.Patching
import Mathlib.Data.List.Pairwise

/-!
# Filling in addresses late

Instructions may be written before the addresses of all their labels are known. Each label without
an address leaves a hole of two bytes, and filling the holes later gives the bytes that come out if
all addresses are known at once.

* `Instruction.writeAll`: instructions one behind the other, and the holes they leave.
* `Assembly.foldlM_step_map_emit`: this is what the second pass does with them.
* `Instruction.Fills`: bytes with holes, and what they are when the holes are filled.
* `Instruction.Fills.append`: code with holes may be put together from parts.
* `Instruction.writeAll_fillsLate`: filling late is as good as knowing early.
-/

namespace Cartridge

/-! ### Lists behind arrays -/

section Arrays

variable {α : Type} (first : Array α) (added more : List α)

theorem appendList_append : first ++ added ++ more = first ++ (added ++ more) :=
  Array.ext' (by simp)

theorem appendList_eq_toArray : first ++ added = (first.toList ++ added).toArray :=
  Array.ext' (by simp)

theorem size_appendList : (first ++ added).size = first.size + added.length := by
  rw [appendList_eq_toArray, List.size_toArray, List.length_append, Array.length_toList]

end Arrays

/-! ### Writing many instructions -/

/-- The label of an operand that is one. -/
def Operand.target? : Operand → Option Label
  | label target => some target
  | _ => none

namespace Instruction

/-- The labels in an instruction, in the order of its operands. -/
def targets (instruction : Instruction) : List Label :=
  instruction.operands.filterMap Operand.target?

/-- Writes instructions one behind the other, and collects the holes that they leave. -/
def writeAll (known : Label → Option UInt16) (code : Array UInt8) :
    List Instruction → Array UInt8 × List Hole
  | [] => (code, [])
  | instruction :: instructions =>
    let first := instruction.encode known code
    let later := writeAll known first.1 instructions
    (later.1, first.2 ++ later.2)

theorem writeAll_fst (known : Label → Option UInt16) (code : Array UInt8)
    (instructions : List Instruction) :
    (writeAll known code instructions).1 = code ++ instructions.flatMap (bytes known) := by
  induction instructions generalizing code with
  | nil => simp [writeAll]
  | cons instruction instructions ih =>
    rw [writeAll, ih, encode, List.flatMap_cons, appendList_append]

end Instruction

/-- **The second pass writes a run of instructions so.** It notes their holes in the innermost block
that is open. -/
theorem Assembly.foldlM_step_map_emit {known : Label → Option UInt16}
    {addresses : Array (Option UInt16)} (same : address? addresses = known) (code : Array UInt8)
    (innermost : Array Hole) (outer : List (Array Hole)) (instructions : List Instruction) :
    (instructions.map Step.emit).foldlM step ⟨code, addresses, innermost :: outer⟩
      = .ok ⟨(Instruction.writeAll known code instructions).1, addresses,
        (innermost ++ (Instruction.writeAll known code instructions).2) :: outer⟩ := by
  subst same
  induction instructions generalizing code innermost with
  | nil => simp [Instruction.writeAll, pure, Except.pure]
  | cons instruction instructions ih =>
    rw [List.map_cons, List.foldlM_cons]
    show List.foldlM step ⟨(instruction.encode (address? addresses) code).1, addresses,
      (innermost ++ (instruction.encode (address? addresses) code).2) :: outer⟩ _ = _
    rw [ih, Instruction.writeAll, appendList_append]

/-! ### Bytes with holes -/

namespace Instruction

open Assembly (fill fill_middle fillAll fillAll_eq_foldl foldl_fillHole_of_known)

/-- Fills a hole with the address of its label. -/
def fillWith (address : Label → UInt16) (code : Array UInt8) (hole : Hole) : Array UInt8 :=
  fill code hole.2 (address hole.1)

/-- **Bytes with holes.** The bytes stand from `start` on, and become `filled` when each hole gets
the address of its label. -/
structure Fills (address : Label → UInt16) (start : Nat) (bytes : List UInt8) (holes : List Hole)
    (filled : List UInt8) : Prop where
  length : bytes.length = filled.length
  /-- A hole is two of the bytes, with the mark of an open hole in them. -/
  marked : ∀ hole ∈ holes, ∃ before after, bytes = before ++ littleEndian unresolved ++ after
    ∧ hole.2 = start + before.length
  /-- The holes stand one behind the other. -/
  apart : holes.Pairwise fun first second => first.2 + 2 ≤ second.2
  filled : ∀ before after, before.length = start →
    holes.foldl (fillWith address) (before ++ bytes ++ after).toArray
      = (before ++ filled ++ after).toArray

variable {address : Label → UInt16} {known : Label → Option UInt16} {start : Nat}

namespace Fills

variable {bytes filled : List UInt8} {holes : List Hole}

/-- Bytes without holes are left as they are. -/
theorem closed (address : Label → UInt16) (start : Nat) (bytes : List UInt8) :
    Fills address start bytes [] bytes where
  length := rfl
  marked := nofun
  apart := .nil
  filled := fun _ _ _ => rfl

/-- An open hole is filled with the address of its label. -/
theorem hole (address : Label → UInt16) (start : Nat) (target : Label) :
    Fills address start (littleEndian unresolved) [(target, start)]
      (littleEndian (address target)) where
  length := rfl
  marked := fun hole member => by
    rw [List.mem_singleton.1 member]
    exact ⟨[], [], rfl, rfl⟩
  apart := List.pairwise_singleton _ _
  filled := fun before after placed => by
    subst placed
    exact fill_middle before after unresolved (address target)

theorem place_le (fills : Fills address start bytes holes filled) {hole : Hole}
    (member : hole ∈ holes) : start ≤ hole.2 ∧ hole.2 + 2 ≤ start + bytes.length := by
  obtain ⟨before, after, rfl, placed⟩ := fills.marked hole member
  simp only [List.length_append, littleEndian, List.length_cons, List.length_nil]
  omega

/-- **Code with holes may be put together from parts.** -/
theorem append {more moreFilled : List UInt8} {moreHoles : List Hole}
    (first : Fills address start bytes holes filled)
    (second : Fills address (start + bytes.length) more moreHoles moreFilled) :
    Fills address start (bytes ++ more) (holes ++ moreHoles) (filled ++ moreFilled) where
  length := by rw [List.length_append, List.length_append, first.length, second.length]
  marked := fun hole member => by
    rcases List.mem_append.1 member with early | late
    · obtain ⟨before, after, rfl, placed⟩ := first.marked hole early
      exact ⟨before, after ++ more, by simp only [List.append_assoc], placed⟩
    · obtain ⟨before, after, rfl, placed⟩ := second.marked hole late
      refine ⟨bytes ++ before, after, by simp only [List.append_assoc], ?_⟩
      rw [placed, List.length_append, Nat.add_assoc]
  apart := by
    refine List.pairwise_append.2 ⟨first.apart, second.apart, fun early inFirst late inSecond => ?_⟩
    exact Nat.le_trans (first.place_le inFirst).2 (second.place_le inSecond).1
  filled := fun before after placed => by
    have early := first.filled before (more ++ after) placed
    have late := second.filled (before ++ filled) after
      (by rw [List.length_append, placed, first.length])
    simp only [List.append_assoc] at early late ⊢
    rw [List.foldl_append, early, late]

end Fills

/-! ### Instructions as bytes with holes -/

/-- **A total map of addresses that agrees with the addresses known so far.** -/
def Completes (address : Label → UInt16) (known : Label → Option UInt16) : Prop :=
  ∀ target found, known target = some found → address target = found

/-- Which labels of operands are left open, one operand after the other. -/
theorem operandHoles_cons (known : Label → Option UInt16) (start : Nat) (operand : Operand)
    (operands : List Operand) :
    operandHoles known start (operand :: operands)
      = (operand.hole? known).toList.map (·, start)
        ++ operandHoles known (start + operand.size) operands := by
  rw [operandHoles]
  cases operand.hole? known <;> rfl

theorem map_fst_operandHoles (known : Label → Option UInt16) (start : Nat)
    (operands : List Operand) :
    (operandHoles known start operands).map Prod.fst
      = (operands.filterMap Operand.target?).filter fun target => (known target).isNone := by
  induction operands generalizing start with
  | nil => rfl
  | cons operand operands ih =>
    rw [operandHoles_cons, List.map_append, ih, List.filterMap_cons]
    cases operand with
    | label target => cases found : known target <;> simp [Operand.hole?, Operand.target?, found]
    | _ => rfl

theorem map_fst_writeAll (known : Label → Option UInt16) (code : Array UInt8)
    (instructions : List Instruction) :
    (writeAll known code instructions).2.map Prod.fst
      = (instructions.flatMap targets).filter fun target => (known target).isNone := by
  induction instructions generalizing code with
  | nil => rfl
  | cons instruction instructions ih =>
    rw [writeAll, List.map_append, ih, List.flatMap_cons, List.filter_append, encode, holes,
      map_fst_operandHoles]
    rfl

theorem fills_operand (completes : Completes address known) (start : Nat) (operand : Operand) :
    Fills address start (operand.bytes known) ((operand.hole? known).toList.map (·, start))
      (operand.bytes (some ∘ address)) := by
  cases operand with
  | label target =>
    cases found : known target with
    | none =>
      simp only [Operand.bytes, Operand.hole?, found]
      exact .hole address start target
    | some early =>
      simp only [Operand.bytes, Operand.hole?, found, Function.comp_apply,
        completes target early found]
      exact .closed address start _
  | argument value => cases value <;> exact .closed address start _
  | _ => exact .closed address start _

theorem fills_operands (completes : Completes address known) (start : Nat)
    (operands : List Operand) :
    Fills address start (operands.flatMap (Operand.bytes known)) (operandHoles known start operands)
      (operands.flatMap (Operand.bytes (some ∘ address))) := by
  induction operands generalizing start with
  | nil => exact .closed address start []
  | cons operand operands ih =>
    have later := ih (start + operand.size)
    rw [← operand.length_bytes known] at later
    rw [operandHoles_cons, ← operand.length_bytes known]
    exact (fills_operand completes start operand).append later

/-- An instruction is a byte for its operation, and then its operands. -/
theorem fills_bytes (completes : Completes address known) (start : Nat)
    (instruction : Instruction) :
    Fills address start (instruction.bytes known) (instruction.holes known start)
      (instruction.bytes (some ∘ address)) :=
  (Fills.closed address start [instruction.operation.number]).append
    (fills_operands completes (start + 1) instruction.operands)

theorem exists_completes (known : Label → Option UInt16) : ∃ address, Completes address known := by
  refine ⟨fun target => (known target).getD unresolved, fun target found same => ?_⟩
  show (known target).getD unresolved = found
  rw [same, Option.getD_some]

/-- A hole in an instruction is for one of its labels, and lies within it. -/
theorem mem_holes {instruction : Instruction} {hole : Hole}
    (member : hole ∈ instruction.holes known start) :
    .label hole.1 ∈ instruction.operands ∧ hole.2 + 2 ≤ start + instruction.size := by
  obtain ⟨address, completes⟩ := exists_completes known
  have within := ((fills_bytes completes start instruction).place_le member).2
  rw [length_bytes] at within
  refine ⟨?_, within⟩
  have listed := List.mem_map_of_mem (f := Prod.fst) member
  rw [holes, map_fst_operandHoles] at listed
  obtain ⟨operand, inside, same⟩ := List.mem_filterMap.1 (List.mem_filter.1 listed).1
  cases operand with
  | label target => rwa [← Option.some.inj same]
  | _ => cases same

/-- **Instructions that are written behind some code** are bytes with holes. -/
theorem fills_writeAll (completes : Completes address known) (code : Array UInt8)
    (instructions : List Instruction) :
    Fills address code.size (instructions.flatMap (bytes known))
      (writeAll known code instructions).2
      (instructions.flatMap (bytes (some ∘ address))) := by
  induction instructions generalizing code with
  | nil => exact .closed address code.size []
  | cons instruction instructions ih =>
    have later := ih (code ++ instruction.bytes known)
    rw [size_appendList] at later
    exact (fills_bytes completes code.size instruction).append later

/-! ### The order of filling -/

theorem fill_comm {first second : Nat} (apart : first + 2 ≤ second ∨ second + 2 ≤ first)
    (code : Array UInt8) (one other : UInt16) :
    fill (fill code first one) second other = fill (fill code second other) first one := by
  unfold fill
  rw [Array.setIfInBounds_comm _ _ (show first + 1 ≠ second by omega),
    Array.setIfInBounds_comm _ _ (show first ≠ second by omega),
    Array.setIfInBounds_comm _ _ (show first + 1 ≠ second + 1 by omega),
    Array.setIfInBounds_comm _ _ (show first ≠ second + 1 by omega)]

/-- Holes that stand apart may be filled in any order. -/
theorem foldl_fillWith_perm {holes order : List Hole}
    (apart : holes.Pairwise fun first second => first.2 + 2 ≤ second.2)
    (perm : order.Perm holes) (code : Array UInt8) :
    order.foldl (fillWith address) code = holes.foldl (fillWith address) code := by
  refine (perm.symm.foldl_eq' (fun first inFirst second inSecond written => ?_) code).symm
  have either : holes.Pairwise fun first second =>
      first.2 + 2 ≤ second.2 ∨ second.2 + 2 ≤ first.2 := apart.imp .inl
  have symmetric : Std.Symm fun first second : Hole =>
      first.2 + 2 ≤ second.2 ∨ second.2 + 2 ≤ first.2 := ⟨fun _ _ => Or.symm⟩
  -- A hole that is listed twice is filled with the same address both times.
  by_cases same : first = second
  · rw [same]
  · exact fill_comm (either.forall inFirst inSecond same) written _ _

/-! ### Filling late and knowing early -/

/-- **Instructions that are written with the addresses in `known`, and filled in with `address`.** -/
structure FillsLate (known : Label → Option UInt16) (address : Label → UInt16)
    (code : Array UInt8) (instructions : List Instruction) (written : Array UInt8)
    (holes : List Hole) : Prop where
  /-- Where the second pass knows these addresses, it writes this and notes these holes. -/
  passes : ∀ addresses innermost outer, Assembly.address? addresses = known →
    (instructions.map Step.emit).foldlM Assembly.step ⟨code, addresses, innermost :: outer⟩
      = .ok ⟨written, addresses, (innermost ++ holes) :: outer⟩
  /-- The code so far is kept, and the instructions take the room that they say. -/
  behind : ∃ added : List UInt8, written = code ++ added
    ∧ added.length = total (instructions.map size)
  /-- Each label without an address leaves a hole, in the order of the operands. -/
  labels : holes.map Prod.fst
    = (instructions.flatMap targets).filter fun target => (known target).isNone
  /-- A hole is two of the bytes that have been added, with the mark of an open hole in them. -/
  marked : ∀ hole ∈ holes, code.size ≤ hole.2 ∧ hole.2 + 2 ≤ written.size
    ∧ written[hole.2]? = some unresolved.toUInt8
    ∧ written[hole.2 + 1]? = some (unresolved >>> 8).toUInt8
  /-- No two holes share a byte. -/
  apart : holes.Pairwise fun first second => first.2 + 2 ≤ second.2
  /-- Filled in any order, the holes make the code what it is with all addresses known. -/
  filled : ∀ order : List Hole, order.Perm holes →
    order.foldl (fun bytes hole => fill bytes hole.2 (address hole.1)) written
      = (writeAll (some ∘ address) code instructions).1
  /-- So does the closing of a block, once the labels of the holes have their addresses. -/
  closed : ∀ addresses : Array (Option UInt16),
    (∀ hole ∈ holes, Assembly.address? addresses hole.1 = some (address hole.1)) →
      fillAll addresses written holes.toArray = ((writeAll (some ∘ address) code instructions).1, #[])
  /-- With all addresses known there are no holes. -/
  direct : (writeAll (some ∘ address) code instructions).2 = []

/-- The mark of an open hole, read behind the code so far. -/
theorem marked_of_append (code : Array UInt8) (before after : List UInt8) :
    (code ++ (before ++ littleEndian unresolved ++ after))[code.size + before.length]?
        = some unresolved.toUInt8
      ∧ (code ++ (before ++ littleEndian unresolved ++ after))[code.size + before.length + 1]?
        = some (unresolved >>> 8).toUInt8 := by
  have early : code.toList.length + before.length = (code.toList ++ before).length :=
    List.length_append.symm
  rw [appendList_eq_toArray, ← Array.length_toList, early, List.append_assoc, ← List.append_assoc,
    List.getElem?_toArray, List.getElem?_toArray, List.getElem?_append_right (Nat.le_refl _),
    List.getElem?_append_right (Nat.le_add_right _ _), Nat.sub_self, Nat.add_sub_cancel_left]
  exact ⟨rfl, rfl⟩

/-- **Filling late is as good as knowing early.** Whatever addresses are known when instructions are
written behind some code, and whatever the others turn out to be: the code so far is kept, the
instructions take as many bytes as their sizes say, each label without an address leaves a marked
field of two bytes, these fields do not overlap, and when each of them has got the address of its
label, the bytes are those that come out if all addresses are known from the start. -/
theorem writeAll_fillsLate (completes : Completes address known) (code : Array UInt8)
    (instructions : List Instruction) :
    FillsLate known address code instructions (writeAll known code instructions).1
      (writeAll known code instructions).2 := by
  have fills := fills_writeAll completes code instructions
  have written := writeAll_fst known code instructions
  have whole : (writeAll known code instructions).2.foldl (fillWith address)
        (writeAll known code instructions).1
      = (writeAll (some ∘ address) code instructions).1 := by
    have filled := fills.filled code.toList [] Array.length_toList
    rw [List.append_nil, List.append_nil, ← appendList_eq_toArray, ← appendList_eq_toArray] at filled
    rw [writeAll_fst, writeAll_fst, filled]
  refine ⟨fun addresses innermost outer same => ?_, ⟨_, written, ?_⟩, map_fst_writeAll .., ?_,
    fills.apart, fun order perm => ?_, fun addresses bound => ?_, ?_⟩
  · exact Assembly.foldlM_step_map_emit same code innermost outer instructions
  · rw [length_flatMap_eq_total]
    exact congrArg total (List.map_congr_left fun instruction _ => instruction.length_bytes known)
  · intro hole member
    have inside := fills.place_le member
    obtain ⟨before, after, split, placed⟩ := fills.marked hole member
    rw [written, size_appendList]
    refine ⟨inside.1, inside.2, ?_⟩
    rw [placed, split]
    exact marked_of_append code before after
  · exact (foldl_fillWith_perm fills.apart perm _).trans whole
  · rw [fillAll_eq_foldl, foldl_fillHole_of_known address _ bound]
    exact congrArg (·, #[]) whole
  · have none := map_fst_writeAll (some ∘ address) code instructions
    rw [List.filter_eq_nil_iff.2 (by simp)] at none
    exact List.map_eq_nil_iff.1 none

/-- A jump that waits for its label, between a text too long for its length byte and a jump whose
label has its address already. -/
theorem writeAll_fillsLate_jumps :
    ∃ written holes, Completes (fun target => if target = 2 then 0x0102 else 0x0A0B)
        (fun target => if target = 2 then some 0x0102 else none)
      ∧ FillsLate (fun target => if target = 2 then some 0x0102 else none)
        (fun target => if target = 2 then 0x0102 else 0x0A0B) #[0xAA]
        [⟨.text, [.text (.replicate 256 120)]⟩,
          ⟨.jumpUnless, [.byte 3, .byte 1, .argument (.slot 7), .label 0]⟩, ⟨.jump, [.label 2]⟩]
        written holes
      ∧ holes = [(0, 265)] ∧ written.size = 270 := by
  have completes : Completes (fun target => if target = 2 then 0x0102 else 0x0A0B)
      (fun target => if target = 2 then some 0x0102 else none) := by
    intro target found known
    by_cases second : target = 2
    · exact (if_pos second).trans (Option.some.inj ((if_pos second).symm.trans known))
    · exact nomatch (if_neg second).symm.trans known
  refine ⟨_, _, completes, writeAll_fillsLate completes _ _, ?_, ?_⟩
  · decide +kernel
  · decide +kernel

end Instruction
end Cartridge
