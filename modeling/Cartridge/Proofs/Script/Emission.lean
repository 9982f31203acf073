import Cartridge.Proofs.Script.Decoding
import Cartridge.Proofs.Script.Filling
import Cartridge.Proofs.Script.Nesting
import Mathlib.Data.List.Nodup

/-!
# The second pass stays within bounds

The labels of a script are numbers of two bytes, and so are the addresses in its code. A script that
is not too large has few enough labels and little enough code, so no number is cut off, and the second
pass finds everything it looks up.

* `Assembly.Admits`: what a step needs to be carried out as it is meant.
* `Assembly.Follows`: what holds after some steps of the second pass.
* `Assembly.Follows.step`: each step keeps it.
* `Lowered.IsSafe`: a script whose labels can be told apart, and whose steps can all be carried out.
* `Lowered.ofBody_isSafe`: every script that the first pass accepts is so.
-/

namespace Cartridge

/-! ### One step -/

/-- **An instruction that can be written as it is meant.** Its labels are among the first ones, and
the length of a text in it is a number of one byte. -/
structure Instruction.IsFit (labelCount : Nat) (instruction : Instruction) : Prop where
  labels : ∀ target, .label target ∈ instruction.operands → target.toNat < labelCount
  short : ∀ operand ∈ instruction.operands, operand.IsShort

/-- **A step that speaks of the first labels only.** -/
def Step.IsFit (labelCount : Nat) : Step → Prop
  | enter | exit => True
  | emit instruction => instruction.IsFit labelCount
  | bind target => target.toNat < labelCount

namespace Assembly

/-- **A step that can be carried out as it is meant.** It stands in an open block, unless it opens
one; the labels that it looks up have their places, and so have the holes that it fills; a text has a
length of one byte; and the place where a label is bound is an address that does not look like an open
hole. -/
def Admits (assembly : Assembly) : Step → Prop
  | .enter => True
  | .emit instruction => assembly.blocks ≠ [] ∧ instruction.IsFit assembly.addresses.size
  | .bind target => assembly.blocks ≠ [] ∧ target.toNat < assembly.addresses.size
    ∧ assembly.code.size ≤ 65534
    ∧ (UInt16.ofNat assembly.code.size).toNat = assembly.code.size
    ∧ UInt16.ofNat assembly.code.size ≠ unresolved
  | .exit => ∃ innermost outer, assembly.blocks = innermost :: outer
    ∧ ∀ hole ∈ innermost, hole.1.toNat < assembly.addresses.size
      ∧ hole.2 + 2 ≤ assembly.code.size

/-- **The second pass after some steps.** -/
structure Follows (labelCount : Nat) (before : List Step) (assembly : Assembly) : Prop where
  /-- Each label has its place. -/
  addresses : assembly.addresses.size = labelCount
  /-- The code is that of the steps. -/
  code : assembly.code.size = total (before.map Step.size)
  /-- The holes of the open blocks are in the code, and for labels. -/
  holes : ∀ block ∈ assembly.blocks, ∀ hole ∈ block,
    hole.1.toNat < labelCount ∧ hole.2 + 2 ≤ assembly.code.size
  /-- A block has been opened for each one that the steps leave open. -/
  depth : ∀ opened, Step.depth? 0 before = some opened → assembly.blocks.length = opened

theorem follows_start (labelCount : Nat) : Follows labelCount [] (start labelCount) where
  addresses := Array.size_replicate
  code := rfl
  holes := nofun
  depth := fun _ found => Option.some.inj found

theorem size_fill (code : Array UInt8) (place : Nat) (address : UInt16) :
    (fill code place address).size = code.size := by
  rw [fill, Array.size_setIfInBounds, Array.size_setIfInBounds]

/-- Filling holes leaves the code as long as it is, and no other holes than these. -/
theorem foldl_fillHole_keeps (addresses : Array (Option UInt16)) (holes : List Hole)
    (filled : Array UInt8 × Array Hole) :
    (holes.foldl (fillHole addresses) filled).1.size = filled.1.size
      ∧ ∀ hole ∈ (holes.foldl (fillHole addresses) filled).2, hole ∈ filled.2 ∨ hole ∈ holes := by
  induction holes generalizing filled with
  | nil => exact ⟨rfl, fun _ member => .inl member⟩
  | cons first holes ih =>
    rw [List.foldl_cons]
    obtain ⟨size, kept⟩ := ih (fillHole addresses filled first)
    rw [size]
    cases found : address? addresses first.1 with
    | some address =>
      have opened : fillHole addresses filled first = (fill filled.1 first.2 address, filled.2) := by
        rw [fillHole, found]
      rw [opened] at kept ⊢
      refine ⟨size_fill _ _ _, fun hole member => ?_⟩
      exact (kept hole member).imp id (List.mem_cons_of_mem _)
    | none =>
      have opened : fillHole addresses filled first = (filled.1, filled.2.push first) := by
        rw [fillHole, found]
      rw [opened] at kept ⊢
      refine ⟨rfl, fun hole member => ?_⟩
      rcases kept hole member with early | late
      · rcases Array.mem_push.1 early with old | rfl
        · exact .inl old
        · exact .inr List.mem_cons_self
      · exact .inr (List.mem_cons_of_mem _ late)

theorem fillAll_keeps (addresses : Array (Option UInt16)) (code : Array UInt8)
    (holes : Array Hole) :
    (fillAll addresses code holes).1.size = code.size
      ∧ ∀ hole ∈ (fillAll addresses code holes).2, hole ∈ holes := by
  have kept := foldl_fillHole_keeps addresses holes.toList (code, #[])
  rw [← fillAll_eq_foldl, Array.toArray_toList] at kept
  refine ⟨kept.1, fun hole member => ?_⟩
  rcases kept.2 hole member with none | listed
  · exact absurd none (Array.not_mem_empty hole)
  · exact Array.mem_toList_iff.1 listed

/-- What closing a block does, if it succeeds. -/
theorem eq_of_step_exit {assembly next : Assembly}
    (stepped : Assembly.step assembly .exit = .ok next) :
    next = ⟨(fillAll assembly.addresses assembly.code (assembly.blocks.headD #[])).1,
      assembly.addresses, assembly.blocks.tail.modifyHead
        (· ++ (fillAll assembly.addresses assembly.code (assembly.blocks.headD #[])).2)⟩ := by
  obtain ⟨code, addresses, blocks⟩ := assembly
  simp only [Assembly.step] at stepped
  split at stepped
  · rename_i parent outer around
    cases stepped
    rw [around]
    rfl
  · rename_i outermost
    split at stepped
    · cases stepped
    · cases stepped
      rw [outermost]
      rfl

namespace Follows

variable {labelCount : Nat} {before : List Step} {assembly next : Assembly}

/-- What is open behind one more step depends on what has been open before it. -/
theorem depth_append (follows : Follows labelCount before assembly) {step : Step} {opened : Nat}
    (found : Step.depth? 0 (before ++ [step]) = some opened) :
    Step.depth? assembly.blocks.length [step] = some opened := by
  rw [Step.depth?_append] at found
  obtain ⟨earlier, early, here⟩ := Option.bind_eq_some_iff.1 found
  rwa [follows.depth earlier early]

theorem total_append (follows : Follows labelCount before assembly) (step : Step) :
    total ((before ++ [step]).map Step.size) = assembly.code.size + step.size := by
  rw [List.map_append, Cartridge.total_append, ← follows.code]
  rfl

theorem enter (follows : Follows labelCount before assembly)
    (stepped : Assembly.step assembly .enter = .ok next) :
    Follows labelCount (before ++ [.enter]) next := by
  cases stepped
  refine ⟨follows.addresses, (follows.total_append .enter).symm, ?_, ?_⟩
  · intro block member hole inBlock
    rcases List.mem_cons.1 member with rfl | outer
    · exact absurd inBlock (Array.not_mem_empty hole)
    · exact follows.holes block outer hole inBlock
  · intro opened found
    exact Option.some.inj (follows.depth_append found)

theorem bind (follows : Follows labelCount before assembly) {target : Label}
    (stepped : Assembly.step assembly (.bind target) = .ok next) :
    Follows labelCount (before ++ [.bind target]) next := by
  cases stepped
  refine ⟨?_, (follows.total_append (.bind target)).symm, follows.holes, ?_⟩
  · exact Array.size_setIfInBounds.trans follows.addresses
  · intro opened found
    have here := follows.depth_append found
    rw [Step.depth?] at here
    split at here
    · cases here
    · exact Option.some.inj here

theorem emit (follows : Follows labelCount before assembly) {instruction : Instruction}
    (fit : instruction.IsFit labelCount)
    (stepped : Assembly.step assembly (.emit instruction) = .ok next) :
    Follows labelCount (before ++ [.emit instruction]) next := by
  obtain ⟨code, addresses, blocks⟩ := assembly
  have longer : (code ++ instruction.bytes (address? addresses)).size
      = code.size + instruction.size := by
    rw [size_appendList, Instruction.length_bytes]
  have written := longer.trans (follows.total_append (.emit instruction)).symm
  cases blocks with
  | nil =>
    cases stepped
    exact ⟨follows.addresses, written, nofun, fun _ found => nomatch follows.depth_append found⟩
  | cons innermost outer =>
    cases stepped
    have old : ∀ block ∈ innermost :: outer, ∀ hole ∈ block, hole.1.toNat < labelCount
        ∧ hole.2 + 2 ≤ (code ++ instruction.bytes (address? addresses)).size := by
      intro block member hole inBlock
      obtain ⟨labelled, placed⟩ := follows.holes block member hole inBlock
      exact ⟨labelled, Nat.le_trans placed (longer ▸ Nat.le_add_right _ _)⟩
    refine ⟨follows.addresses, written, ?_, fun _ found =>
      Option.some.inj (follows.depth_append found)⟩
    intro block member hole inBlock
    rcases List.mem_cons.1 member with rfl | around
    · rw [appendList_eq_toArray, List.mem_toArray, List.mem_append] at inBlock
      rcases inBlock with early | late
      · exact old innermost List.mem_cons_self hole (Array.mem_toList_iff.1 early)
      · obtain ⟨labelled, placed⟩ := Instruction.mem_holes late
        exact ⟨fit.labels hole.1 labelled, Nat.le_trans placed (Nat.le_of_eq longer.symm)⟩
    · exact old block (List.mem_cons_of_mem _ around) hole inBlock

theorem exit (follows : Follows labelCount before assembly)
    (stepped : Assembly.step assembly .exit = .ok next) :
    Follows labelCount (before ++ [.exit]) next := by
  have closed := eq_of_step_exit stepped
  subst closed
  obtain ⟨size, kept⟩ := fillAll_keeps assembly.addresses assembly.code (assembly.blocks.headD #[])
  refine ⟨follows.addresses, size.trans (follows.total_append .exit).symm, ?_, ?_⟩
  · intro block member hole inBlock
    rw [size]
    obtain ⟨code, addresses, blocks⟩ := assembly
    rcases blocks with _ | ⟨innermost, _ | ⟨parent, outer⟩⟩
    · exact absurd member List.not_mem_nil
    · exact absurd member List.not_mem_nil
    · rcases List.mem_cons.1 member with rfl | around
      · rcases Array.mem_append.1 inBlock with early | late
        · exact follows.holes parent (List.mem_cons_of_mem _ List.mem_cons_self) hole early
        · exact follows.holes innermost List.mem_cons_self hole (kept hole late)
      · exact follows.holes block (List.mem_cons_of_mem _ (List.mem_cons_of_mem _ around)) hole
          inBlock
  · intro opened found
    have here := follows.depth_append found
    rw [Step.depth?] at here
    split at here
    · cases here
    · rw [List.length_modifyHead, List.length_tail]
      exact Option.some.inj here

/-- **Each step keeps it.** -/
theorem step (follows : Follows labelCount before assembly) {step : Step}
    (fit : step.IsFit labelCount) (stepped : Assembly.step assembly step = .ok next) :
    Follows labelCount (before ++ [step]) next := by
  cases step with
  | enter => exact follows.enter stepped
  | exit => exact follows.exit stepped
  | emit instruction => exact follows.emit fit stepped
  | bind target => exact follows.bind stepped

/-- Steps that do not close more blocks than they open have an open block for anything but the
opening of one. -/
theorem blocks_ne_nil (follows : Follows labelCount before assembly) {step : Step} {opened : Nat}
    (found : Step.depth? 0 (before ++ [step]) = some opened) (other : step ≠ .enter) :
    assembly.blocks ≠ [] := by
  intro none
  have here := follows.depth_append found
  rw [none] at here
  cases step with
  | enter => exact other rfl
  | exit | emit | bind => cases here

/-- **Each step can be carried out as it is meant.** -/
theorem admits (follows : Follows labelCount before assembly) {step : Step} {opened : Nat}
    (fit : step.IsFit labelCount) (found : Step.depth? 0 (before ++ [step]) = some opened)
    (small : ∀ target, step = .bind target → total (before.map Step.size) ≤ 65534) :
    assembly.Admits step := by
  have addresses := follows.addresses
  cases step with
  | enter => trivial
  | exit =>
    obtain ⟨innermost, outer, around⟩ :=
      List.exists_cons_of_ne_nil (follows.blocks_ne_nil found nofun)
    refine ⟨innermost, outer, around, fun hole inBlock => ?_⟩
    rw [addresses]
    exact follows.holes innermost (around ▸ List.mem_cons_self) hole inBlock
  | emit instruction =>
    refine ⟨follows.blocks_ne_nil found nofun, ?_⟩
    rw [addresses]
    exact fit
  | bind target =>
    have less := small target rfl
    rw [← follows.code] at less
    have exact : (UInt16.ofNat assembly.code.size).toNat = assembly.code.size :=
      UInt16.toNat_ofNat_of_lt' (show assembly.code.size < 65536 by omega)
    refine ⟨follows.blocks_ne_nil found nofun, addresses ▸ fit, less, exact, fun same => ?_⟩
    have last : unresolved.toNat = 65535 := rfl
    rw [same] at exact
    omega

end Follows

/-- **A run that succeeds comes by everywhere.** -/
theorem exists_follows {lowered : Lowered} {result : List UInt8 × List UInt16}
    (assembled : ofLowered lowered = .ok result)
    (fit : ∀ step ∈ lowered.steps.toList, step.IsFit lowered.labelCount)
    {before after : List Step} (parted : lowered.steps.toList = before ++ after) :
    ∃ assembly, before.foldlM step (start lowered.labelCount) = .ok assembly
      ∧ Follows lowered.labelCount before assembly := by
  obtain ⟨last, done, _⟩ := bind_eq_ok assembled
  rw [parted, List.foldlM_append] at done
  obtain ⟨assembly, early, _⟩ := bind_eq_ok done
  refine ⟨assembly, early, ?_⟩
  refine foldlM_invariant (Follows lowered.labelCount) [] before ?_ (follows_start _) early
  intro step member _ _ _ follows stepped
  exact follows.step (fit step (parted ▸ List.mem_append_left _ member)) stepped

end Assembly

/-! ### Labels as numbers of two bytes -/

theorem mem_labelsFrom {target : Label} {fresh count : Nat} :
    target ∈ labelsFrom fresh count
      ↔ ∃ number, fresh ≤ number ∧ number < fresh + count ∧ UInt16.ofNat number = target := by
  simp only [labelsFrom, List.mem_map, List.mem_range'_1, and_assoc]

/-- **Few labels can be told apart.** -/
theorem nodup_labelsFrom {fresh count : Nat} (few : fresh + count ≤ 65536) :
    (labelsFrom fresh count).Nodup := by
  refine List.Nodup.map_on (fun first inFirst second inSecond same => ?_) List.nodup_range'
  rw [List.mem_range'_1] at inFirst inSecond
  have numbers := congrArg UInt16.toNat same
  rwa [UInt16.toNat_ofNat_of_lt' (show first < 65536 by omega),
    UInt16.toNat_ofNat_of_lt' (show second < 65536 by omega)] at numbers

theorem Step.count_bind (steps : List Step) (target : Label) :
    steps.count (.bind target) = (boundLabels steps).count target := by
  induction steps with
  | nil => rfl
  | cons step steps ih =>
    cases step with
    | bind other =>
      show _ = (other :: boundLabels steps).count target
      rw [List.count_cons, List.count_cons, ih]
      simp
    | enter | exit | emit =>
      refine (List.count_cons_of_ne ?_).trans ih
      nofun

/-! ### The steps of a script -/

namespace Lowered

open Statement (blockSteps blockSize blockLabelCount blockLabels blockBreaks)

variable (statements : List Statement)

theorem toList_steps_ofStatements :
    (ofStatements statements).steps.toList
      = .enter :: (blockSteps 0 unresolved statements ++ [.emit ending, .exit]) :=
  List.toList_toArray

/-- A script is one block. -/
theorem exists_inside_ofStatements :
    ∃ inside, (ofStatements statements).steps.toList = .enter :: (inside ++ [.exit])
      ∧ Step.AreNested inside := by
  refine ⟨blockSteps 0 unresolved statements ++ [.emit ending], ?_, ?_⟩
  · rw [toList_steps_ofStatements, List.append_assoc]
    rfl
  · exact (Statement.nested_blockSteps 0 unresolved statements).append (.emit ending .nil)

theorem perm_boundLabels_ofStatements :
    (Step.boundLabels (ofStatements statements).steps.toList).Perm
      (labelsFrom 0 (ofStatements statements).labelCount) := by
  have whole : Step.boundLabels (ofStatements statements).steps.toList
      = Step.boundLabels (blockSteps 0 unresolved statements) := by
    rw [toList_steps_ofStatements, Step.boundLabels, List.filterMap_cons_none rfl,
      List.filterMap_append]
    exact List.append_nil _
  rw [whole]
  exact Statement.perm_boundLabels_blockSteps 0 unresolved statements

theorem total_ofStatements :
    total ((ofStatements statements).steps.toList.map Step.size)
      = (ofStatements statements).size := by
  rw [toList_steps_ofStatements, List.map_cons, List.map_append, total_cons, total_append,
    Statement.total_blockSteps]
  show 0 + (blockSize statements + 1) = blockSize statements + 1
  omega

/-- Behind a label there is at least the stop. -/
theorem total_before_bind {statements : List Statement} {before after : List Step} {target : Label}
    (parted : (ofStatements statements).steps.toList = before ++ .bind target :: after) :
    total (before.map Step.size) + 1 ≤ (ofStatements statements).size := by
  have whole := total_ofStatements statements
  rw [toList_steps_ofStatements] at parted
  have tail : [.emit ending, .exit] <:+ before ++ .bind target :: after := by
    rw [← parted]
    exact ⟨.enter :: blockSteps 0 unresolved statements, rfl⟩
  rw [toList_steps_ofStatements, parted] at whole
  -- Both this tail and the steps from the label on end the script; the tail has no label in it, so
  -- it is the shorter one.
  have behind : [.emit ending, .exit] <:+ after := by
    rcases List.suffix_or_suffix_of_suffix tail (List.suffix_append before _) with late | early
    · exact (List.suffix_cons_iff.1 late).resolve_left nofun
    · have member := early.subset List.mem_cons_self
      simp at member
  obtain ⟨between, rfl⟩ := behind
  simp only [List.map_append, List.map_cons, total_append, total_cons] at whole
  have stop : (Step.emit ending).size = 1 := rfl
  omega

variable {statements}

/-- **All labels in a script are its own**, and all its texts are short. -/
theorem isFit_ofStatements (closed : blockBreaks 0 statements = [])
    (fits : (ofStatements statements).size ≤ scriptSizeLimit) :
    ∀ step ∈ (ofStatements statements).steps.toList,
      step.IsFit (ofStatements statements).labelCount := by
  have settles := CompiledScript.settles_ofStatements "" closed fits
  have counted : (CompiledScript.ofStatements "" statements).labels.length
      = (ofStatements statements).labelCount :=
    (List.length_map _).trans (Statement.length_blockLabels 0 statements)
  intro step member
  cases step with
  | enter | exit => trivial
  | bind target =>
    have bound : target ∈ Step.boundLabels (ofStatements statements).steps.toList :=
      List.mem_filterMap.2 ⟨_, member, rfl⟩
    obtain ⟨number, _, less, rfl⟩ :=
      mem_labelsFrom.1 ((perm_boundLabels_ofStatements statements).mem_iff.1 bound)
    rw [Nat.zero_add] at less
    exact Nat.lt_of_le_of_lt (UInt16.toNat_ofNat' ▸ Nat.mod_le _ _) less
  | emit instruction =>
    have recorded : instruction ∈ (ofStatements statements).instructions :=
      List.mem_filterMap.2 ⟨_, member, rfl⟩
    obtain ⟨settled, inside, here⟩ := exists_of_mem_of_forall₂ settles.flip recorded
    have readable := CompiledScript.readable_ofStatements statements settled inside
    constructor
    · intro target labelled
      obtain ⟨_, _, same⟩ := exists_of_mem_of_forall₂ here.operands.flip labelled
      cases same with
      | label known => exact counted ▸ (List.getElem?_eq_some_iff.1 known).1
      | other free => exact (free rfl).elim
    · intro operand listed
      obtain ⟨other, kept, same⟩ := exists_of_mem_of_forall₂ here.operands.flip listed
      cases same with
      | label _ => trivial
      | other _ => exact readable.short operand kept

/-! ### Every script is safe -/

/-- **A script whose labels can be told apart, and whose steps can be carried out as they are
meant.** What depends on numbers of two bytes is said of scripts that fit: no others are
assembled. -/
structure IsSafe (tables : Tables) (body : List Event) (lowered : Lowered) : Prop where
  /-- Two labels cost at least three bytes, and there is the stop. -/
  roomy : 3 * lowered.labelCount + 2 ≤ 2 * lowered.size
  /-- No two labels are the same number of two bytes. -/
  distinct : lowered.size ≤ scriptSizeLimit → (labelsFrom 0 lowered.labelCount).Nodup
  /-- The script is one block, and the blocks in it are nested. -/
  nested : ∃ inside, lowered.steps.toList = .enter :: (inside ++ [.exit]) ∧ Step.AreNested inside
  /-- The labels that are bound are those that are handed out. -/
  bound : (Step.boundLabels lowered.steps.toList).Perm (labelsFrom 0 lowered.labelCount)
  /-- Each of them is bound once. -/
  once : lowered.size ≤ scriptSizeLimit → ∀ number < lowered.labelCount,
    lowered.steps.toList.count (.bind (UInt16.ofNat number)) = 1
  /-- All of them are handed out somewhere. -/
  handedOut : ∀ number < lowered.labelCount, ∃ before, Lowering.HandsOut tables body number before
  /-- A label is bound in the block that opens where it is handed out, before this block closes. -/
  inBlock : ∀ number before, Lowering.HandsOut tables body number before →
    ∃ inside rest, lowered.steps.toList = before ++ .enter :: (inside ++ .exit :: rest)
      ∧ Step.Binds (UInt16.ofNat number) inside
  /-- The second pass succeeds, with as much code as the first one has counted. -/
  assembled : lowered.size ≤ scriptSizeLimit → ∃ code labels,
    Assembly.ofLowered lowered = .ok (code, labels) ∧ code.length = lowered.size
  /-- It carries out every step as it is meant. -/
  admitted : lowered.size ≤ scriptSizeLimit → ∀ before step after,
    lowered.steps.toList = before ++ step :: after →
      ∃ assembly, before.foldlM Assembly.step (.start lowered.labelCount) = .ok assembly
        ∧ assembly.Admits step

theorem roomy_ofStatements (statements : List Statement) :
    3 * (ofStatements statements).labelCount + 2 ≤ 2 * (ofStatements statements).size := by
  have few := Statement.three_mul_blockLabelCount_le statements
  show 3 * blockLabelCount statements + 2 ≤ 2 * (blockSize statements + 1)
  omega

theorem nodup_labels (fits : (ofStatements statements).size ≤ scriptSizeLimit) :
    (labelsFrom 0 (ofStatements statements).labelCount).Nodup := by
  have few := roomy_ofStatements statements
  unfold scriptSizeLimit at fits
  exact nodup_labelsFrom (by omega)

theorem assembles_ofStatements (closed : blockBreaks 0 statements = [])
    (fits : (ofStatements statements).size ≤ scriptSizeLimit) :
    ∃ code labels, Assembly.ofLowered (ofStatements statements) = .ok (code, labels)
      ∧ code.length = (ofStatements statements).size :=
  ⟨_, _, Assembly.ofLowered_ofStatements closed fits,
    CompiledScript.length_code_ofStatements "" statements⟩

/-- **Every step of a script can be carried out as it is meant.** -/
theorem admits_ofStatements (closed : blockBreaks 0 statements = [])
    (fits : (ofStatements statements).size ≤ scriptSizeLimit) {before after : List Step}
    {step : Step} (parted : (ofStatements statements).steps.toList = before ++ step :: after) :
    ∃ assembly, before.foldlM Assembly.step (.start (ofStatements statements).labelCount)
        = .ok assembly
      ∧ assembly.Admits step := by
  obtain ⟨code, labels, assembled, _⟩ := assembles_ofStatements closed fits
  have fit := isFit_ofStatements closed fits
  obtain ⟨assembly, early, follows⟩ := Assembly.exists_follows assembled fit parted
  refine ⟨assembly, early, ?_⟩
  -- The script is balanced as a whole, so its beginning up to this step has an answer, too.
  obtain ⟨inside, whole, nested⟩ := exists_inside_ofStatements statements
  have balanced := nested.depth?_whole
  rw [← whole, parted, List.append_cons, Step.depth?_append] at balanced
  obtain ⟨opened, found, _⟩ := Option.bind_eq_some_iff.1 balanced
  refine follows.admits (fit step (parted ▸ List.mem_append_right _ List.mem_cons_self)) found ?_
  rintro target rfl
  have less := total_before_bind parted
  unfold scriptSizeLimit at fits
  omega

/-- **Labels never wrap around, and the second pass stays within bounds.** For every script that the
first pass accepts, three times the number of labels is less than twice the number of bytes; so if
the script fits, its labels are different numbers of two bytes. Its blocks are nested, and all that
is emitted or bound stands in one of them. Each label is bound once, in the block for which it has
been handed out. The second pass finds everything that it looks up, and cuts off no number: the place
of a label is at most 65534. -/
theorem ofBody_isSafe {tables : Tables} {body : List Event} {lowered : Lowered}
    (accepted : ofBody tables body = .ok lowered) : lowered.IsSafe tables body := by
  have handed : ∀ number < lowered.labelCount,
      ∃ before, Lowering.HandsOut tables body number before := by
    obtain ⟨last, done, same⟩ := bind_eq_ok accepted
    cases same
    exact fun number => (Lowering.Reaches.start.last done).exists_handsOut
  have inBlock := fun number before (handed : Lowering.HandsOut tables body number before) =>
    handed.exists_block accepted
  rw [ofBody_eq] at accepted
  obtain ⟨statements, valid, same⟩ := bind_eq_ok accepted
  cases same
  have closed := Statement.blockBreaks_eq_nil 0 statements valid
  have bound := perm_boundLabels_ofStatements statements
  refine ⟨roomy_ofStatements statements, nodup_labels, exists_inside_ofStatements statements, bound,
    fun fits number less => ?_, handed, inBlock, assembles_ofStatements closed,
    fun fits _ _ _ => admits_ofStatements closed fits⟩
  rw [Step.count_bind, bound.count_eq]
  refine List.count_eq_one_of_mem (nodup_labels fits) (mem_labelsFrom.2 ⟨number, ?_, ?_, rfl⟩)
  · exact Nat.zero_le number
  · rwa [Nat.zero_add]

/-- An empty loop has two labels and, with the stop, four bytes: no script has more labels for its
size. -/
theorem ofBody_isSafe_emptyLoop :
    ∃ lowered, ofBody ⟨∅, ∅, ∅, ∅, ∅, none⟩ [.loopForever []] = .ok lowered
      ∧ lowered.IsSafe ⟨∅, ∅, ∅, ∅, ∅, none⟩ [.loopForever []]
      ∧ lowered.labelCount = 2 ∧ lowered.size = 4 := by
  have accepted : ofBody ⟨∅, ∅, ∅, ∅, ∅, none⟩ [.loopForever []]
      = .ok (ofStatements [.loop none []]) := by
    rw [ofBody_eq]
    rfl
  exact ⟨_, accepted, ofBody_isSafe accepted, rfl, rfl⟩

end Lowered
end Cartridge
