import Cartridge.Proofs.Script.Binding

/-!
# The second pass on whole scripts

* `Assembly.Assembles`: what the steps of a statement or a block do.
* `Assembly.assembles_blockSteps`: the steps of a block add its code, with `unresolved` where it
  leaves the loop around it, bind its labels, and hand on the holes of that loop's end.
* `Assembly.ofLowered_ofStatements`: a script whose statements leave no loop around it is assembled
  to its code.
-/

namespace Cartridge

namespace Assembly

/-! ### Single steps -/

/-- An assembly with an open block. -/
def site (code : List UInt8) (addresses : Array (Option UInt16)) (holes : List Hole)
    (outer : List (Array Hole)) : Assembly :=
  ⟨code.toArray, addresses, holes.toArray :: outer⟩

variable {addresses : Array (Option UInt16)} {code : List UInt8} {holes : List Hole}
  {outer : List (Array Hole)}

theorem step_enter :
    step (site code addresses holes outer) .enter
      = .ok (site code addresses [] (holes.toArray :: outer)) := rfl

/-- The step that emits an instruction adds its bytes and its holes. -/
theorem step_emit {instruction : Instruction} {bytes : List UInt8} {left : List Hole}
    (encoded : instruction.encode (address? addresses) code.toArray
      = (code.toArray ++ bytes, left)) :
    step (site code addresses holes outer) (.emit instruction)
      = .ok (site (code ++ bytes) addresses (holes ++ left) outer) := by
  simp [step, site, encoded]

theorem step_emit_of_labelFree {instruction : Instruction} (free : instruction.IsLabelFree) :
    step (site code addresses holes outer) (.emit instruction)
      = .ok (site (code ++ instruction.code) addresses holes outer) := by
  rw [step_emit (Instruction.encode_of_labelFree free _ _), List.append_nil]

theorem step_emit_toward_of_some {instruction : Instruction} (free : instruction.IsLabelFree)
    {target : Label} {address : UInt16} (known : address? addresses target = some address) :
    step (site code addresses holes outer) (.emit (instruction.toward target))
      = .ok (site (code ++ (instruction.toward address).code) addresses holes outer) := by
  rw [step_emit (Instruction.encode_toward_of_some free known _), List.append_nil]

theorem step_emit_toward_of_none {instruction : Instruction} (free : instruction.IsLabelFree)
    {target : Label} (unknown : address? addresses target = none) :
    step (site code addresses holes outer) (.emit (instruction.toward target))
      = .ok (site (code ++ (instruction.toward unresolved).code) addresses
        (holes ++ [(target, code.length + instruction.size)]) outer) := by
  rw [step_emit (Instruction.encode_toward_of_none free unknown _), List.size_toArray]

theorem step_bind {number : Nat} (small : number < 65536) :
    step (site code addresses holes outer) (.bind (UInt16.ofNat number))
      = .ok (site code (bindAll addresses number [code.length]) holes outer) := by
  rw [← setIfInBounds_eq_bindAll]
  simp [step, site, UInt16.toNat_ofNat_of_lt' small]

/-- The step that closes a block fills its holes and hands on those that are left. -/
theorem step_exit {parent left : List Hole} {filled : List UInt8}
    (fills : holes.foldl (fillHole addresses) (code.toArray, #[])
      = (filled.toArray, left.toArray)) :
    step (site code addresses holes (parent.toArray :: outer)) .exit
      = .ok (site filled addresses (parent ++ left) outer) := by
  have all : fillAll addresses code.toArray holes.toArray = (filled.toArray, left.toArray) := by
    rw [fillAll_eq_foldl, fills]
  simp [step, site, all]

theorem foldlM_step_cons {before after : Assembly} {first : Step} {steps : List Step}
    (stepped : step before first = .ok after) :
    (first :: steps).foldlM step before = steps.foldlM step after := by
  rw [List.foldlM_cons, stepped]
  rfl

theorem foldlM_step_append {before after : Assembly} {first second : List Step}
    (stepped : first.foldlM step before = .ok after) :
    (first ++ second).foldlM step before = second.foldlM step after := by
  rw [List.foldlM_append, stepped]
  rfl

/-! ### Conditionals: the jump over the second branch -/

open Statement

/-- The hole in the jump over a second branch. -/
def skipHoles (past : Label) (start : Nat) (whenFalse : List Statement) : List Hole :=
  if whenFalse.isEmpty then [] else [(past, start + 1)]

theorem foldlM_step_skip {past : Label} (whenFalse : List Statement)
    (unknown : whenFalse.isEmpty = false → address? addresses past = none) :
    ((skip past whenFalse).map Step.emit).foldlM step (site code addresses holes outer)
      = .ok (site (code ++ (skip unresolved whenFalse).flatMap Instruction.code) addresses
        (holes ++ skipHoles past code.length whenFalse) outer) := by
  unfold skip skipHoles
  by_cases empty : whenFalse.isEmpty
  · rw [if_pos empty, if_pos empty, if_pos empty, List.append_nil]
    simp only [List.map_nil, List.flatMap_nil, List.append_nil, List.foldlM_nil]
    rfl
  · rw [if_neg empty, if_neg empty, if_neg empty, List.flatMap_singleton, List.map_singleton]
    exact (foldlM_step_cons (step_emit_toward_of_none Instruction.labelFree_jump
      (unknown (by simpa using empty)))).trans rfl

theorem foldl_fillHole_skipHoles {past : Label} {address : UInt16} (whenFalse : List Statement)
    (known : whenFalse.isEmpty = false → address? addresses past = some address)
    (before after : List UInt8) (left : Array Hole) :
    (skipHoles past before.length whenFalse).foldl (fillHole addresses)
        ((before ++ (skip unresolved whenFalse).flatMap Instruction.code ++ after).toArray, left)
      = ((before ++ (skip address whenFalse).flatMap Instruction.code ++ after).toArray,
        left) := by
  unfold skip skipHoles
  by_cases empty : whenFalse.isEmpty
  · rw [if_pos empty, if_pos empty, if_pos empty]
    rfl
  · rw [if_neg empty, if_neg empty, if_neg empty, List.flatMap_singleton, List.flatMap_singleton]
    have found := known (by simpa using empty)
    rw [List.foldl_cons, List.foldl_nil, fillHole]
    simp only [found]
    exact congrArg (·, left) (fill_toward before after ⟨.jump, []⟩ unresolved address)

/-- The step behind a second branch gives the jump over it its address. -/
theorem foldlM_step_past {fresh : Nat} (whenFalse : List Statement)
    (small : whenFalse.isEmpty = false → fresh < 65536) :
    (if whenFalse.isEmpty then [] else [Step.bind (UInt16.ofNat fresh)]).foldlM step
        (site code addresses holes outer)
      = .ok (site code (bindAll addresses fresh (if whenFalse.isEmpty then [] else [code.length]))
        holes outer) := by
  by_cases empty : whenFalse.isEmpty
  · rw [if_pos empty, if_pos empty, bindAll_nil]
    rfl
  · rw [if_neg empty, if_neg empty]
    exact (foldlM_step_cons (step_bind (small (by simpa using empty)))).trans rfl

/-- The labels of a conditional are bound in the order of the code, which is not their own. -/
theorem bindAll_fork (fresh other past : Nat) (whenFalse : List Statement)
    (first second : List Nat) :
    bindAll (bindAll (bindAll (bindAll addresses (fresh + forkCount whenFalse) first) fresh [other])
        (fresh + forkCount whenFalse + first.length) second) (fresh + 1)
        (if whenFalse.isEmpty then [] else [past])
      = bindAll addresses fresh
        ((if whenFalse.isEmpty then [other] else [other, past]) ++ first ++ second) := by
  have apart : fresh + forkCount whenFalse + first.length ≤ fresh
      ∨ fresh + [other].length ≤ fresh + forkCount whenFalse := by
    unfold forkCount
    split <;> simp
  rw [bindAll_comm apart, bindAll_append]
  unfold forkCount
  by_cases empty : whenFalse.isEmpty
  · rw [if_pos empty, if_pos empty, if_pos empty, bindAll_nil, List.append_assoc]
    exact bindAll_append fresh [other] (first ++ second)
  · have behind : fresh + 2 + (first ++ second).length ≤ fresh + 1
        ∨ fresh + 1 + [past].length ≤ fresh + 2 := by simp
    have own : bindAll (bindAll addresses fresh [other]) (fresh + 1) [past]
        = bindAll addresses fresh [other, past] := bindAll_append fresh [other] [past]
    rw [if_neg empty, if_neg empty, if_neg empty, bindAll_comm behind, own, List.append_assoc]
    exact bindAll_append fresh [other, past] (first ++ second)

/-! ### Loops: the test before the body -/

/-- The hole in the test before a loop. -/
def guardHoles (past : Label) (start : Nat) : Option Test → List Hole
  | some test => [(past, start + test.jump.size)]
  | none => []

theorem foldlM_step_guard {past : Label} (test : Option Test)
    (unknown : address? addresses past = none) :
    ((guard past test).map Step.emit).foldlM step (site code addresses holes outer)
      = .ok (site (code ++ (guard unresolved test).flatMap Instruction.code) addresses
        (holes ++ guardHoles past code.length test) outer) := by
  cases test with
  | none =>
    simp only [Statement.guard, guardHoles, List.map_nil, List.flatMap_nil, List.append_nil,
      List.foldlM_nil]
    rfl
  | some test =>
    rw [Statement.guard, Statement.guard, List.flatMap_singleton, List.map_singleton]
    exact (foldlM_step_cons (step_emit_toward_of_none test.labelFree_jump unknown)).trans rfl

theorem foldl_fillHole_guardHoles {past : Label} {address : UInt16} (test : Option Test)
    (known : address? addresses past = some address) (before after : List UInt8)
    (left : Array Hole) :
    (guardHoles past before.length test).foldl (fillHole addresses)
        ((before ++ (guard unresolved test).flatMap Instruction.code ++ after).toArray, left)
      = ((before ++ (guard address test).flatMap Instruction.code ++ after).toArray, left) := by
  cases test with
  | none => rfl
  | some test =>
    rw [Statement.guard, Statement.guard, guardHoles, List.flatMap_singleton,
      List.flatMap_singleton, List.foldl_cons, List.foldl_nil, fillHole]
    simp only [known]
    exact congrArg (·, left) (fill_toward before after test.jump unresolved address)

/-! ### Statements -/

/-- The holes of a block that wait for the end of the loop around it. -/
def exitHoles (exit : Label) (places : List Nat) : List Hole := places.map (exit, ·)

/-- What the steps of a statement or a block do: they add its code, bind its labels and leave holes
for the end of the loop around it. -/
def Assembles (steps : List Step) (start fresh : Nat) (exit : Label) (added : List UInt8)
    (labels breaks : List Nat) : Prop :=
  ∀ code addresses holes outer, code.length = start →
    Awaits addresses fresh labels.length exit →
      steps.foldlM step (site code addresses holes outer)
        = .ok (site (code ++ added) (bindAll addresses fresh labels)
          (holes ++ exitHoles exit breaks) outer)

/-- The block of a conditional closes: its two jumps get their addresses, and the holes that wait
for the end of the loop around are left. -/
theorem foldl_fillHole_branch {other past exit : Label} {otherAddress pastAddress : UInt16}
    {whenFalse : List Statement} (test : Test)
    (knownOther : address? addresses other = some otherAddress)
    (knownPast : whenFalse.isEmpty = false → address? addresses past = some pastAddress)
    (unknown : address? addresses exit = none) (code first second : List UInt8)
    (early late : List Nat) :
    ([(other, code.length + test.jump.size)] ++ exitHoles exit early
        ++ skipHoles past (code ++ (test.jump.toward unresolved).code ++ first).length whenFalse
        ++ exitHoles exit late).foldl (fillHole addresses)
        ((code ++ (test.jump.toward unresolved).code ++ first
          ++ (skip unresolved whenFalse).flatMap Instruction.code ++ second).toArray, #[])
      = ((code ++ (test.jump.toward otherAddress).code ++ first
          ++ (skip pastAddress whenFalse).flatMap Instruction.code ++ second).toArray,
        (exitHoles exit (early ++ late)).toArray) := by
  have jumped : fillHole addresses
      ((code ++ (test.jump.toward unresolved).code
        ++ (first ++ (skip unresolved whenFalse).flatMap Instruction.code ++ second)).toArray, #[])
        (other, code.length + test.jump.size)
      = ((code ++ (test.jump.toward otherAddress).code
        ++ (first ++ (skip unresolved whenFalse).flatMap Instruction.code ++ second)).toArray,
        #[]) := by
    simp only [fillHole, knownOther]
    rw [fill_toward]
  have sameLength : (code ++ (test.jump.toward unresolved).code ++ first).length
      = (code ++ (test.jump.toward otherAddress).code ++ first).length := by
    simp [Instruction.length_code, size_jump_toward]
  have keptEarly : ∀ written, (exitHoles exit early).foldl (fillHole addresses) (written, #[])
      = (written, (exitHoles exit early).toArray) := fun written =>
    foldl_fillHole_of_none unknown written [] early
  have keptLate : ∀ written, (exitHoles exit late).foldl (fillHole addresses)
        (written, (exitHoles exit early).toArray)
      = (written, (exitHoles exit (early ++ late)).toArray) := fun written => by
    rw [exitHoles, exitHoles, exitHoles, foldl_fillHole_of_none unknown, List.map_append]
  have skipped := foldl_fillHole_skipHoles whenFalse knownPast
    (code ++ (test.jump.toward otherAddress).code ++ first) second (exitHoles exit early).toArray
  rw [List.foldl_append, List.foldl_append, List.foldl_append, List.foldl_cons, List.foldl_nil,
    sameLength]
  simp only [List.append_assoc] at jumped skipped ⊢
  rw [jumped, keptEarly, skipped, keptLate]

theorem assembles_branch {start fresh : Nat} {exit : Label} (test : Test)
    {whenTrue whenFalse : List Statement}
    (first : Assembles (blockSteps (fresh + forkCount whenFalse) exit whenTrue)
      (start + test.size) (fresh + forkCount whenFalse) exit
      (blockCode (start + test.size) unresolved whenTrue)
      (blockLabels (start + test.size) whenTrue) (blockBreaks (start + test.size) whenTrue))
    (second : Assembles
      (blockSteps (fresh + forkCount whenFalse + blockLabelCount whenTrue) exit whenFalse)
      (start + test.size + blockSize whenTrue + skipSize whenFalse)
      (fresh + forkCount whenFalse + blockLabelCount whenTrue) exit
      (blockCode (start + test.size + blockSize whenTrue + skipSize whenFalse) unresolved whenFalse)
      (blockLabels (start + test.size + blockSize whenTrue + skipSize whenFalse) whenFalse)
      (blockBreaks (start + test.size + blockSize whenTrue + skipSize whenFalse) whenFalse)) :
    Assembles ((branch test whenTrue whenFalse).steps fresh exit) start fresh exit
      ((branch test whenTrue whenFalse).code start unresolved)
      ((branch test whenTrue whenFalse).labels start)
      ((branch test whenTrue whenFalse).breaks start) := by
  intro code addresses holes outer placed whole
  have awaits := whole
  rw [length_labels, labelCount] at awaits
  have countTrue := length_blockLabels (start + test.size) whenTrue
  rw [← countTrue] at awaits
  have one : 1 ≤ forkCount whenFalse := by unfold forkCount; split <;> omega
  have two : whenFalse.isEmpty = false → forkCount whenFalse = 2 := fun filled => by
    rw [forkCount, filled]
    rfl
  have exitApart := awaits.exitApart
  have awaitsTrue : Awaits addresses (fresh + forkCount whenFalse)
      (blockLabels (start + test.size) whenTrue).length exit :=
    awaits.mono (by omega) (by omega)
  have awaitsFork : Awaits (bindAll addresses (fresh + forkCount whenFalse)
      (blockLabels (start + test.size) whenTrue)) fresh (forkCount whenFalse) exit :=
    awaits.bindAll (by omega) (by omega) (by omega) (by omega)
  rw [steps]
  simp only [List.append_assoc, List.cons_append, List.nil_append]
  rw [foldlM_step_cons step_enter,
    foldlM_step_cons (step_emit_toward_of_none test.labelFree_jump
      (awaits.address?_eq_none (Nat.le_refl fresh) (by omega))),
    foldlM_step_append (first _ _ _ _ (by
      rw [List.length_append, placed, Instruction.length_code, size_jump_toward]) awaitsTrue),
    foldlM_step_append (foldlM_step_skip whenFalse fun filled =>
      awaitsFork.address?_eq_none (by omega) (by rw [two filled]; omega)),
    foldlM_step_cons (step_bind (awaits.lt_limit (Nat.le_refl fresh) (by omega)))]
  have lengthOther : (code ++ (test.jump.toward unresolved).code
        ++ blockCode (start + test.size) unresolved whenTrue
        ++ (skip unresolved whenFalse).flatMap Instruction.code).length
      = start + test.size + blockSize whenTrue + skipSize whenFalse := by
    rw [List.length_append, List.length_append, List.length_append, placed,
      Instruction.length_code, size_jump_toward, length_blockCode, length_skip]
  rw [lengthOther]
  have awaitsFalse : Awaits (bindAll (bindAll addresses (fresh + forkCount whenFalse)
        (blockLabels (start + test.size) whenTrue)) fresh
        [start + test.size + blockSize whenTrue + skipSize whenFalse])
      (fresh + forkCount whenFalse + blockLabelCount whenTrue)
      (blockLabels (start + test.size + blockSize whenTrue + skipSize whenFalse)
        whenFalse).length exit := by
    rw [length_blockLabels, ← countTrue]
    exact awaits.enterSecond (show [_].length ≤ _ from one)
  rw [foldlM_step_append (second _ _ _ _ lengthOther awaitsFalse),
    foldlM_step_append (foldlM_step_past whenFalse fun filled =>
      awaits.lt_limit (by omega) (by rw [two filled]; omega)),
    List.length_append, lengthOther, length_blockCode]
  have labelled : (branch test whenTrue whenFalse).labels start
      = (if whenFalse.isEmpty then [start + test.size + blockSize whenTrue + skipSize whenFalse]
          else [start + test.size + blockSize whenTrue + skipSize whenFalse,
            start + test.size + blockSize whenTrue + skipSize whenFalse + blockSize whenFalse])
        ++ blockLabels (start + test.size) whenTrue
        ++ blockLabels (start + test.size + blockSize whenTrue + skipSize whenFalse) whenFalse := by
    rw [labels]
  rw [← countTrue, bindAll_fork, ← labelled, List.nil_append]
  have knownOther : address? (bindAll addresses fresh ((branch test whenTrue whenFalse).labels start))
      (UInt16.ofNat fresh)
      = some (UInt16.ofNat (start + test.size + blockSize whenTrue + skipSize whenFalse)) :=
    whole.address?_bindAll (labels_branch_zero start test whenTrue whenFalse)
  have knownPast : whenFalse.isEmpty = false →
      address? (bindAll addresses fresh ((branch test whenTrue whenFalse).labels start))
        (UInt16.ofNat (fresh + 1))
        = some (UInt16.ofNat (start + test.size + blockSize whenTrue + skipSize whenFalse
          + blockSize whenFalse)) := fun filled =>
    whole.address?_bindAll (labels_branch_one start test whenTrue filled)
  rw [foldlM_step_cons (step_exit (foldl_fillHole_branch test knownOther knownPast
    whole.exit_bindAll _ _ _ _ _)), code_branch, breaks]
  simp only [List.append_assoc]
  rfl

/-- The block of a loop closes: its test and all places where it is left get the address behind
it. -/
theorem foldl_fillHole_loop {past : Label} {address : UInt16} (test : Option Test)
    (body : List Statement) (known : address? addresses past = some address)
    (code back : List UInt8) {start : Nat} (placed : code.length = start) :
    (guardHoles past start test
        ++ exitHoles past (blockBreaks (start + guardSize test) body)).foldl (fillHole addresses)
        ((code ++ (guard unresolved test).flatMap Instruction.code
          ++ blockCode (start + guardSize test) unresolved body ++ back).toArray, #[])
      = ((code ++ (guard address test).flatMap Instruction.code
          ++ blockCode (start + guardSize test) address body ++ back).toArray, #[]) := by
  have guarded := foldl_fillHole_guardHoles test known code
    (blockCode (start + guardSize test) unresolved body ++ back) #[]
  have left := fill_blockBreaks (code ++ (guard address test).flatMap Instruction.code) back
    (start + guardSize test) address (by rw [List.length_append, placed, length_guard]) body
  rw [placed] at guarded
  rw [List.foldl_append, List.append_assoc _ _ back, guarded, exitHoles,
    foldl_fillHole_of_some known, ← List.append_assoc, left]

theorem assembles_loop {start fresh : Nat} {exit : Label} (test : Option Test)
    {body : List Statement}
    (inner : Assembles (blockSteps (fresh + 2) (UInt16.ofNat (fresh + 1)) body)
      (start + guardSize test) (fresh + 2) (UInt16.ofNat (fresh + 1))
      (blockCode (start + guardSize test) unresolved body)
      (blockLabels (start + guardSize test) body) (blockBreaks (start + guardSize test) body)) :
    Assembles ((loop test body).steps fresh exit) start fresh exit
      ((loop test body).code start unresolved) ((loop test body).labels start)
      ((loop test body).breaks start) := by
  intro code addresses holes outer placed whole
  have awaits := whole
  rw [length_labels, labelCount] at awaits
  have awaitsBody : Awaits (bindAll addresses fresh [start]) (fresh + 2)
      (blockLabels (start + guardSize test) body).length (UInt16.ofNat (fresh + 1)) := by
    rw [length_blockLabels]
    exact awaits.enterLoop start
  have lengthInner : (code ++ (guard unresolved test).flatMap Instruction.code).length
      = start + guardSize test := by
    rw [List.length_append, placed, length_guard]
  have labelled : (loop test body).labels start
      = [start] ++ [start + guardSize test + blockSize body + leapSize]
        ++ blockLabels (start + guardSize test) body := by
    rw [labels]
    rfl
  have knownPast : address? (bindAll addresses fresh ((loop test body).labels start))
      (UInt16.ofNat (fresh + 1))
        = some (UInt16.ofNat (start + guardSize test + blockSize body + leapSize)) :=
    whole.address?_bindAll (by rw [labelled]; rfl)
  rw [steps]
  simp only [List.append_assoc, List.cons_append, List.nil_append]
  rw [foldlM_step_cons step_enter,
    foldlM_step_cons (step_bind (awaits.lt_limit (Nat.le_refl fresh) (by omega))), placed,
    foldlM_step_append (foldlM_step_guard test awaitsBody.exitWaiting),
    foldlM_step_append (inner _ _ _ _ lengthInner awaitsBody), placed, List.nil_append,
    Instruction.leap, foldlM_step_cons (step_emit_toward_of_some Instruction.labelFree_jump
      (awaits.address?_entry start _)),
    foldlM_step_cons (step_bind (awaits.lt_limit (by omega) (by omega)))]
  have lengthPast : (code ++ (guard unresolved test).flatMap Instruction.code
        ++ blockCode (start + guardSize test) unresolved body
        ++ (Instruction.toward ⟨.jump, []⟩ (UInt16.ofNat start)).code).length
      = start + guardSize test + blockSize body + leapSize := by
    rw [List.length_append, List.length_append, lengthInner, length_blockCode,
      Instruction.length_code]
    rfl
  rw [lengthPast, bindAll_loop, ← labelled,
    foldlM_step_cons (step_exit (foldl_fillHole_loop test body knownPast code _ placed)), code_loop,
    breaks]
  simp only [List.append_assoc]
  rfl

theorem assembles_perform (start fresh : Nat) (exit : Label) (action : Action) :
    Assembles ((perform action).steps fresh exit) start fresh exit
      ((perform action).code start unresolved) ((perform action).labels start)
      ((perform action).breaks start) := by
  intro code addresses holes outer _ _
  rw [steps, foldlM_step_cons (step_emit_of_labelFree action.straight.labelFree), code_perform]
  show _ = Except.ok (site _ (bindAll addresses fresh []) (holes ++ []) outer)
  rw [bindAll_nil, List.append_nil]
  rfl

theorem assembles_leaveLoop (start fresh : Nat) (exit : Label) :
    Assembles (leaveLoop.steps fresh exit) start fresh exit (leaveLoop.code start unresolved)
      (leaveLoop.labels start) (leaveLoop.breaks start) := by
  intro code addresses holes outer placed awaits
  subst placed
  rw [steps, Instruction.leap,
    foldlM_step_cons (step_emit_toward_of_none Instruction.labelFree_jump awaits.exitWaiting),
    code_leaveLoop]
  show _ = Except.ok (site _ (bindAll addresses fresh []) _ outer)
  rw [bindAll_nil]
  rfl

theorem Assembles.append {first second : List Step} {start fresh : Nat} {exit : Label}
    {added more : List UInt8} {labels labelsMore breaks breaksMore : List Nat}
    (head : Assembles first start fresh exit added labels breaks)
    (tail : Assembles second (start + added.length) (fresh + labels.length) exit more labelsMore
      breaksMore) :
    Assembles (first ++ second) start fresh exit (added ++ more) (labels ++ labelsMore)
      (breaks ++ breaksMore) := by
  intro code addresses holes outer placed awaits
  rw [List.length_append] at awaits
  have exitApart := awaits.exitApart
  have awaitsLater : Awaits (bindAll addresses fresh labels) (fresh + labels.length)
      labelsMore.length exit :=
    awaits.bindAll (by omega) (by omega) (by omega) (by omega)
  have lengthHead : (code ++ added).length = start + added.length := by
    rw [List.length_append, placed]
  rw [foldlM_step_append (head _ _ _ _ placed (awaits.mono (Nat.le_refl _) (by omega))),
    tail _ _ _ _ lengthHead awaitsLater, bindAll_append]
  simp only [List.append_assoc, exitHoles, List.map_append]

mutual

theorem assembles_steps (start fresh : Nat) (exit : Label) :
    (statement : Statement) →
      Assembles (statement.steps fresh exit) start fresh exit (statement.code start unresolved)
        (statement.labels start) (statement.breaks start)
  | perform action => assembles_perform start fresh exit action
  | branch test whenTrue whenFalse =>
    assembles_branch test (assembles_blockSteps _ _ exit whenTrue)
      (assembles_blockSteps _ _ exit whenFalse)
  | loop test body => assembles_loop test (assembles_blockSteps _ _ _ body)
  | leaveLoop => assembles_leaveLoop start fresh exit

/-- **The steps of a block assemble to its code.** -/
theorem assembles_blockSteps (start fresh : Nat) (exit : Label) :
    (statements : List Statement) →
      Assembles (blockSteps fresh exit statements) start fresh exit
        (blockCode start unresolved statements) (blockLabels start statements)
        (blockBreaks start statements)
  | [] => fun code addresses holes outer _ _ => by
    show Except.ok _ = Except.ok (site (code ++ []) (bindAll addresses fresh []) (holes ++ []) outer)
    rw [bindAll_nil, List.append_nil, List.append_nil]
  | statement :: statements => by
    have later := assembles_blockSteps (start + statement.size) (fresh + statement.labelCount) exit
      statements
    rw [← length_code start unresolved, ← length_labels start] at later
    have whole := (assembles_steps start fresh exit statement).append later
    rw [length_code, length_labels, ← blockCode_cons] at whole
    exact whole

end

/-! ### Whole scripts -/

theorem labelFree_ending : Lowered.ending.IsLabelFree :=
  fun _ member => (List.not_mem_nil member).elim

theorem bindAll_replicate (labels : List Nat) :
    bindAll (.replicate labels.length none) 0 labels
      = (labels.map fun label => some (UInt16.ofNat label)).toArray := by
  refine Array.ext_getElem? fun number => ?_
  rw [getElem?_bindAll, Array.getElem?_replicate, List.getElem?_toArray, List.getElem?_map]
  by_cases inside : number < labels.length
  · simp [inside]
  · simp [inside]

theorem settled_map_some (addresses : List UInt16) :
    settled (addresses.map some).toArray = .ok addresses := by
  unfold settled
  rw [List.toList_toArray]
  generalize 0 = first
  induction addresses generalizing first with
  | nil => rfl
  | cons address addresses ih =>
    rw [List.map_cons, List.zipIdx_cons, List.mapM_cons, ih]
    rfl

theorem awaits_start {statements : List Statement}
    (fits : blockSize statements + 1 ≤ scriptSizeLimit) :
    Awaits (.replicate (blockLabelCount statements) none) 0 (blockLabels 0 statements).length
      unresolved where
  small := by
    have few := three_mul_blockLabelCount_le statements
    rw [Array.size_replicate]
    unfold scriptSizeLimit at fits
    omega
  waiting := fun number _ high => by
    rw [length_blockLabels] at high
    rw [Array.getElem?_replicate, if_pos (by omega)]
  exitWaiting := by
    rw [address?, Array.getElem?_replicate]
    split <;> rfl
  exitApart := by
    have few := three_mul_blockLabelCount_le statements
    have last : unresolved.toNat = 65535 := rfl
    rw [length_blockLabels, last]
    unfold scriptSizeLimit at fits
    omega

/-- **A script that fits is assembled to its code**, if its statements leave no loop around it. -/
theorem ofLowered_ofStatements {statements : List Statement}
    (closed : blockBreaks 0 statements = [])
    (fits : blockSize statements + 1 ≤ scriptSizeLimit) :
    ofLowered (.ofStatements statements)
      = .ok (blockCode 0 unresolved statements ++ Lowered.ending.code,
        (blockLabels 0 statements).map UInt16.ofNat) := by
  have inner := assembles_blockSteps 0 0 unresolved statements [] _ [] [] rfl (awaits_start fits)
  have entered : step (start (blockLabelCount statements)) .enter
      = .ok (site [] (.replicate (blockLabelCount statements) none) [] []) := rfl
  rw [closed] at inner
  have assembled : (Lowered.ofStatements statements).steps.toList.foldlM step
        (start (Lowered.ofStatements statements).labelCount)
      = .ok ⟨(blockCode 0 unresolved statements ++ Lowered.ending.code).toArray,
        bindAll (.replicate (blockLabelCount statements) none) 0 (blockLabels 0 statements), []⟩ := by
    show List.foldlM step (start (blockLabelCount statements))
      (Step.enter :: (blockSteps 0 unresolved statements ++ [.emit Lowered.ending, .exit])) = _
    rw [foldlM_step_cons entered, foldlM_step_append inner,
      foldlM_step_cons (step_emit_of_labelFree labelFree_ending)]
    rfl
  rw [ofLowered, assembled, ← length_blockLabels 0, bindAll_replicate]
  have settled := settled_map_some ((blockLabels 0 statements).map UInt16.ofNat)
  rw [List.map_map] at settled
  show Assembly.settled _ >>= _ = _
  rw [show (fun label => some (UInt16.ofNat label)) = some ∘ UInt16.ofNat from rfl, settled]
  rfl

end Assembly
end Cartridge
