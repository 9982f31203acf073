import Cartridge.Proofs.Script.Generation
import Cartridge.Script.Lowering

/-!
# What the first pass records

The first pass takes a tree apart with a stack of tasks. Here are the steps of a statement by
recursion on the statement alone, and the proof that the pass records just these, whatever else is
waiting on the stack.

* `Statement.steps`, `Statement.blockSteps`: the steps, given the number of the next label.
* `Lowering.run_eq_follow`: the stack of tasks does what recursion does.
* `Lowered.ofBody_eq`: the steps of a script, or the first fault in its text.
-/

namespace Cartridge

/-- How many bytes a step adds to the code. -/
def Step.size : Step → Nat
  | .emit instruction => instruction.size
  | .enter | .exit | .bind _ => 0

namespace Statement

mutual

/-- The steps of a statement. The next label is number `fresh`, and leaving a loop goes to the label
`exit`. -/
def steps (fresh : Nat) (exit : Label) : Statement → List Step
  | perform action => [.emit action.instruction]
  | branch test whenTrue whenFalse =>
    let other := UInt16.ofNat fresh
    let past := UInt16.ofNat (fresh + 1)
    let inner := fresh + forkCount whenFalse
    [.enter, .emit (test.jump.toward other)] ++ blockSteps inner exit whenTrue
      ++ (skip past whenFalse).map .emit ++ [.bind other]
      ++ blockSteps (inner + blockLabelCount whenTrue) exit whenFalse
      ++ (if whenFalse.isEmpty then [] else [.bind past]) ++ [.exit]
  | loop test body =>
    let entry := UInt16.ofNat fresh
    let past := UInt16.ofNat (fresh + 1)
    [.enter, .bind entry] ++ (guard past test).map .emit ++ blockSteps (fresh + 2) past body
      ++ [.emit (.leap entry), .bind past, .exit]
  | leaveLoop => [.emit (.leap exit)]

/-- The steps of a block. -/
def blockSteps (fresh : Nat) (exit : Label) : List Statement → List Step
  | [] => []
  | statement :: statements =>
    steps fresh exit statement ++ blockSteps (fresh + statement.labelCount) exit statements

end

theorem total_map_emit (instructions : List Instruction) :
    total ((instructions.map Step.emit).map Step.size)
      = (instructions.flatMap Instruction.code).length := by
  rw [length_flatMap_eq_total, List.map_map]
  congr 1
  exact List.map_congr_left fun instruction _ => instruction.length_code.symm

mutual

theorem total_steps (fresh : Nat) (exit : Label) :
    (statement : Statement) → total ((statement.steps fresh exit).map Step.size) = statement.size
  | perform action => by simp [steps, Step.size, size]
  | branch test whenTrue whenFalse => by
    simp only [steps, List.map_append, total_append, total_map_emit, length_skip,
      total_blockSteps _ _ whenTrue, total_blockSteps _ _ whenFalse, size]
    split <;> simp [Step.size, size_jump_toward]
  | loop test body => by
    simp only [steps, List.map_append, total_append, total_map_emit, length_guard,
      total_blockSteps _ _ body, size]
    simp [Step.size, size_leap]
  | leaveLoop => by simp [steps, Step.size, size, size_leap]

theorem total_blockSteps (fresh : Nat) (exit : Label) :
    (statements : List Statement) →
      total ((blockSteps fresh exit statements).map Step.size) = blockSize statements
  | [] => rfl
  | statement :: statements => by
    rw [blockSteps, List.map_append, total_append, total_steps fresh exit statement,
      total_blockSteps _ exit statements, blockSize]

end

end Statement

namespace Lowering

/-- Adds steps and hands out labels. -/
def extend (progress : Lowering) (steps : List Step) (labels : Nat) : Lowering :=
  { progress with
    steps := progress.steps ++ steps
    size := progress.size + total (steps.map Step.size)
    labelCount := progress.labelCount + labels }

/-- The label behind the innermost open loop. Outside of loops it does not matter. -/
def exit (progress : Lowering) : Label := progress.loops.headD unresolved

/-- Adds the steps of a statement. -/
def add (progress : Lowering) (statement : Statement) : Lowering :=
  progress.extend (statement.steps progress.labelCount progress.exit) statement.labelCount

/-- Adds the steps of a block. -/
def addBlock (progress : Lowering) (statements : List Statement) : Lowering :=
  progress.extend (Statement.blockSteps progress.labelCount progress.exit statements)
    (Statement.blockLabelCount statements)

/-- Opens a loop. -/
def enterLoop (progress : Lowering) (past : Label) : Lowering :=
  { progress with loops := past :: progress.loops }

/-- Closes the innermost loop. -/
def leaveLoop (progress : Lowering) : Lowering :=
  { progress with loops := progress.loops.tail }

/-- The body of a loop is recorded with the label behind the loop as its exit. -/
theorem leaveLoop_addBlock_enterLoop (progress : Lowering) (past : Label)
    (body : List Statement) :
    ((progress.enterLoop past).addBlock body).leaveLoop
      = progress.extend (Statement.blockSteps progress.labelCount past body)
        (Statement.blockLabelCount body) := rfl

theorem record_eq_extend (progress : Lowering) (step : Step) :
    progress.record step = progress.extend [step] 0 := by
  cases step <;> simp [record, extend, Step.size]

theorem takeLabel_eq_extend (progress : Lowering) : progress.takeLabel = progress.extend [] 1 := by
  simp [takeLabel, extend]

theorem extend_extend (progress : Lowering) (first second : List Step) (some more : Nat) :
    (progress.extend first some).extend second more
      = progress.extend (first ++ second) (some + more) := by
  have steps : progress.steps ++ first ++ second = progress.steps ++ (first ++ second) :=
    Array.ext' (by simp)
  simp [extend, Nat.add_assoc, steps]

theorem exit_extend (progress : Lowering) (steps : List Step) (labels : Nat) :
    (progress.extend steps labels).exit = progress.exit := rfl

theorem labelCount_extend (progress : Lowering) (steps : List Step) (labels : Nat) :
    (progress.extend steps labels).labelCount = progress.labelCount + labels := rfl

theorem nextLabel_extend (progress : Lowering) (steps : List Step) (labels : Nat) :
    (progress.extend steps labels).nextLabel = UInt16.ofNat (progress.labelCount + labels) := rfl

theorem addBlock_nil (progress : Lowering) : progress.addBlock [] = progress := by
  simp [addBlock, extend, Statement.blockSteps, Statement.blockLabelCount]

theorem addBlock_cons (progress : Lowering) (statement : Statement)
    (statements : List Statement) :
    progress.addBlock (statement :: statements)
      = (progress.add statement).addBlock statements := by
  rw [addBlock, addBlock, add, extend_extend]
  rfl

/-! ### Following the tasks by recursion -/

/-- Does the tasks, the first one first; each event is taken as a whole. -/
def follow (tables : Tables) (progress : Lowering) :
    List Task → Except (NodePath × NodeFault) Lowering
  | [] => .ok progress
  | .record step :: tasks => follow tables (progress.record step) tasks
  | .closeLoop :: tasks => follow tables progress.leaveLoop tasks
  | .visit event path :: tasks => do
    let statement ← event.statement tables (!progress.loops.isEmpty) path
    follow tables (progress.add statement) tasks

theorem block_cons (descend : Nat → Descent) (path : NodePath) (event : Event)
    (events : List Event) :
    Task.block descend path (event :: events)
      = .visit event (descend 0 :: path)
        :: Task.block (fun index => descend (index + 1)) path events := by
  rw [Task.block, Task.block, List.mapIdx_cons]

/-- **A block of tasks adds the block's statements**, and then the other tasks are done. -/
theorem follow_block (tables : Tables) (progress : Lowering) (descend : Nat → Descent)
    (path : NodePath) (events : List Event) (tasks : List Task) :
    progress.follow tables (Task.block descend path events ++ tasks)
      = Event.block tables (!progress.loops.isEmpty) path descend 0 events
        >>= fun statements => (progress.addBlock statements).follow tables tasks := by
  induction events generalizing progress descend with
  | nil =>
    show progress.follow tables tasks = (progress.addBlock []).follow tables tasks
    rw [addBlock_nil]
  | cons event events ih =>
    rw [block_cons, List.cons_append, follow, Event.block]
    cases event.statement tables (!progress.loops.isEmpty) (descend 0 :: path) with
    | error fault => rfl
    | ok statement =>
      have loops : (progress.add statement).loops = progress.loops := rfl
      have rest := ih (progress.add statement) fun index => descend (index + 1)
      rw [loops, ← Event.block_shift] at rest
      show (progress.add statement).follow tables _ = _
      rw [rest]
      cases Event.block tables (!progress.loops.isEmpty) path descend (0 + 1) events with
      | error fault => rfl
      | ok statements =>
        show _ = (progress.addBlock (statement :: statements)).follow tables tasks
        rw [addBlock_cons]
        rfl

/-! ### Visiting one event -/

variable {tables : Tables} {progress : Lowering} {path : NodePath}

theorem follow_visitBranch_nil (test : Test) (whenTrue : List Event) (tasks : List Task) :
    (progress.visitBranch path test.jump whenTrue []).1.follow tables
        ((progress.visitBranch path test.jump whenTrue []).2 ++ tasks)
      = Event.block tables (!progress.loops.isEmpty) path .whenTrue 0 whenTrue >>= fun first =>
        (progress.add (.branch test first [])).follow tables tasks := by
  have visited : progress.visitBranch path test.jump whenTrue []
      = ((progress.takeLabel.record .enter).record (.emit (test.jump.toward progress.nextLabel)),
        Task.block .whenTrue path whenTrue
          ++ [.record (.bind progress.nextLabel), .record .exit]) := rfl
  rw [visited, List.append_assoc, follow_block]
  refine bind_congr fun first => ?_
  simp only [List.cons_append, List.nil_append, follow]
  congr 1
  simp only [record_eq_extend, takeLabel_eq_extend, addBlock, add, extend_extend, exit_extend,
    labelCount_extend]
  congr 1
  simp [Statement.steps, Statement.skip, Statement.forkCount, Statement.blockSteps, nextLabel]

theorem follow_visitBranch_cons (test : Test) (whenTrue : List Event) (event : Event)
    (events : List Event) (tasks : List Task) :
    (progress.visitBranch path test.jump whenTrue (event :: events)).1.follow tables
        ((progress.visitBranch path test.jump whenTrue (event :: events)).2 ++ tasks)
      = Event.block tables (!progress.loops.isEmpty) path .whenTrue 0 whenTrue >>= fun first =>
        Event.block tables (!progress.loops.isEmpty) path .whenFalse 0 (event :: events)
          >>= fun second => (progress.add (.branch test first second)).follow tables tasks := by
  have visited : progress.visitBranch path test.jump whenTrue (event :: events)
      = (((progress.takeLabel.record .enter).record
          (.emit (test.jump.toward progress.nextLabel))).takeLabel,
        Task.block .whenTrue path whenTrue
          ++ (.record (.emit (.leap (progress.takeLabel.nextLabel)))
            :: .record (.bind progress.nextLabel)
            :: Task.block .whenFalse path (event :: events))
          ++ [.record (.bind progress.takeLabel.nextLabel), .record .exit]) := rfl
  rw [visited, List.append_assoc, List.append_assoc, follow_block]
  refine bind_congr fun first => ?_
  simp only [List.cons_append, List.append_assoc, follow]
  rw [follow_block]
  refine bind_congr_of_ok fun second accepted => ?_
  have filled : second.isEmpty = false := Event.isEmpty_of_block accepted
  simp only [List.nil_append, follow]
  congr 1
  simp only [record_eq_extend, takeLabel_eq_extend, addBlock, add, extend_extend, exit_extend,
    labelCount_extend, nextLabel_extend]
  congr 1
  · simp [Statement.steps, Statement.skip, Statement.forkCount, nextLabel, filled, Nat.add_assoc]
  · simp [Statement.labelCount, Statement.forkCount, filled]

/-- A conditional that has been visited is followed as its statement. -/
theorem follow_visitBranch (test : Test) (whenTrue whenFalse : List Event) (tasks : List Task) :
    (progress.visitBranch path test.jump whenTrue whenFalse).1.follow tables
        ((progress.visitBranch path test.jump whenTrue whenFalse).2 ++ tasks)
      = Event.block tables (!progress.loops.isEmpty) path .whenTrue 0 whenTrue >>= fun first =>
        Event.block tables (!progress.loops.isEmpty) path .whenFalse 0 whenFalse >>= fun second =>
          (progress.add (.branch test first second)).follow tables tasks := by
  cases whenFalse with
  | nil => exact follow_visitBranch_nil test whenTrue tasks
  | cons event events => exact follow_visitBranch_cons test whenTrue event events tasks

theorem visitLoop_fst (test : Option Test) (body : List Event) :
    (progress.visitLoop path (test.map Test.jump) body).1
      = (progress.extend ([.enter, .bind progress.nextLabel]
            ++ (Statement.guard progress.takeLabel.nextLabel test).map .emit) 2).enterLoop
          progress.takeLabel.nextLabel := by
  cases test with
  | none =>
    simp only [visitLoop, Option.map_none, record_eq_extend, takeLabel_eq_extend, extend_extend]
    rfl
  | some test =>
    simp only [visitLoop, Option.map_some, record_eq_extend, takeLabel_eq_extend, extend_extend]
    simp [extend, enterLoop, Statement.guard, Nat.add_assoc]

theorem follow_visitLoop (test : Option Test) (body : List Event) (tasks : List Task) :
    (progress.visitLoop path (test.map Test.jump) body).1.follow tables
        ((progress.visitLoop path (test.map Test.jump) body).2 ++ tasks)
      = Event.block tables true path .body 0 body >>= fun inner =>
        (progress.add (.loop test inner)).follow tables tasks := by
  have left : (progress.visitLoop path (test.map Test.jump) body).2
      = Task.block .body path body
        ++ [.closeLoop, .record (.emit (.leap progress.nextLabel)),
          .record (.bind progress.takeLabel.nextLabel), .record .exit] := rfl
  rw [visitLoop_fst, left, List.append_assoc, follow_block]
  refine bind_congr fun inner => ?_
  simp only [List.cons_append, List.nil_append, follow]
  congr 1
  simp only [leaveLoop_addBlock_enterLoop, record_eq_extend, takeLabel_eq_extend, extend_extend,
    add, labelCount_extend, nextLabel_extend]
  congr 1
  simp [Statement.steps, nextLabel]

/-- What is to be shown of visiting an event: doing what that leaves follows the event as a
whole. -/
def FollowsVisit (tables : Tables) (progress : Lowering) (event : Event) (path : NodePath)
    (tasks : List Task) : Prop :=
  progress.follow tables (.visit event path :: tasks)
    = match progress.visit tables event path with
      | .error fault => .error (path, fault)
      | .ok (after, inner) => after.follow tables (inner ++ tasks)

theorem followsVisit_of_branch {event : Event} {asked : Except NodeFault Test}
    {whenTrue whenFalse : List Event} (tasks : List Task)
    (resolved : event.resolve tables
      = asked >>= fun test => .ok (.branch test.jump whenTrue whenFalse))
    (whole : event.statement tables (!progress.loops.isEmpty) path
      = asked.mapError (path, ·) >>= fun test =>
        Event.block tables (!progress.loops.isEmpty) path .whenTrue 0 whenTrue >>= fun first =>
          Event.block tables (!progress.loops.isEmpty) path .whenFalse 0 whenFalse >>=
            fun second => .ok (.branch test first second)) :
    FollowsVisit tables progress event path tasks := by
  rw [FollowsVisit, follow, whole, visit, resolved]
  cases asked with
  | error fault => rfl
  | ok test =>
    refine Eq.trans ?_ (follow_visitBranch test whenTrue whenFalse tasks).symm
    show (Event.block _ _ _ _ _ whenTrue >>= _) >>= _ = _
    rw [bind_assoc]
    refine bind_congr fun first => ?_
    rw [bind_assoc]
    rfl

theorem followsVisit_of_loop {event : Event} (asked : Except NodeFault (Option Test))
    (body : List Event) (tasks : List Task)
    (resolved : event.resolve tables
      = asked >>= fun test => .ok (.loop (test.map Test.jump) body))
    (whole : event.statement tables (!progress.loops.isEmpty) path
      = asked.mapError (path, ·) >>= fun test =>
        Event.block tables true path .body 0 body >>= fun inner => .ok (.loop test inner)) :
    FollowsVisit tables progress event path tasks := by
  rw [FollowsVisit, follow, whole, visit, resolved]
  cases asked with
  | error fault => rfl
  | ok test =>
    refine Eq.trans ?_ (follow_visitLoop test body tasks).symm
    show (Event.block _ _ _ _ _ body >>= _) >>= _ = _
    rw [bind_assoc]
    rfl

/-- **Visiting an event and doing what that leaves is following the event as a whole.** -/
theorem follow_visit (tables : Tables) (progress : Lowering) (event : Event) (path : NodePath)
    (tasks : List Task) : FollowsVisit tables progress event path tasks := by
  cases event using Event.form_cases with
  | ifFlag name whenTrue whenFalse =>
    exact followsVisit_of_branch tasks (Event.resolve_ifFlag tables name whenTrue whenFalse) rfl
  | ifVariable name comparison value whenTrue whenFalse =>
    exact followsVisit_of_branch tasks
      (Event.resolve_ifVariable tables name comparison value whenTrue whenFalse) rfl
  | loopWhile name comparison value body =>
    refine followsVisit_of_loop (some <$> tables.comparisonTest name comparison value) body tasks ?_ ?_
    · rw [Event.resolve_loopWhile]
      cases tables.comparisonTest name comparison value <;> rfl
    · rw [Event.statement]
      cases tables.comparisonTest name comparison value <;> rfl
  | loopForever body =>
    exact followsVisit_of_loop (.ok none) body tasks rfl rfl
  | leaveLoop =>
    rw [FollowsVisit, follow, Event.statement, visit, Event.resolve]
    cases innermost : progress.loops with
    | nil => rfl
    | cons past outer =>
      have exit : progress.exit = past := by rw [Lowering.exit, innermost]; rfl
      show follow tables (progress.add .leaveLoop) tasks = _
      rw [add, exit, Statement.steps, Statement.labelCount]
      simp only [record_eq_extend]
      rfl
  | plain event isPlain =>
    rw [FollowsVisit, follow, isPlain.statement_eq, visit]
    obtain ⟨fault, resolved, failed⟩ | ⟨action, resolved, taken⟩ := isPlain.action_cases tables
    · rw [resolved, failed]
      rfl
    · rw [resolved, taken]
      show follow tables (progress.add (.perform action)) tasks = _
      simp only [record_eq_extend]
      rfl

/-- **The stack of tasks does what recursion does.** -/
theorem run_eq_follow (tables : Tables) (progress : Lowering) (tasks : List Task) :
    progress.run tables tasks = progress.follow tables tasks := by
  induction progress, tasks using Lowering.run.induct tables with
  | case1 progress => rw [run, follow]
  | case2 progress step tasks ih => rw [run, follow, ih]
  | case3 progress tasks ih =>
    rw [run, follow]
    exact ih
  | case4 progress event path tasks fault held =>
    have whole := follow_visit tables progress event path tasks
    rw [FollowsVisit, held] at whole
    rw [whole, run]
    split
    · rename_i found same
      cases held.symm.trans same
      rfl
    · rename_i same
      cases held.symm.trans same
  | case5 progress event path tasks after inner held _ ih =>
    have whole := follow_visit tables progress event path tasks
    rw [FollowsVisit, held] at whole
    rw [whole]
    show _ = after.follow tables (inner ++ tasks)
    rw [← ih, run]
    split
    · rename_i same
      cases held.symm.trans same
    · rename_i same
      cases held.symm.trans same
      rfl

end Lowering

/-! ### Whole scripts -/

/-- The statements of a script, or the first fault in its text and the path to it. -/
def Event.script (tables : Tables) (body : List Event) :
    Except (NodePath × NodeFault) (List Statement) :=
  Event.block tables false [] .item 0 body

namespace Lowered

/-- The instruction at the end of every script. -/
def ending : Instruction := ⟨.stop, []⟩

/-- The steps of the statements of a script. -/
def ofStatements (statements : List Statement) : Lowered where
  steps := ([Step.enter] ++ Statement.blockSteps 0 unresolved statements
    ++ [Step.emit ending, Step.exit]).toArray
  labelCount := Statement.blockLabelCount statements
  size := Statement.blockSize statements + 1

/-- **The first pass records the steps of the statements**, or stops at the first fault. -/
theorem ofBody_eq (tables : Tables) (body : List Event) :
    ofBody tables body
      = Event.script tables body >>= fun statements => .ok (ofStatements statements) := by
  rw [ofBody, Lowering.run_eq_follow, Lowering.follow_block]
  show (Event.script tables body >>= _) >>= _ = _
  rw [bind_assoc]
  refine bind_congr fun statements => ?_
  simp only [Lowering.follow, Lowering.record_eq_extend, Lowering.addBlock,
    Lowering.extend_extend]
  show Except.ok _ = Except.ok _
  congr 1
  simp [Lowering.extend, Lowering.start, Lowering.exit, ofStatements, ending, Step.size,
    Instruction.size, Statement.total_blockSteps]

end Lowered
end Cartridge
