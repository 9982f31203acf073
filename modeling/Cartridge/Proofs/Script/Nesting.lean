import Cartridge.Proofs.Script.Gathering
import Mathlib.Data.List.Perm.Basic

/-!
# Nested blocks and their labels

The first pass records a tree as a flat list of steps. Conditionals and loops open a block there and
close it again; the labels that are handed out for one are bound in its block, outside of the blocks
within.

* `Step.AreNested`: steps whose blocks close as they have opened.
* `Step.Binds`: nested steps that bind a label outside of their blocks.
* `Statement.nested_blockSteps`: the steps of a block of statements are nested.
* `Statement.perm_boundLabels_blockSteps`: they bind each of their labels once.
* `Lowering.Reaches`, `Lowering.HandsOut`: where the first pass comes by, and where it hands out a
  label.
* `Lowering.HandsOut.exists_block`: the block that opens there binds this label before it closes.
-/

namespace Cartridge

/-! ### Nested steps -/

namespace Step

/-- **Steps whose blocks are nested**: a block that opens among them closes again, and none closes
that has not opened. -/
inductive AreNested : List Step → Prop where
  | nil : AreNested []
  | emit (instruction : Instruction) {steps : List Step} (later : AreNested steps) :
    AreNested (.emit instruction :: steps)
  | bind (target : Label) {steps : List Step} (later : AreNested steps) :
    AreNested (.bind target :: steps)
  | block {inside steps : List Step} (inner : AreNested inside) (later : AreNested steps) :
    AreNested (.enter :: (inside ++ .exit :: steps))

namespace AreNested

variable {first second : List Step}

theorem append (head : AreNested first) (tail : AreNested second) :
    AreNested (first ++ second) := by
  induction head with
  | nil => exact tail
  | emit instruction _ ih => exact .emit instruction ih
  | bind target _ ih => exact .bind target ih
  | block inner _ _ ih =>
    rw [List.cons_append, List.append_assoc, List.cons_append]
    exact .block inner ih

theorem map_emit (instructions : List Instruction) : AreNested (instructions.map .emit) := by
  induction instructions with
  | nil => exact .nil
  | cons instruction instructions ih => exact .emit instruction ih

end AreNested

/-- **Nested steps that bind a label**, and not only within a block among them. -/
def Binds (target : Label) (steps : List Step) : Prop :=
  ∃ early late, steps = early ++ .bind target :: late ∧ AreNested early ∧ AreNested late

namespace Binds

variable {target : Label} {steps : List Step}

theorem here (later : AreNested steps) : Binds target (.bind target :: steps) :=
  ⟨[], steps, rfl, .nil, later⟩

theorem after {earlier : List Step} (before : AreNested earlier) (binds : Binds target steps) :
    Binds target (earlier ++ steps) := by
  obtain ⟨early, late, rfl, nestedEarly, nestedLate⟩ := binds
  exact ⟨earlier ++ early, late, (List.append_assoc ..).symm, before.append nestedEarly, nestedLate⟩

end Binds

/-- How many blocks are open behind some steps, if `opened` are open before them. There is no answer
if no block is open where one closes, or where an instruction or a label stands. -/
def depth? (opened : Nat) : List Step → Option Nat
  | [] => some opened
  | .enter :: steps => depth? (opened + 1) steps
  | .exit :: steps => if opened = 0 then none else depth? (opened - 1) steps
  | .emit _ :: steps | .bind _ :: steps => if opened = 0 then none else depth? opened steps

theorem depth?_append (opened : Nat) (first second : List Step) :
    depth? opened (first ++ second) = (depth? opened first).bind (depth? · second) := by
  induction first generalizing opened with
  | nil => rfl
  | cons step steps ih =>
    cases step with
    | enter => exact ih (opened + 1)
    | exit | emit | bind =>
      simp only [List.cons_append, depth?, ih]
      split <;> rfl

/-- Nested steps within a block leave it open. -/
theorem AreNested.depth?_eq {steps : List Step} (nested : AreNested steps) (outer : Nat) :
    depth? (outer + 1) steps = some (outer + 1) := by
  induction nested generalizing outer with
  | nil => rfl
  | emit instruction _ ih => exact ih outer
  | bind target _ ih => exact ih outer
  | block _ _ inner later =>
    rw [depth?, depth?_append, inner]
    exact later outer

/-- A whole script is one block. -/
theorem AreNested.depth?_whole {inside : List Step} (nested : AreNested inside) :
    depth? 0 (.enter :: (inside ++ [.exit])) = some 0 := by
  rw [depth?, depth?_append, nested.depth?_eq]
  rfl

/-! ### Bound labels -/

/-- The label that a step binds. -/
def bound? : Step → Option Label
  | bind target => some target
  | _ => none

/-- The labels that are bound by some steps, in their order. -/
def boundLabels (steps : List Step) : List Label := steps.filterMap bound?

theorem boundLabels_append (first second : List Step) :
    boundLabels (first ++ second) = boundLabels first ++ boundLabels second :=
  List.filterMap_append

theorem boundLabels_map_emit (instructions : List Instruction) :
    boundLabels (instructions.map .emit) = [] := by
  induction instructions with
  | nil => rfl
  | cons instruction instructions ih => exact ih

end Step

/-- The labels with consecutive numbers, as they are handed out: as numbers of two bytes. -/
def labelsFrom (fresh count : Nat) : List Label := (List.range' fresh count).map UInt16.ofNat

theorem labelsFrom_add (fresh first second : Nat) :
    labelsFrom fresh (first + second)
      = labelsFrom fresh first ++ labelsFrom (fresh + first) second := by
  rw [labelsFrom, ← List.range'_append_1, List.map_append]
  rfl

/-! ### The steps of statements -/

namespace Statement

open Step (AreNested Binds boundLabels)

/-- How many labels a statement has for itself. -/
def ownCount : Statement → Nat
  | perform _ | leaveLoop => 0
  | branch _ _ whenFalse => forkCount whenFalse
  | loop _ _ => 2

/-- The steps in the block of a conditional or a loop. Other statements have no block. -/
def inside (fresh : Nat) (exit : Label) : Statement → List Step
  | perform _ | leaveLoop => []
  | branch test whenTrue whenFalse =>
    .emit (test.jump.toward (UInt16.ofNat fresh))
      :: (blockSteps (fresh + forkCount whenFalse) exit whenTrue
        ++ ((skip (UInt16.ofNat (fresh + 1)) whenFalse).map .emit
          ++ .bind (UInt16.ofNat fresh)
            :: (blockSteps (fresh + forkCount whenFalse + blockLabelCount whenTrue) exit whenFalse
              ++ if whenFalse.isEmpty then [] else [.bind (UInt16.ofNat (fresh + 1))])))
  | loop test body =>
    .bind (UInt16.ofNat fresh)
      :: ((guard (UInt16.ofNat (fresh + 1)) test).map .emit
        ++ (blockSteps (fresh + 2) (UInt16.ofNat (fresh + 1)) body
          ++ [.emit (.leap (UInt16.ofNat fresh)), .bind (UInt16.ofNat (fresh + 1))]))

variable (fresh : Nat) (exit : Label)

theorem steps_branch (test : Test) (whenTrue whenFalse : List Statement) :
    (branch test whenTrue whenFalse).steps fresh exit
      = .enter :: ((branch test whenTrue whenFalse).inside fresh exit ++ [.exit]) := by
  rw [steps, inside]
  simp only [List.append_assoc, List.cons_append, List.nil_append]

theorem steps_loop (test : Option Test) (body : List Statement) :
    (loop test body).steps fresh exit
      = .enter :: ((loop test body).inside fresh exit ++ [.exit]) := by
  rw [steps, inside]
  simp only [List.append_assoc, List.cons_append, List.nil_append]

theorem nested_past (past : Label) (whenFalse : List Statement) :
    AreNested (if whenFalse.isEmpty then [] else [.bind past]) := by
  split
  · exact .nil
  · exact .bind past .nil

mutual

/-- The steps of a statement are nested, as its blocks are. -/
theorem nested_steps (fresh : Nat) (exit : Label) :
    (statement : Statement) → AreNested (statement.steps fresh exit)
  | perform action => .emit action.instruction .nil
  | branch test whenTrue whenFalse => by
    rw [steps_branch]
    exact .block (.emit _ ((nested_blockSteps _ exit whenTrue).append ((AreNested.map_emit _).append
      (.bind _ ((nested_blockSteps _ exit whenFalse).append (nested_past _ whenFalse)))))) .nil
  | loop test body => by
    rw [steps_loop]
    exact .block (.bind _ ((AreNested.map_emit _).append
      ((nested_blockSteps _ _ body).append (.emit _ (.bind _ .nil))))) .nil
  | leaveLoop => .emit (.leap exit) .nil

/-- **The steps of a block are nested.** -/
theorem nested_blockSteps (fresh : Nat) (exit : Label) :
    (statements : List Statement) → AreNested (blockSteps fresh exit statements)
  | [] => .nil
  | statement :: statements =>
    (nested_steps fresh exit statement).append (nested_blockSteps _ exit statements)

end

/-- **The labels of a statement are bound in its block**, outside of the blocks within. -/
theorem binds_inside (statement : Statement) {index : Nat} (own : index < statement.ownCount) :
    statement.steps fresh exit = .enter :: (statement.inside fresh exit ++ [.exit])
      ∧ Binds (UInt16.ofNat (fresh + index)) (statement.inside fresh exit) := by
  cases statement with
  | perform action => exact absurd own (Nat.not_lt_zero index)
  | leaveLoop => exact absurd own (Nat.not_lt_zero index)
  | branch test whenTrue whenFalse =>
    refine ⟨steps_branch fresh exit test whenTrue whenFalse, ?_⟩
    have first := nested_blockSteps (fresh + forkCount whenFalse) exit whenTrue
    have second := nested_blockSteps (fresh + forkCount whenFalse + blockLabelCount whenTrue) exit
      whenFalse
    have jumps : AreNested
        ((skip (UInt16.ofNat (fresh + 1)) whenFalse).map Step.emit) := .map_emit _
    rw [inside]
    by_cases past : index = 0
    · subst past
      exact .after (.emit _ first) (.after jumps (.here (second.append (nested_past _ whenFalse))))
    · have two : index < forkCount whenFalse := own
      have filled : ¬ whenFalse.isEmpty := fun empty => by
        rw [forkCount, if_pos empty] at two
        omega
      have one : index = 1 := by
        rw [forkCount, if_neg filled] at two
        omega
      subst one
      rw [if_neg filled]
      exact .after (.emit _ first) (.after jumps (.after (.bind _ second) (.here .nil)))
  | loop test body =>
    refine ⟨steps_loop fresh exit test body, ?_⟩
    have jump : AreNested ((guard (UInt16.ofNat (fresh + 1)) test).map Step.emit) := .map_emit _
    have inner := nested_blockSteps (fresh + 2) (UInt16.ofNat (fresh + 1)) body
    have either : index = 0 ∨ index = 1 := by
      have two : index < 2 := own
      omega
    rw [inside]
    rcases either with rfl | rfl
    · exact .here (jump.append (inner.append (.emit _ (.bind _ .nil))))
    · exact .after (.bind _ jump) (.after inner (.after (.emit _ .nil) (.here .nil)))

theorem labelsFrom_forkCount (whenFalse : List Statement) :
    labelsFrom fresh (forkCount whenFalse)
      = UInt16.ofNat fresh
        :: if whenFalse.isEmpty then [] else [UInt16.ofNat (fresh + 1)] := by
  rw [forkCount]
  split <;> rfl

theorem boundLabels_steps_branch (test : Test) (whenTrue whenFalse : List Statement) :
    boundLabels ((branch test whenTrue whenFalse).steps fresh exit)
      = boundLabels (blockSteps (fresh + forkCount whenFalse) exit whenTrue)
        ++ UInt16.ofNat fresh
          :: (boundLabels (blockSteps (fresh + forkCount whenFalse + blockLabelCount whenTrue) exit
              whenFalse)
            ++ if whenFalse.isEmpty then [] else [UInt16.ofNat (fresh + 1)]) := by
  have past : boundLabels (if whenFalse.isEmpty then [] else [.bind (UInt16.ofNat (fresh + 1))])
      = if whenFalse.isEmpty then [] else [UInt16.ofNat (fresh + 1)] := by
    split <;> rfl
  simp only [steps, Step.boundLabels_append, Step.boundLabels_map_emit, past]
  simp [boundLabels, Step.bound?, List.filterMap_cons]

theorem boundLabels_steps_loop (test : Option Test) (body : List Statement) :
    boundLabels ((loop test body).steps fresh exit)
      = UInt16.ofNat fresh
        :: (boundLabels (blockSteps (fresh + 2) (UInt16.ofNat (fresh + 1)) body)
          ++ [UInt16.ofNat (fresh + 1)]) := by
  simp only [steps, Step.boundLabels_append, Step.boundLabels_map_emit]
  simp [boundLabels, Step.bound?, List.filterMap_cons]

mutual

theorem perm_boundLabels_steps (fresh : Nat) (exit : Label) :
    (statement : Statement) →
      (boundLabels (statement.steps fresh exit)).Perm (labelsFrom fresh statement.labelCount)
  | perform _ | leaveLoop => .refl _
  | branch test whenTrue whenFalse => by
    have first := perm_boundLabels_blockSteps (fresh + forkCount whenFalse) exit whenTrue
    have second := perm_boundLabels_blockSteps
      (fresh + forkCount whenFalse + blockLabelCount whenTrue) exit whenFalse
    rw [boundLabels_steps_branch, labelCount, labelsFrom_add, labelsFrom_add, labelsFrom_forkCount,
      ← Nat.add_assoc, List.cons_append, List.cons_append, List.append_assoc]
    -- The first own label is bound between the branches, and the second one behind both.
    refine (first.append ((second.append_right _).cons _)).trans (List.perm_middle.trans (.cons _ ?_))
    rw [← List.append_assoc]
    exact List.perm_append_comm
  | loop test body => by
    have inner := perm_boundLabels_blockSteps (fresh + 2) (UInt16.ofNat (fresh + 1)) body
    rw [boundLabels_steps_loop, labelCount, labelsFrom_add]
    exact ((inner.append_right _).trans List.perm_append_comm).cons _

/-- **The steps of a block bind each of its labels once.** -/
theorem perm_boundLabels_blockSteps (fresh : Nat) (exit : Label) :
    (statements : List Statement) →
      (boundLabels (blockSteps fresh exit statements)).Perm
        (labelsFrom fresh (blockLabelCount statements))
  | [] => .refl _
  | statement :: statements => by
    rw [blockSteps, Step.boundLabels_append, blockLabelCount, labelsFrom_add]
    exact (perm_boundLabels_steps fresh exit statement).append
      (perm_boundLabels_blockSteps _ exit statements)

end

end Statement

/-! ### Where the first pass comes by -/

namespace Lowering

variable {tables : Tables} {body : List Event} {progress : Lowering} {tasks : List Task}

/-- **Where the first pass comes by**: how far it is, and what is left to be done. -/
inductive Reaches (tables : Tables) (body : List Event) : Lowering → List Task → Prop where
  | start : Reaches tables body .start
      (Task.block .item [] body ++ [.record (.emit ⟨.stop, []⟩), .record .exit])
  | record {progress : Lowering} {step : Step} {tasks : List Task}
    (reached : Reaches tables body progress (.record step :: tasks)) :
    Reaches tables body (progress.record step) tasks
  | closeLoop {progress : Lowering} {tasks : List Task}
    (reached : Reaches tables body progress (.closeLoop :: tasks)) :
    Reaches tables body progress.leaveLoop tasks
  | visit {progress after : Lowering} {event : Event} {path : NodePath} {tasks inner : List Task}
    (reached : Reaches tables body progress (.visit event path :: tasks))
    (visited : progress.visit tables event path = .ok (after, inner)) :
    Reaches tables body after (inner ++ tasks)

theorem run_visit {after : Lowering} {event : Event} {path : NodePath} {inner : List Task}
    (visited : progress.visit tables event path = .ok (after, inner)) (tasks : List Task) :
    progress.run tables (.visit event path :: tasks) = after.run tables (inner ++ tasks) := by
  rw [run]
  split
  · rename_i failed
    cases visited.symm.trans failed
  · rename_i found
    cases visited.symm.trans found
    rfl

/-- Wherever the pass comes by, it goes on to its end. -/
theorem Reaches.ofBody_eq (reached : Reaches tables body progress tasks) :
    Lowered.ofBody tables body
      = progress.run tables tasks >>= fun last =>
        .ok ⟨last.steps, last.labelCount, last.size⟩ := by
  induction reached with
  | start => rfl
  | record _ ih => rw [ih, run]
  | closeLoop _ ih =>
    rw [ih, run]
    rfl
  | visit _ visited ih => rw [ih, run_visit visited]

/-- The pass comes by at its end. -/
theorem Reaches.last {last : Lowering} (reached : Reaches tables body progress tasks)
    (done : progress.run tables tasks = .ok last) : Reaches tables body last [] := by
  induction progress, tasks using Lowering.run.induct tables with
  | case1 progress =>
    rw [run] at done
    cases done
    exact reached
  | case2 progress step tasks ih =>
    rw [run] at done
    exact ih reached.record done
  | case3 progress tasks ih =>
    rw [run] at done
    exact ih reached.closeLoop done
  | case4 progress event path tasks fault held =>
    rw [run] at done
    split at done
    · cases done
    · rename_i found
      cases held.symm.trans found
  | case5 progress event path tasks after inner held _ ih =>
    rw [run_visit held] at done
    exact ih (reached.visit held) done

/-- **A label is handed out.** With the steps `before` recorded, the first pass visits an event, and
this hands out the label of that number. -/
inductive HandsOut (tables : Tables) (body : List Event) (number : Nat) (before : List Step) :
    Prop where
  | visit {progress after : Lowering} {event : Event} {path : NodePath} {tasks inner : List Task}
    (reached : Reaches tables body progress (.visit event path :: tasks))
    (visited : progress.visit tables event path = .ok (after, inner))
    (least : progress.labelCount ≤ number) (less : number < after.labelCount)
    (recorded : progress.steps.toList = before)

/-- Every label that there is has been handed out. -/
theorem Reaches.exists_handsOut (reached : Reaches tables body progress tasks) {number : Nat}
    (counted : number < progress.labelCount) : ∃ before, HandsOut tables body number before := by
  induction reached with
  | start => exact absurd counted (Nat.not_lt_zero number)
  | record _ ih => exact ih counted
  | closeLoop _ ih => exact ih counted
  | @visit progress after event path tasks inner reached visited ih =>
    rcases Nat.lt_or_ge number progress.labelCount with early | late
    · exact ih early
    · exact ⟨_, .visit reached visited late counted rfl⟩

theorem labelCount_visitBranch (progress : Lowering) (path : NodePath) (jump : Instruction)
    (whenTrue whenFalse : List Event) :
    (progress.visitBranch path jump whenTrue whenFalse).1.labelCount
      = progress.labelCount + if whenFalse.isEmpty then 1 else 2 := by
  rw [visitBranch]
  split <;> rfl

/-- Visiting an event hands out the labels that its statement has for itself. -/
theorem labelCount_visit {after : Lowering} {event : Event} {path other : NodePath}
    {looped : Bool} {inner : List Task} {statement : Statement}
    (visited : progress.visit tables event path = .ok (after, inner))
    (accepted : event.statement tables looped other = .ok statement) :
    after.labelCount = progress.labelCount + statement.ownCount := by
  have source := Event.statement_cases accepted
  cases statement with
  | perform action =>
    rw [visit, source] at visited
    cases visited
    rfl
  | branch test first second =>
    obtain ⟨whenTrue, whenFalse, branches, _, secondAccepted⟩ := source
    rw [visit, branches.resolve_eq] at visited
    have same : progress.visitBranch path test.jump whenTrue whenFalse = (after, inner) :=
      Except.ok.inj visited
    have counted := labelCount_visitBranch progress path test.jump whenTrue whenFalse
    rw [same, ← Event.isEmpty_of_block secondAccepted] at counted
    exact counted
  | loop test body =>
    obtain ⟨events, loops, _⟩ := source
    rw [visit, loops.resolve_eq] at visited
    have begun : (progress.visitLoop path (test.map Test.jump) events).1 = _ :=
      visitLoop_fst test events
    rw [Except.ok.inj visited] at begun
    exact congrArg Lowering.labelCount begun
  | leaveLoop =>
    obtain ⟨rfl, _⟩ := source
    rw [visit, Event.resolve] at visited
    cases innermost : progress.loops <;> rw [innermost] at visited <;> cases visited
    rfl

theorem toList_steps_extend (steps : List Step) (labels : Nat) :
    (progress.extend steps labels).steps.toList = progress.steps.toList ++ steps :=
  Array.toList_appendList

/-- What is still to be done adds steps behind those that are recorded. -/
theorem exists_append_of_follow {last : Lowering}
    (done : progress.follow tables tasks = .ok last) :
    ∃ more, last.steps.toList = progress.steps.toList ++ more := by
  induction tasks generalizing progress with
  | nil =>
    cases done
    exact ⟨[], (List.append_nil _).symm⟩
  | cons task tasks ih =>
    cases task with
    | record step =>
      obtain ⟨more, behind⟩ := ih done
      rw [record_eq_extend, toList_steps_extend, List.append_assoc] at behind
      exact ⟨_, behind⟩
    | closeLoop =>
      obtain ⟨more, behind⟩ := ih done
      exact ⟨more, behind⟩
    | visit event path =>
      obtain ⟨statement, _, later⟩ := bind_eq_ok done
      obtain ⟨more, behind⟩ := ih later
      rw [add, toList_steps_extend, List.append_assoc] at behind
      exact ⟨_, behind⟩

/-- **The block of a label binds it.** Where a label is handed out, a block opens; the label is bound
in this block before it closes, and outside of the blocks within. -/
theorem HandsOut.exists_block {number : Nat} {before : List Step} {lowered : Lowered}
    (handed : HandsOut tables body number before)
    (accepted : Lowered.ofBody tables body = .ok lowered) :
    ∃ inside rest, lowered.steps.toList = before ++ .enter :: (inside ++ .exit :: rest)
      ∧ Step.Binds (UInt16.ofNat number) inside := by
  obtain ⟨reached, visited, least, less, rfl⟩ := handed
  rename_i progress after event path tasks inner
  rw [reached.ofBody_eq] at accepted
  obtain ⟨last, done, accepted⟩ := bind_eq_ok accepted
  cases accepted
  -- Followed by statements, the pass adds all steps of this event at once, its block included.
  rw [run_eq_follow, follow] at done
  obtain ⟨statement, stated, done⟩ := bind_eq_ok done
  obtain ⟨rest, behind⟩ := exists_append_of_follow done
  rw [labelCount_visit visited stated] at less
  have own : number - progress.labelCount < statement.ownCount := by omega
  obtain ⟨opened, binds⟩ :=
    Statement.binds_inside progress.labelCount progress.exit statement own
  rw [Nat.add_sub_of_le least] at binds
  refine ⟨_, rest, ?_, binds⟩
  rw [behind, add, toList_steps_extend, opened]
  simp only [List.append_assoc, List.cons_append, List.nil_append]

end Lowering
end Cartridge
