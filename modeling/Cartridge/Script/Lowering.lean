import Cartridge.Script.Resolution
import Cartridge.Table.Total

/-!
# Lowering event trees to steps

The first pass of the compiler. It takes the tree apart with a stack of tasks and leaves a flat list
of steps: instructions, labels, and the borders of the blocks that labels belong to.

* `Lowered.ofBody` — the steps of a script, or the fault of its first bad event.
* `Lowering.listWeight_visit` — visiting an event leaves less work than there was, so the pass ends.
-/

namespace Cartridge

/-- One step of a lowered script. -/
inductive Step where
  /-- A block of labels opens. -/
  | enter
  /-- The innermost block closes. -/
  | exit
  | emit (instruction : Instruction)
  /-- The label stands for this place. -/
  | bind (target : Label)
  deriving DecidableEq, Repr

/-- What is still to be done while a tree is taken apart. -/
inductive Task where
  | visit (event : Event) (path : NodePath)
  | record (step : Step)
  /-- The body of the innermost loop is over. -/
  | closeLoop

/-- The work in a task. -/
def Task.weight : Task → Nat
  | visit event _ => event.weight
  | record _ | closeLoop => 1

/-- The work in a list of tasks; each of them counts for itself, too. -/
def Task.listWeight (tasks : List Task) : Nat :=
  total (tasks.map fun task => task.weight + 1)

/-- The tasks of visiting the events of a list that hangs below a node. -/
def Task.block (descend : Nat → Descent) (path : NodePath) (events : List Event) : List Task :=
  events.mapIdx fun index event => .visit event (descend index :: path)

/-- How far a tree has been taken apart. -/
structure Lowering where
  /-- The steps so far. -/
  steps : Array Step
  /-- How many bytes their instructions take. -/
  size : Nat
  /-- How many labels have been handed out. -/
  labelCount : Nat
  /-- The labels behind the open loops, the innermost first. -/
  loops : List Label

namespace Lowering

/-- A script before its first event. -/
def start : Lowering := ⟨#[.enter], 0, 0, []⟩

/-- Adds a step. -/
def record (progress : Lowering) (step : Step) : Lowering :=
  { progress with
    steps := progress.steps.push step
    size := match step with
      | .emit instruction => progress.size + instruction.size
      | _ => progress.size }

/-- The next label, as a number of two bytes. -/
def nextLabel (progress : Lowering) : Label := UInt16.ofNat progress.labelCount

/-- Hands out the next label. -/
def takeLabel (progress : Lowering) : Lowering :=
  { progress with labelCount := progress.labelCount + 1 }

/-- Starts a conditional. Its branches, the labels and the jump between them are left as tasks. The
jump over the second branch is only needed if that one holds something. -/
def visitBranch (progress : Lowering) (path : NodePath) (jump : Instruction)
    (whenTrue whenFalse : List Event) : Lowering × List Task :=
  let other := progress.nextLabel
  let begun := (progress.takeLabel.record .enter).record (.emit (jump.toward other))
  if whenFalse.isEmpty then
    (begun, Task.block .whenTrue path whenTrue ++ [.record (.bind other), .record .exit])
  else
    let past := begun.nextLabel
    (begun.takeLabel,
      Task.block .whenTrue path whenTrue
        ++ .record (.emit (Instruction.toward ⟨.jump, []⟩ past)) :: .record (.bind other)
        :: Task.block .whenFalse path whenFalse ++ [.record (.bind past), .record .exit])

/-- Starts a loop. Its body, the jump back and the label behind it are left as tasks. -/
def visitLoop (progress : Lowering) (path : NodePath) (jump : Option Instruction)
    (body : List Event) : Lowering × List Task :=
  let entry := progress.nextLabel
  let past := progress.takeLabel.nextLabel
  let opened := (progress.takeLabel.takeLabel.record .enter).record (.bind entry)
  let opened := { opened with loops := past :: opened.loops }
  let begun := match jump with
    | some jump => opened.record (.emit (jump.toward past))
    | none => opened
  (begun,
    Task.block .body path body
      ++ [.closeLoop, .record (.emit (Instruction.toward ⟨.jump, []⟩ entry)),
        .record (.bind past), .record .exit])

/-- Visits an event: what it adds at once, and what it leaves to be done. -/
def visit (tables : Tables) (progress : Lowering) (event : Event) (path : NodePath) :
    Except NodeFault (Lowering × List Task) :=
  match event.resolve tables with
  | .error fault => .error fault
  | .ok (.plain instruction) => .ok (progress.record (.emit instruction), [])
  | .ok (.branch jump whenTrue whenFalse) => .ok (progress.visitBranch path jump whenTrue whenFalse)
  | .ok (.loop jump body) => .ok (progress.visitLoop path jump body)
  | .ok .leaveLoop =>
    match progress.loops with
    | past :: _ => .ok (progress.record (.emit (Instruction.toward ⟨.jump, []⟩ past)), [])
    | [] => .error .strayLeave

/-! ### The pass ends -/

theorem listWeight_nil : Task.listWeight [] = 0 := rfl

theorem listWeight_cons (task : Task) (tasks : List Task) :
    Task.listWeight (task :: tasks) = task.weight + 1 + Task.listWeight tasks := by
  simp [Task.listWeight]

theorem listWeight_append (first second : List Task) :
    Task.listWeight (first ++ second) = Task.listWeight first + Task.listWeight second := by
  simp [Task.listWeight]

theorem listWeight_block (descend : Nat → Descent) (path : NodePath) (events : List Event) :
    Task.listWeight (Task.block descend path events) = Event.blockWeight events := by
  induction events generalizing descend with
  | nil => simp [Task.block, Task.listWeight, Event.blockWeight]
  | cons event events ih =>
    have tail := ih (fun index => descend (index + 1))
    simp only [Task.block, List.mapIdx_cons, listWeight_cons, Task.weight,
      Event.blockWeight] at tail ⊢
    omega

/-- A conditional leaves the work in its branches and in four more steps. -/
theorem listWeight_visitBranch (progress : Lowering) (path : NodePath) (jump : Instruction)
    (whenTrue whenFalse : List Event) :
    Task.listWeight (progress.visitBranch path jump whenTrue whenFalse).2
      ≤ Event.blockWeight whenTrue + Event.blockWeight whenFalse + 8 := by
  rw [visitBranch]
  split <;>
    simp only [listWeight_append, listWeight_cons, listWeight_nil, listWeight_block,
      Task.weight] <;>
    omega

/-- A loop leaves the work in its body and in four more steps. -/
theorem listWeight_visitLoop (progress : Lowering) (path : NodePath) (jump : Option Instruction)
    (body : List Event) :
    Task.listWeight (progress.visitLoop path jump body).2 ≤ Event.blockWeight body + 8 := by
  simp only [visitLoop, listWeight_append, listWeight_cons, listWeight_nil, listWeight_block,
    Task.weight]
  omega

/-- Visiting an event leaves no more work than the event was. -/
theorem listWeight_visit {tables : Tables} {progress after : Lowering} {event : Event}
    {path : NodePath} {tasks : List Task}
    (visited : progress.visit tables event path = .ok (after, tasks)) :
    Task.listWeight tasks ≤ event.weight := by
  unfold visit at visited
  split at visited
  · cases visited
  · cases visited
    exact Nat.zero_le _
  · rename_i resolved
    have left : _ = tasks := congrArg Prod.snd (Except.ok.inj visited)
    rw [← Event.weight_resolve resolved, ← left]
    exact listWeight_visitBranch ..
  · rename_i resolved
    have left : _ = tasks := congrArg Prod.snd (Except.ok.inj visited)
    rw [← Event.weight_resolve resolved, ← left]
    exact listWeight_visitLoop ..
  · split at visited <;> cases visited
    exact Nat.zero_le _

/-- Does the tasks, the first one first. -/
def run (tables : Tables) (progress : Lowering) :
    List Task → Except (NodePath × NodeFault) Lowering
  | [] => .ok progress
  | .record step :: tasks => (progress.record step).run tables tasks
  | .closeLoop :: tasks => { progress with loops := progress.loops.tail }.run tables tasks
  | .visit event path :: tasks =>
    match held : progress.visit tables event path with
    | .error fault => .error (path, fault)
    | .ok (after, inner) =>
      have _lighter := listWeight_visit held
      after.run tables (inner ++ tasks)
termination_by tasks => Task.listWeight tasks
decreasing_by
  all_goals simp only [listWeight_cons, listWeight_append, Task.weight]
  all_goals omega

end Lowering

/-- The steps of a script. -/
structure Lowered where
  steps : Array Step
  labelCount : Nat
  size : Nat

namespace Lowered

/-- The steps of a script, which stops at its end. -/
def ofBody (tables : Tables) (body : List Event) : Except (NodePath × NodeFault) Lowered := do
  let progress ← Lowering.start.run tables
    (Task.block .item [] body ++ [.record (.emit ⟨.stop, []⟩), .record .exit])
  return ⟨progress.steps, progress.labelCount, progress.size⟩

end Lowered
end Cartridge
