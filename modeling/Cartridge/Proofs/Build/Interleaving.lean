import Mathlib.Logic.Function.Basic
import Mathlib.Logic.Relation
import Cartridge.Build.Orchestrator

/-!
# How builds interleave

Builds and their callers run side by side, and anything may happen between two of their steps. A
step is what is done at once: it takes a lock, sends a signal, or looks at a flag.

* `Stage`: how far a call that starts a build, and then the build, has come from step to step.
* `Site`: the orchestrator, how far all builds have come, and their programs.
* `Site.Step`: one step of a caller, of a build, or of a program.
* `Site.Reachable`: what many steps lead to, in any order.
-/

namespace Cartridge

/-- How far a build has come, from the call that starts it on. -/
inductive Stage where
  /-- There is no build with that number. -/
  | absent
  /-- The call has a number for the build. -/
  | numbered
  /-- The build is the active one. The one that was has not been told to stop. -/
  | swapped (displaced : Option Nat)
  /-- It has been told. The task of the build does not run. -/
  | announced
  /-- The task waits for the lease. -/
  | waiting
  /-- It has the lease, and has not looked at the flag. -/
  | granted
  /-- The flag was clear, so it will stage the sources. -/
  | cleared
  /-- The sources are being staged. The lease is with the one that stages them. -/
  | staging
  /-- They are staged, and the lease is back. It has not looked at the flag again. -/
  | staged
  /-- The flag was clear, so it will start the program. -/
  | ready
  /-- The program has been started, and is watched. -/
  | watching
  /-- The program has been killed. -/
  | killing
  /-- There is a result. The lease is still held. -/
  | ended (result : Except BuildError Unit)
  /-- The lease is not held any more. -/
  | released (result : Except BuildError Unit)
  /-- The run has returned, so nobody listens for a signal. The result has not been told. -/
  | returned (result : Except BuildError Unit)
  /-- The result has been told. -/
  | concluded (result : Except BuildError Unit)
  /-- It is not the active build any more. -/
  | retired (result : Except BuildError Unit)

namespace Stage

/-- Whether a build has the lease. -/
@[simp] def hasLease : Stage → Bool
  | granted | cleared | staging | staged | ready | watching | killing | ended _ => true
  | absent | numbered | swapped _ | announced | waiting | released _ | returned _ | concluded _
  | retired _ => false

/-- Whether a build looks after its program. -/
@[simp] def watches : Stage → Bool
  | watching | killing => true
  | _ => false

theorem hasLease_of_watches {stage : Stage} (watches : stage.watches = true) :
    stage.hasLease = true := by
  cases stage <;> first | rfl | cases watches

end Stage

/-- What has become of the program of a build. -/
inductive Program where
  /-- It has not been started. -/
  | absent
  | alive
  /-- It has ended, and nobody has asked how. -/
  | exited
  /-- It has ended, and is forgotten. -/
  | reaped
  deriving DecidableEq, Repr

/-- Whether there is a process of a program. -/
@[simp] def Program.isUnreaped : Program → Bool
  | alive | exited => true
  | absent | reaped => false

namespace Orchestrator

/-- A build that has the lease gives it up. -/
def release (orchestrator : Orchestrator) (number : Nat) : Orchestrator :=
  { orchestrator with
    lease := if orchestrator.lease = some number then none else orchestrator.lease }

/-- The run of a build returns. From then on it does not listen. -/
def hangUp (orchestrator : Orchestrator) (number : Nat) (result : Except BuildError Unit) :
    Orchestrator := orchestrator.enter number (.finished result)

/-- A build that is over tells its result. -/
def conclude (orchestrator : Orchestrator) (number : Nat) (result : Except BuildError Unit) :
    Orchestrator := orchestrator.report number #[completion result]

/-- Ending a build is three steps: it gives up the lease, it returns, and then it tells its
result. -/
theorem finish_eq (orchestrator : Orchestrator) (number : Nat) (result : Except BuildError Unit) :
    orchestrator.finish number result
      = ((orchestrator.release number).hangUp number result).conclude number result := rfl

/-! ### The lease and the number of builds -/

variable (orchestrator : Orchestrator) (number : Nat)

theorem size_modify (change : Build → Build) :
    (orchestrator.modify number change).builds.size = orchestrator.builds.size :=
  Array.size_modify

theorem lease_cancelIfAny (displaced : Option Nat) :
    (orchestrator.cancelIfAny displaced).lease = orchestrator.lease := by
  cases displaced <;> rfl

theorem size_cancelIfAny (displaced : Option Nat) :
    (orchestrator.cancelIfAny displaced).builds.size = orchestrator.builds.size := by
  cases displaced with
  | none => rfl
  | some displaced => exact orchestrator.size_modify displaced _

theorem size_report_enter (phase : Phase) (events : Array BuildEvent) :
    ((orchestrator.enter number phase).report number events).builds.size
      = orchestrator.builds.size :=
  (size_modify _ number _).trans (orchestrator.size_modify number _)

/-- Reading an event changes only how much of a build has been read. -/
theorem eq_modify_of_take {event : BuildEvent} {after : Orchestrator}
    (taken : orchestrator.take number = some (event, after)) :
    after = orchestrator.modify number fun build => { build with taken := build.taken + 1 } := by
  unfold take at taken
  obtain ⟨build, _, taken⟩ := Option.bind_eq_some_iff.1 taken
  obtain ⟨_, _, taken⟩ := Option.bind_eq_some_iff.1 taken
  cases taken
  rfl

theorem take_eq_some {event : BuildEvent} {after : Orchestrator}
    (taken : orchestrator.take number = some (event, after)) :
    ∃ change : Build → Build, (∀ build, (change build).phase = build.phase) ∧
      after = orchestrator.modify number change := by
  refine ⟨_, fun build => ?_, eq_modify_of_take orchestrator number taken⟩
  rfl

end Orchestrator

/-- The orchestrator and all builds, between two steps. -/
structure Site where
  orchestrator : Orchestrator
  stage : Nat → Stage
  program : Nat → Program
  /-- The build that the call for a build has displaced and has not sent its signal to. If nobody
  listens when it tries, the channel refuses the signal, and it is not sent. -/
  unsent : Nat → Option Nat

namespace Site

/-- No build has been started. -/
def start : Site := ⟨.empty, fun _ => .absent, fun _ => .absent, fun _ => none⟩

/-- Changes the orchestrator. -/
def orchestrate (site : Site) (change : Orchestrator → Orchestrator) : Site :=
  { site with orchestrator := change site.orchestrator }

/-- Notes how far a build has come. -/
def move (site : Site) (number : Nat) (stage : Stage) : Site :=
  { site with stage := Function.update site.stage number stage }

/-- Notes what has become of the program of a build. -/
def note (site : Site) (number : Nat) (program : Program) : Site :=
  { site with program := Function.update site.program number program }

/-- Notes which build the call for a build has still to send its signal to. -/
def owe (site : Site) (number : Nat) (displaced : Option Nat) : Site :=
  { site with unsent := Function.update site.unsent number displaced }

section Parts

variable (site : Site) (change : Orchestrator → Orchestrator) (number : Nat)

@[simp] theorem orchestrator_orchestrate :
    (site.orchestrate change).orchestrator = change site.orchestrator := rfl

@[simp] theorem stage_orchestrate : (site.orchestrate change).stage = site.stage := rfl

@[simp] theorem program_orchestrate : (site.orchestrate change).program = site.program := rfl

@[simp] theorem unsent_orchestrate : (site.orchestrate change).unsent = site.unsent := rfl

@[simp] theorem orchestrator_move (stage : Stage) :
    (site.move number stage).orchestrator = site.orchestrator := rfl

@[simp] theorem stage_move (stage : Stage) (other : Nat) :
    (site.move number stage).stage other = if other = number then stage else site.stage other :=
  Function.update_apply _ _ _ _

@[simp] theorem program_move (stage : Stage) : (site.move number stage).program = site.program :=
  rfl

@[simp] theorem unsent_move (stage : Stage) : (site.move number stage).unsent = site.unsent := rfl

@[simp] theorem orchestrator_note (program : Program) :
    (site.note number program).orchestrator = site.orchestrator := rfl

@[simp] theorem stage_note (program : Program) : (site.note number program).stage = site.stage :=
  rfl

@[simp] theorem program_note (program : Program) (other : Nat) :
    (site.note number program).program other
      = if other = number then program else site.program other :=
  Function.update_apply _ _ _ _

@[simp] theorem unsent_note (program : Program) :
    (site.note number program).unsent = site.unsent := rfl

@[simp] theorem orchestrator_owe (displaced : Option Nat) :
    (site.owe number displaced).orchestrator = site.orchestrator := rfl

@[simp] theorem stage_owe (displaced : Option Nat) :
    (site.owe number displaced).stage = site.stage := rfl

@[simp] theorem program_owe (displaced : Option Nat) :
    (site.owe number displaced).program = site.program := rfl

@[simp] theorem unsent_owe (displaced : Option Nat) (other : Nat) :
    (site.owe number displaced).unsent other
      = if other = number then displaced else site.unsent other :=
  Function.update_apply _ _ _ _

end Parts

/-- Whether a build has been told to stop. -/
def isCancelled (site : Site) (number : Nat) : Bool :=
  (site.orchestrator.builds[number]?).any Build.isCancelled

/-- Whether a build can be told to stop. -/
def listens (site : Site) (number : Nat) : Bool :=
  (site.orchestrator.builds[number]?).any fun build => build.phase.listens

/-- **One step.** The first ones are those of callers. A build may be told to stop at any time. -/
inductive Step (site : Site) : Site → Prop
  | enroll (sources : List SourceFile) (buildType : BuildType) :
    Step site ((site.orchestrate fun orchestrator =>
        (orchestrator.enroll (.started sources buildType)).2).move
      site.orchestrator.builds.size .numbered)
  | activate {number : Nat} (here : site.stage number = .numbered) :
    Step site (((site.orchestrate fun orchestrator => (orchestrator.activate number).2).move number
      (.swapped (site.orchestrator.activate number).1)).owe number
        (site.orchestrator.activate number).1)
  | signal {number : Nat} {displaced : Option Nat} (here : site.stage number = .swapped displaced) :
    Step site (((site.orchestrate (·.cancelIfAny displaced)).move number .announced).owe number
      (displaced.filter fun other => !site.listens other))
  | launch {number : Nat} (here : site.stage number = .announced) :
    Step site (site.move number .waiting)
  | cancel (number : Nat) : Step site (site.orchestrate (·.cancel number))
  | cancelActive : Step site (site.orchestrate (·.cancelActive))
  | take {number : Nat} {event : BuildEvent} {after : Orchestrator}
    (taken : site.orchestrator.take number = some (event, after)) :
    Step site (site.orchestrate fun _ => after)
  /- The lease: a build gets it when nobody has it, or gives up waiting. -/
  | acquire {number : Nat} (here : site.stage number = .waiting)
    (free : site.orchestrator.lease = none) :
    Step site ((site.orchestrate (·.acquire number)).move number .granted)
  | giveUp {number : Nat} (here : site.stage number = .waiting)
    (cancelled : site.isCancelled number = true) :
    Step site (site.move number (.released (.error .cancelled)))
  /- The flag: a build looks at it when it has the lease and when its sources are staged. -/
  | clear {number : Nat} (here : site.stage number = .granted)
    (goesOn : site.isCancelled number = false) : Step site (site.move number .cleared)
  | stop {number : Nat} (here : site.stage number = .granted ∨ site.stage number = .staged)
    (cancelled : site.isCancelled number = true) :
    Step site (site.move number (.ended (.error .cancelled)))
  | beginStaging {number : Nat} (here : site.stage number = .cleared) :
    Step site (site.move number .staging)
  | endStaging {number : Nat} (here : site.stage number = .staging) :
    Step site ((site.orchestrate (·.enter number .staged)).move number .staged)
  | failStaging {number : Nat} (error : BuildError) (here : site.stage number = .staging) :
    Step site (site.move number (.ended (.error error)))
  | prepare {number : Nat} (here : site.stage number = .staged)
    (goesOn : site.isCancelled number = false) : Step site (site.move number .ready)
  | spawn {number : Nat} (group : Nat) (here : site.stage number = .ready) :
    Step site (((site.orchestrate (·.enter number (.running group .start))).move number
      .watching).note number .alive)
  | failSpawn {number : Nat} (error : BuildError) (here : site.stage number = .ready) :
    Step site (site.move number (.ended (.error error)))
  | forward {number : Nat} (group : Nat) (supervision : Supervision) (events : Array BuildEvent)
    (here : site.stage number = .watching) :
    Step site (site.orchestrate fun orchestrator =>
      (orchestrator.enter number (.running group supervision)).report number events)
  /- The program: it ends when it likes to, or because it is killed. -/
  | exit {number : Nat} (alive : site.program number = .alive) :
    Step site (site.note number .exited)
  | reap {number : Nat} (result : Except BuildError Unit) (here : site.stage number = .watching)
    (exited : site.program number = .exited) :
    Step site ((site.note number .reaped).move number (.ended result))
  | kill {number : Nat} (here : site.stage number = .watching)
    (cancelled : site.isCancelled number = true) : Step site (site.move number .killing)
  | reapKilled {number : Nat} (here : site.stage number = .killing)
    (exited : site.program number = .exited) :
    Step site ((site.note number .reaped).move number (.ended (.error .cancelled)))
  /- The end: the lease is given up first, then nobody listens, then the result is told. -/
  | release {number : Nat} {result : Except BuildError Unit}
    (here : site.stage number = .ended result) :
    Step site ((site.orchestrate (·.release number)).move number (.released result))
  | hangUp {number : Nat} {result : Except BuildError Unit}
    (here : site.stage number = .released result) :
    Step site ((site.orchestrate (·.hangUp number result)).move number (.returned result))
  | conclude {number : Nat} {result : Except BuildError Unit}
    (here : site.stage number = .returned result) :
    Step site ((site.orchestrate (·.conclude number result)).move number (.concluded result))
  | retire {number : Nat} {result : Except BuildError Unit}
    (here : site.stage number = .concluded result) :
    Step site ((site.orchestrate (·.retire number result)).move number (.retired result))

/-- **What steps lead to**, in any order, from where no build has been started. -/
def Reachable (site : Site) : Prop := Relation.ReflTransGen Step start site

end Site
end Cartridge
