import Cartridge.Build.Supervision
import Cartridge.Build.Type
import Cartridge.Source.Files

/-!
# Taking turns

Only one build at a time may touch the staged sources and run a build program: the one that has the
lease. Starting a build makes it the active one and cancels the one that was. A cancelled build ends
as soon as it looks: while it waits for the lease, when it has it, before it starts its program, and
at any time while the program runs.

* `Orchestrator.start`, `Orchestrator.cancel`, `Orchestrator.cancelActive` — what callers do.
* `Orchestrator.acquire`, `Orchestrator.finish`, `Orchestrator.retire` — what builds do.
-/

namespace Cartridge

/-- How far a build has come. -/
inductive Phase where
  /-- It waits for the lease. -/
  | waiting
  /-- It has the lease. -/
  | leased
  /-- Its sources are staged. -/
  | staged
  /-- Its program runs, in the group of processes of that number. -/
  | running (group : Nat) (supervision : Supervision)
  /-- It is over. -/
  | finished (result : Except BuildError Unit)
  /-- It is over, and is not the active build any more. -/
  | retired (result : Except BuildError Unit)

/-- Whether a build can be told to stop: not after its run has returned. -/
def Phase.listens : Phase → Bool
  | waiting | leased | staged | running _ _ => true
  | finished _ | retired _ => false

/-- A build. -/
structure Build where
  sources : List SourceFile
  buildType : BuildType
  isCancelled : Bool
  phase : Phase
  /-- What it has reported, in order. -/
  events : Array BuildEvent
  /-- How much of that has been read. -/
  taken : Nat

namespace Build

/-- A build that has just been started. -/
def started (sources : List SourceFile) (buildType : BuildType) : Build :=
  ⟨sources, buildType, false, .waiting, #[], 0⟩

/-- Tells a build to stop. The flag stays as it is if the build does not listen any more. -/
def cancel (build : Build) : Build :=
  if build.phase.listens then { build with isCancelled := true } else build

/-- Notes how far a build has come. -/
def enter (phase : Phase) (build : Build) : Build := { build with phase }

/-- Reports events. -/
def report (events : Array BuildEvent) (build : Build) : Build :=
  { build with events := build.events ++ events }

/-- How a build has ended. -/
def result? (build : Build) : Option (Except BuildError Unit) :=
  match build.phase with
  | .finished result | .retired result => some result
  | .waiting | .leased | .staged | .running _ _ => none

end Build

/-- The last event of a build. -/
def completion (result : Except BuildError Unit) : BuildEvent :=
  match result with
  | .ok () => .complete none
  | .error error => .complete (some error.message)

/-- All builds, in the order in which they were started. -/
structure Orchestrator where
  builds : Array Build
  /-- The build that counts. -/
  active : Option Nat
  /-- The build that may touch the staged sources. -/
  lease : Option Nat

namespace Orchestrator

/-- No build has been started. -/
def empty : Orchestrator := ⟨#[], none, none⟩

/-- Changes a build. -/
def modify (orchestrator : Orchestrator) (number : Nat) (change : Build → Build) : Orchestrator :=
  { orchestrator with builds := orchestrator.builds.modify number change }

/-! ### What callers do -/

/-- Adds a build. What comes out is its number. -/
def enroll (orchestrator : Orchestrator) (build : Build) : Nat × Orchestrator :=
  (orchestrator.builds.size, { orchestrator with builds := orchestrator.builds.push build })

/-- Makes a build the active one. What comes out is the one that was. -/
def activate (orchestrator : Orchestrator) (number : Nat) : Option Nat × Orchestrator :=
  (orchestrator.active, { orchestrator with active := some number })

/-- Tells a build to stop. -/
def cancel (orchestrator : Orchestrator) (number : Nat) : Orchestrator :=
  orchestrator.modify number Build.cancel

/-- Tells a build to stop, if there is one. -/
def cancelIfAny (orchestrator : Orchestrator) (number : Option Nat) : Orchestrator :=
  match number with
  | some number => orchestrator.cancel number
  | none => orchestrator

/-- Starts a build, and tells the one that was active to stop. What comes out is its number. -/
def start (orchestrator : Orchestrator) (sources : List SourceFile) (buildType : BuildType) :
    Nat × Orchestrator :=
  let (number, enrolled) := orchestrator.enroll (.started sources buildType)
  let (displaced, active) := enrolled.activate number
  (number, active.cancelIfAny displaced)

/-- Tells the active build to stop. -/
def cancelActive (orchestrator : Orchestrator) : Orchestrator :=
  orchestrator.cancelIfAny orchestrator.active

/-! ### What builds do -/

/-- Gives a build the lease. -/
def acquire (orchestrator : Orchestrator) (number : Nat) : Orchestrator :=
  { orchestrator.modify number (Build.enter .leased) with lease := some number }

/-- Notes how far a build has come. -/
def enter (orchestrator : Orchestrator) (number : Nat) (phase : Phase) : Orchestrator :=
  orchestrator.modify number (Build.enter phase)

/-- Reports events of a build. -/
def report (orchestrator : Orchestrator) (number : Nat) (events : Array BuildEvent) :
    Orchestrator :=
  orchestrator.modify number (Build.report events)

/-- Ends a build. It gives up the lease if it has it. -/
def finish (orchestrator : Orchestrator) (number : Nat) (result : Except BuildError Unit) :
    Orchestrator :=
  { (orchestrator.enter number (.finished result)).report number #[completion result] with
    lease := if orchestrator.lease = some number then none else orchestrator.lease }

/-- Makes a build that has ended no longer the active one, if it still is. -/
def retire (orchestrator : Orchestrator) (number : Nat) (result : Except BuildError Unit) :
    Orchestrator :=
  { orchestrator.enter number (.retired result) with
    active := if orchestrator.active = some number then none else orchestrator.active }

/-- Reads the next event of a build, if it has been reported. -/
def take (orchestrator : Orchestrator) (number : Nat) : Option (BuildEvent × Orchestrator) := do
  let build ← orchestrator.builds[number]?
  let event ← build.events[build.taken]?
  return (event, orchestrator.modify number fun build => { build with taken := build.taken + 1 })

end Orchestrator
end Cartridge
