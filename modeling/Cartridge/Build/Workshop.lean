import Cartridge.Build.Orchestrator
import Cartridge.Build.Staging
import Cartridge.Shell.Step

/-!
# Running builds

A workshop is where builds are run: the orchestrator, and the machine that holds the files and runs
the build programs. Builds go on only while somebody waits for what they report.

* `Workshop.step?` — the next thing that a build does.
* `Workshop.nextEvent` — waits for the next event of a build.
-/

namespace Cartridge

open Shell (Machine)

/-- Where builds are run. -/
structure Workshop where
  config : Config
  /-- The working directory. -/
  here : Location
  orchestrator : Orchestrator
  machine : Machine

namespace Workshop

/-- Where no build has been started. -/
def start (config : Config) (here : Location) (files : FileSystem) : Workshop :=
  ⟨config, here, .empty, .start files⟩

/-- Changes the orchestrator. -/
def orchestrate (workshop : Workshop) (change : Orchestrator → Orchestrator) : Workshop :=
  { workshop with orchestrator := change workshop.orchestrator }

/-- Stages the sources of a build. -/
def stage (workshop : Workshop) (number : Nat) (build : Build) : Workshop :=
  let ⟨config, here, orchestrator, machine⟩ := workshop
  let (result, files) := (Staging.stage here config build.sources).run.run machine.files
  let staged := match result with
    | .ok () => orchestrator.enter number .staged
    | .error error => orchestrator.finish number (.error error)
  ⟨config, here, staged, { machine with files }⟩

/-- Starts the program of a build. -/
def spawn (workshop : Workshop) (number : Nat) (build : Build) : Workshop :=
  let ⟨config, here, orchestrator, machine⟩ := workshop
  let failed (fault : SpawnFault) : Workshop :=
    ⟨config, here, orchestrator.finish number (.error (.spawn config.buildProgram fault)), machine⟩
  if config.toolchainBin.contains ':' then failed .separatorInPath
  else if [config.buildProgram, config.toolchainBin, config.srcRoot].any (·.contains '\x00') then
    failed .badText
  else
    match machine.spawn here config.srcRoot config.buildProgram [build.buildType.name]
      (config.toolchainBin :: Machine.systemDirectories) with
    | .ok (group, machine) =>
      ⟨config, here, orchestrator.enter number (.running group .start), machine⟩
    | .error fault => failed (.file fault)

/-- Takes in what a program has printed, and that a channel is closed. -/
def observe (marker : String) (machine : Machine) (group : Nat)
    (printed : List (Channel × List UInt8)) (supervision : Supervision) :
    Supervision × Array BuildEvent :=
  let received := printed.foldl (fun (supervision, events) (channel, bytes) =>
    let (supervision, more) := supervision.receive marker channel bytes
    (supervision, events ++ more.toArray)) (supervision, (#[] : Array BuildEvent))
  [Channel.out, .err].foldl (fun (supervision, events) channel =>
    if machine.isOpen group channel then (supervision, events)
    else
      let (supervision, more) := supervision.close marker channel
      (supervision, events ++ more.toArray)) received

/-- Watches the program of a build. Nothing comes out if nothing has happened. -/
def watch? (workshop : Workshop) (number group : Nat) (supervision : Supervision) :
    Option Workshop :=
  let ⟨config, here, orchestrator, machine⟩ := workshop
  let (printed, machine) := machine.takePrinted group
  let (supervision, events) := observe config.fatalMarker machine group printed supervision
  let reported :=
    (orchestrator.enter number (.running group supervision)).report number events
  let isClosed := !machine.isOpen group .out && !machine.isOpen group .err
  match if isClosed then machine.ending? group else none with
  | some status =>
    some ⟨config, here,
      reported.finish number (supervision.verdict config.buildProgram status), machine⟩
  | none =>
    if printed.isEmpty && events.isEmpty then none
    else some ⟨config, here, reported, machine⟩

/-- The next thing that a build does. Nothing comes out if it must wait. -/
def step? (workshop : Workshop) (number : Nat) (build : Build) : Option Workshop :=
  let finished (result : Except BuildError Unit) : Workshop :=
    workshop.orchestrate (·.finish number result)
  match build.phase with
  | .waiting =>
    if build.isCancelled then some (finished (.error .cancelled))
    else if workshop.orchestrator.lease.isNone then some (workshop.orchestrate (·.acquire number))
    else none
  | .leased =>
    if build.isCancelled then some (finished (.error .cancelled))
    else some (workshop.stage number build)
  | .staged =>
    if build.isCancelled then some (finished (.error .cancelled))
    else some (workshop.spawn number build)
  | .running group supervision =>
    if build.isCancelled then
      let stopped := finished (.error .cancelled)
      some { stopped with machine := stopped.machine.killGroup group }
    else workshop.watch? number group supervision
  | .finished result => some (workshop.orchestrate (·.retire number result))
  | .retired _ => none

/-- Lets the processes run until all of them wait or have ended. -/
def settled (workshop : Workshop) : Workshop :=
  { workshop with machine := workshop.machine.run }

/-- The next thing that happens: one build does something, or else time passes. -/
def happen? (workshop : Workshop) : Option Workshop :=
  match workshop.orchestrator.builds.toList.zipIdx.findSome? fun (build, number) =>
      workshop.step? number build with
  | some next => some next.settled
  | none => workshop.machine.sleep?.map fun machine => { workshop with machine }.settled

/-- Lets things happen until something comes true, and no more of them than given. -/
def happenUntil (workshop : Workshop) (isEnough : Workshop → Bool) : (fuel : Nat) → Workshop
  | 0 => workshop
  | fuel + 1 =>
    if isEnough workshop then workshop
    else
      match workshop.happen? with
      | some next => next.happenUntil isEnough fuel
      | none => workshop

/-- The greatest number of things that are waited for. -/
def patience : Nat := 1000000

/-- Whether a build is over, and not active any more. -/
def isRetired (workshop : Workshop) (number : Nat) : Bool :=
  match workshop.orchestrator.builds[number]? with
  | some build =>
    match build.phase with
    | .retired _ => true
    | .waiting | .leased | .staged | .running _ _ | .finished _ => false
  | none => true

/-- Waits for the next event of a build. Nothing comes out if there is no more. -/
def nextEvent (workshop : Workshop) (number : Nat) : Option BuildEvent × Workshop :=
  let ready := workshop.happenUntil (fun workshop =>
    (workshop.orchestrator.take number).isSome || workshop.isRetired number) patience
  match ready.orchestrator.take number with
  | some (event, orchestrator) => (some event, { ready with orchestrator })
  | none => (none, ready)

/-- Waits until a build is over. -/
def finish (workshop : Workshop) (number : Nat) :
    Option (Except BuildError Unit) × Workshop :=
  let done := workshop.happenUntil (·.isRetired number) patience
  ((done.orchestrator.builds[number]?).bind Build.result?, done)

end Workshop
end Cartridge
