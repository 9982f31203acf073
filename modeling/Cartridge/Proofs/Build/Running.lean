import Cartridge.Build.Workshop
import Cartridge.Proofs.Build.Exclusion

/-!
# Builds of a workshop take turns

A workshop lets one thing happen after the other. Each of them is some steps of one build, or of a
caller, one right after the other.

* `Site.IsAtRest`: how far builds have come when none of them is in the midst of something.
* `Workshop.Possible`: what a workshop can come to.
* `Workshop.Possible.lease_iff`: the build of it that has the lease is the one that may touch the
  staged sources.
-/

namespace Cartridge

/-- How far a build has come that is not in the midst of something. -/
@[simp] def Phase.stage : Phase → Stage
  | waiting => .waiting
  | leased => .granted
  | staged => .staged
  | running _ _ => .watching
  | finished result => .concluded result
  | retired result => .retired result

/-- Telling a build to stop does not change how far it has come. -/
theorem Build.phase_cancel (build : Build) : build.cancel.phase = build.phase := by
  unfold cancel
  split <;> rfl

namespace Orchestrator

variable (orchestrator : Orchestrator) (number other : Nat)

/-- How far a build has come. -/
def phase? : Option Phase := (orchestrator.builds[number]?).map Build.phase

theorem phase?_modify_of_ne (change : Build → Build) (different : other ≠ number) :
    (orchestrator.modify number change).phase? other = orchestrator.phase? other := by
  rw [phase?, modify, Array.getElem?_modify, if_neg (Ne.symm different), phase?]

theorem phase?_modify_of_keeps (change : Build → Build)
    (keeps : ∀ build, (change build).phase = build.phase) :
    (orchestrator.modify number change).phase? other = orchestrator.phase? other := by
  have keeps : Build.phase ∘ change = Build.phase := funext keeps
  rw [phase?, modify, Array.getElem?_modify]
  split
  · rw [Option.map_map, keeps, phase?]
  · rfl

theorem phase?_cancelIfAny (displaced : Option Nat) :
    (orchestrator.cancelIfAny displaced).phase? other = orchestrator.phase? other := by
  cases displaced with
  | none => rfl
  | some displaced => exact orchestrator.phase?_modify_of_keeps displaced other _ Build.phase_cancel

theorem phase?_enroll_of_ne (build : Build) (different : other ≠ orchestrator.builds.size) :
    (orchestrator.enroll build).2.phase? other = orchestrator.phase? other := by
  show ((orchestrator.builds.push build)[other]?).map Build.phase = _
  rw [Array.getElem?_push, if_neg different, phase?]

theorem phase?_enroll_self (build : Build) :
    (orchestrator.enroll build).2.phase? orchestrator.builds.size = some build.phase := by
  show ((orchestrator.builds.push build)[orchestrator.builds.size]?).map Build.phase = _
  rw [Array.getElem?_push, if_pos rfl]
  rfl

theorem phase?_start_size (sources : List SourceFile) (buildType : BuildType) :
    (orchestrator.start sources buildType).2.phase? orchestrator.builds.size = some .waiting := by
  refine (phase?_cancelIfAny _ _ _).trans ?_
  exact orchestrator.phase?_enroll_self (.started sources buildType)

variable {orchestrator number}

theorem eq_of_phase?_enter {phase found : Phase}
    (here : (orchestrator.enter number phase).phase? number = some found) : found = phase := by
  rw [phase?, enter, modify, Array.getElem?_modify, if_pos rfl, Option.map_map] at here
  obtain ⟨_, _, same⟩ := Option.map_eq_some_iff.1 here
  exact same.symm

theorem phase?_report (events : Array BuildEvent) :
    (orchestrator.report number events).phase? other = orchestrator.phase? other :=
  phase?_modify_of_keeps _ _ _ _ fun _ => rfl

theorem eq_of_phase?_report_enter {phase found : Phase} {events : Array BuildEvent}
    (here : ((orchestrator.enter number phase).report number events).phase? number = some found) :
    found = phase := by
  rw [phase?_report] at here
  exact eq_of_phase?_enter here

theorem phase?_report_enter_of_ne (phase : Phase) (events : Array BuildEvent)
    (different : other ≠ number) :
    ((orchestrator.enter number phase).report number events).phase? other
      = orchestrator.phase? other := by
  rw [phase?_report]
  exact phase?_modify_of_ne _ _ _ _ different

end Orchestrator

namespace Site

/-- All builds but one, which steps lead to, are not in the midst of something. -/
structure RestsBut (site : Site) (number : Nat) : Prop where
  reachable : site.Reachable
  stage : ∀ other, other ≠ number → ∀ phase, site.orchestrator.phase? other = some phase →
    site.stage other = phase.stage
  program : ∀ other, other ≠ number → site.stage other = .watching → site.program other = .alive

/-- **No build is in the midst of something.** -/
structure IsAtRest (site : Site) : Prop where
  reachable : site.Reachable
  stage : ∀ number phase, site.orchestrator.phase? number = some phase →
    site.stage number = phase.stage
  program : ∀ number, site.stage number = .watching → site.program number = .alive

theorem isAtRest_start : start.IsAtRest where
  reachable := .refl
  stage number phase here := by simp [start, Orchestrator.phase?, Orchestrator.empty] at here
  program number watching := by cases watching

namespace IsAtRest

variable {site : Site} (rest : site.IsAtRest)
include rest

theorem restsBut (number : Nat) : site.RestsBut number where
  reachable := rest.reachable
  stage other _ := rest.stage other
  program other _ := rest.program other

theorem stage_eq {number : Nat} {build : Build}
    (found : site.orchestrator.builds[number]? = some build) :
    site.stage number = build.phase.stage :=
  rest.stage number _ (by rw [Orchestrator.phase?, found, Option.map_some])

/-- A caller may look at builds, or tell them to stop. -/
theorem orchestrate {change : Orchestrator → Orchestrator}
    (step : site.Step (site.orchestrate change))
    (phases : ∀ other,
      (change site.orchestrator).phase? other = site.orchestrator.phase? other) :
    (site.orchestrate change).IsAtRest where
  reachable := rest.reachable.tail step
  stage other phase here := rest.stage other phase ((phases other).symm.trans here)
  program := rest.program

end IsAtRest

namespace RestsBut

variable {site : Site} {number : Nat} (rest : site.RestsBut number)
include rest

/-- The one build, or its program, comes further. -/
theorem step {next : Site} (step : site.Step next)
    (phases : ∀ other, other ≠ number →
      next.orchestrator.phase? other = site.orchestrator.phase? other)
    (stages : ∀ other, other ≠ number → next.stage other = site.stage other)
    (programs : ∀ other, other ≠ number → next.program other = site.program other) :
    next.RestsBut number where
  reachable := rest.reachable.tail step
  stage other different phase here := by
    rw [phases other different] at here
    exact (stages other different).trans (rest.stage other different phase here)
  program other different watching := by
    rw [stages other different] at watching
    exact (programs other different).trans (rest.program other different watching)

/-- The one build comes further, and changes nothing but itself. -/
theorem advance {change : Orchestrator → Orchestrator} {stage : Stage}
    (step : site.Step ((site.orchestrate change).move number stage))
    (phases : ∀ other, other ≠ number →
      (change site.orchestrator).phase? other = site.orchestrator.phase? other) :
    ((site.orchestrate change).move number stage).RestsBut number :=
  rest.step step phases (fun _ different => (stage_move _ _ _ _).trans (if_neg different))
    fun _ _ => rfl

/-- The one build comes further. Nothing else changes. -/
theorem move {stage : Stage} (step : site.Step (site.move number stage)) :
    (site.move number stage).RestsBut number :=
  rest.step step (fun _ _ => rfl) (fun _ different => (stage_move _ _ _ _).trans (if_neg different))
    fun _ _ => rfl

/-- The program of the one build ends. -/
theorem exit (alive : site.program number = .alive) :
    (site.note number .exited).RestsBut number :=
  rest.step (.exit alive) (fun _ _ => rfl) (fun _ _ => rfl)
    fun _ different => (program_note _ _ _ _).trans (if_neg different)

/-- No build is in the midst of something if the one build is not. -/
theorem isAtRest (phase : Phase) (here : site.stage number = phase.stage)
    (own : ∀ found, site.orchestrator.phase? number = some found → found = phase)
    (program : phase.stage = .watching → site.program number = .alive) : site.IsAtRest where
  reachable := rest.reachable
  stage other found there := by
    by_cases same : other = number
    · subst same
      rw [here, own found there]
    · exact rest.stage other same found there
  program other watching := by
    by_cases same : other = number
    · subst same
      exact program (here.symm.trans watching)
    · exact rest.program other same watching

end RestsBut
end Site

/-- An orchestrator as steps can leave it when no build is in the midst of something. -/
def Orchestrator.IsPossible (orchestrator : Orchestrator) : Prop :=
  ∃ site : Site, site.IsAtRest ∧ site.orchestrator = orchestrator

namespace Site

/-! ### What builds do -/

/-- A build returns, tells its result, and is over. -/
theorem RestsBut.isPossible_conclude {site : Site} {number : Nat} (rest : site.RestsBut number)
    {result : Except BuildError Unit} (here : site.stage number = .released result) :
    ((site.orchestrator.hangUp number result).conclude number result).IsPossible := by
  have returned := rest.advance (.hangUp here) fun _ => Orchestrator.phase?_modify_of_ne _ _ _ _
  have concluded := returned.advance (@Step.conclude _ number result (by simp))
    fun _ _ => Orchestrator.phase?_report _ _
  exact ⟨_, concluded.isAtRest (.finished result) (by simp)
    (fun _ => Orchestrator.eq_of_phase?_report_enter) nofun, rfl⟩

/-- A build that has a result ends. -/
theorem RestsBut.isPossible_finish {site : Site} {number : Nat} (rest : site.RestsBut number)
    {result : Except BuildError Unit} (here : site.stage number = .ended result) :
    (site.orchestrator.finish number result).IsPossible :=
  (rest.advance (.release here) fun _ _ => rfl).isPossible_conclude (by simp)

namespace IsAtRest

variable {site : Site} (rest : site.IsAtRest) {number : Nat}
include rest

theorem isPossible_giveUp (here : site.stage number = .waiting)
    (cancelled : site.isCancelled number = true) :
    (site.orchestrator.finish number (.error .cancelled)).IsPossible := by
  have without : site.orchestrator.lease ≠ some number := by
    rw [Ne, ← rest.reachable.isOrderly.leased, here]
    nofun
  rw [Orchestrator.finish_eq, Orchestrator.release, if_neg without]
  exact ((rest.restsBut number).move (.giveUp here cancelled)).isPossible_conclude (by simp)

theorem isPossible_acquire (here : site.stage number = .waiting)
    (free : site.orchestrator.lease = none) :
    (site.orchestrator.acquire number).IsPossible := by
  have acquired := (rest.restsBut number).advance (.acquire here free)
    fun _ => Orchestrator.phase?_modify_of_ne _ _ _ _
  exact ⟨_, acquired.isAtRest .leased (by simp)
    (fun _ => Orchestrator.eq_of_phase?_enter) nofun, rfl⟩

theorem isPossible_stop (here : site.stage number = .granted ∨ site.stage number = .staged)
    (cancelled : site.isCancelled number = true) :
    (site.orchestrator.finish number (.error .cancelled)).IsPossible :=
  ((rest.restsBut number).move (.stop here cancelled)).isPossible_finish (by simp)

/-- A build that has the lease and goes on begins to stage its sources. -/
theorem restsBut_staging (here : site.stage number = .granted)
    (goesOn : site.isCancelled number = false) :
    ((site.move number .cleared).move number .staging).RestsBut number :=
  ((rest.restsBut number).move (.clear here goesOn)).move (.beginStaging (by simp))

theorem isPossible_staged (here : site.stage number = .granted)
    (goesOn : site.isCancelled number = false) :
    (site.orchestrator.enter number .staged).IsPossible := by
  have staged := (rest.restsBut_staging here goesOn).advance (.endStaging (by simp))
    fun _ => Orchestrator.phase?_modify_of_ne _ _ _ _
  exact ⟨_, staged.isAtRest .staged (by simp)
    (fun _ => Orchestrator.eq_of_phase?_enter) nofun, rfl⟩

theorem isPossible_failStaging (error : BuildError) (here : site.stage number = .granted)
    (goesOn : site.isCancelled number = false) :
    (site.orchestrator.finish number (.error error)).IsPossible :=
  ((rest.restsBut_staging here goesOn).move (.failStaging error (by simp))).isPossible_finish
    (by simp)

theorem isPossible_spawn (group : Nat) (here : site.stage number = .staged)
    (goesOn : site.isCancelled number = false) :
    (site.orchestrator.enter number (.running group .start)).IsPossible := by
  have ready := (rest.restsBut number).move (.prepare here goesOn)
  have spawned := ready.step (.spawn group (by simp))
    (fun _ => Orchestrator.phase?_modify_of_ne _ _ _ _)
    (fun _ different => by simp [different]) (fun _ different => by simp [different])
  exact ⟨_, spawned.isAtRest (.running group .start) (by simp)
    (fun _ => Orchestrator.eq_of_phase?_enter) fun _ => by simp, rfl⟩

theorem isPossible_failSpawn (error : BuildError) (here : site.stage number = .staged)
    (goesOn : site.isCancelled number = false) :
    (site.orchestrator.finish number (.error error)).IsPossible :=
  (((rest.restsBut number).move (.prepare here goesOn)).move
    (.failSpawn error (by simp))).isPossible_finish (by simp)

/-- What a program has printed is reported. -/
theorem forward (group : Nat) (supervision : Supervision) (events : Array BuildEvent)
    (here : site.stage number = .watching) :
    (site.orchestrate fun orchestrator => (orchestrator.enter number
      (.running group supervision)).report number events).IsAtRest := by
  have forwarded := (rest.restsBut number).step (.forward group supervision events here)
    (fun _ => Orchestrator.phase?_report_enter_of_ne _ _ _) (fun _ _ => rfl) fun _ _ => rfl
  exact forwarded.isAtRest (.running group supervision) here
    (fun _ => Orchestrator.eq_of_phase?_report_enter) fun _ => rest.program number here

/-- The program ends, and its build asks how. -/
theorem isPossible_reap (result : Except BuildError Unit) (here : site.stage number = .watching) :
    (site.orchestrator.finish number result).IsPossible := by
  have exited := (rest.restsBut number).exit (rest.program number here)
  have reaped := exited.step (.reap result here (by simp)) (fun _ _ => rfl)
    (fun _ different => by simp [different]) fun _ different => by simp [different]
  exact reaped.isPossible_finish (by simp)

/-- The program is killed, and its build waits for it. -/
theorem isPossible_kill (here : site.stage number = .watching)
    (cancelled : site.isCancelled number = true) :
    (site.orchestrator.finish number (.error .cancelled)).IsPossible := by
  have killed := (rest.restsBut number).move (.kill here cancelled)
  have exited := killed.exit (rest.program number here)
  have reaped := exited.step (@Step.reapKilled _ number (by simp) (by simp)) (fun _ _ => rfl)
    (fun _ different => by simp [different]) fun _ different => by simp [different]
  exact reaped.isPossible_finish (by simp)

theorem isPossible_retire {result : Except BuildError Unit}
    (here : site.stage number = .concluded result) :
    (site.orchestrator.retire number result).IsPossible := by
  have retired := (rest.restsBut number).advance (.retire here)
    fun _ => Orchestrator.phase?_modify_of_ne _ _ _ _
  exact ⟨_, retired.isAtRest (.retired result) (by simp)
    (fun _ => Orchestrator.eq_of_phase?_enter) nofun, rfl⟩

end IsAtRest
end Site

/-! ### What callers do -/

namespace Orchestrator.IsPossible

variable {orchestrator : Orchestrator} (possible : orchestrator.IsPossible)
include possible

theorem start (sources : List SourceFile) (buildType : BuildType) :
    (orchestrator.start sources buildType).2.IsPossible := by
  obtain ⟨site, rest, rfl⟩ := possible
  have numbered := (rest.restsBut site.orchestrator.builds.size).advance
    (.enroll sources buildType) fun _ => phase?_enroll_of_ne _ _ _
  have swapped := numbered.step (@Site.Step.activate _ site.orchestrator.builds.size (by simp))
    (fun _ _ => rfl) (fun _ different => by simp [different]) fun _ _ => rfl
  have announced := swapped.step
    (@Site.Step.signal _ site.orchestrator.builds.size _ (by simp; rfl))
    (fun _ _ => phase?_cancelIfAny _ _ _) (fun _ different => by simp [different]) fun _ _ => rfl
  have waiting := announced.move (.launch (by simp))
  refine ⟨_, waiting.isAtRest .waiting (by simp) (fun found there => ?_) nofun, rfl⟩
  exact Option.some.inj (there.symm.trans (phase?_start_size _ sources buildType))

theorem cancel (number : Nat) : (orchestrator.cancel number).IsPossible := by
  obtain ⟨site, rest, rfl⟩ := possible
  exact ⟨_, rest.orchestrate (.cancel number)
    fun _ => phase?_modify_of_keeps _ _ _ _ Build.phase_cancel, rfl⟩

theorem cancelActive : orchestrator.cancelActive.IsPossible := by
  obtain ⟨site, rest, rfl⟩ := possible
  exact ⟨_, rest.orchestrate .cancelActive fun _ => phase?_cancelIfAny _ _ _, rfl⟩

theorem take {number : Nat} {event : BuildEvent} {after : Orchestrator}
    (taken : orchestrator.take number = some (event, after)) : after.IsPossible := by
  obtain ⟨site, rest, rfl⟩ := possible
  obtain ⟨change, keeps, same⟩ := take_eq_some _ _ taken
  exact ⟨_, rest.orchestrate (.take taken)
    fun _ => same ▸ phase?_modify_of_keeps _ _ _ change keeps, rfl⟩

end Orchestrator.IsPossible

/-! ### What happens in a workshop -/

namespace Workshop

variable {workshop next : Workshop} {number : Nat}

theorem orchestrator_stage (build : Build) :
    (workshop.stage number build).orchestrator = workshop.orchestrator.enter number .staged ∨
    ∃ error, (workshop.stage number build).orchestrator
      = workshop.orchestrator.finish number (.error error) := by
  simp only [stage]
  split
  split
  · exact .inl rfl
  · exact .inr ⟨_, rfl⟩

theorem orchestrator_spawn (build : Build) :
    (∃ group, (workshop.spawn number build).orchestrator
      = workshop.orchestrator.enter number (.running group .start)) ∨
    ∃ error, (workshop.spawn number build).orchestrator
      = workshop.orchestrator.finish number (.error error) := by
  simp only [spawn]
  split
  · exact .inr ⟨_, rfl⟩
  split
  · exact .inr ⟨_, rfl⟩
  split
  · exact .inl ⟨_, rfl⟩
  · exact .inr ⟨_, rfl⟩

/-- A build that watches its program reports something, and may then be over. -/
theorem orchestrator_watch? {group : Nat} {before : Supervision}
    (watched : workshop.watch? number group before = some next) : ∃ supervision events,
    next.orchestrator = (workshop.orchestrator.enter number
      (.running group supervision)).report number events ∨
    ∃ result, next.orchestrator = ((workshop.orchestrator.enter number
      (.running group supervision)).report number events).finish number result := by
  simp only [watch?] at watched
  split at watched
  · cases watched
    exact ⟨_, _, .inr ⟨_, rfl⟩⟩
  · split at watched
    · cases watched
    · cases watched
      exact ⟨_, _, .inl rfl⟩

/-- **What a build does next** is some steps of it. -/
theorem isPossible_step? (possible : workshop.orchestrator.IsPossible) {build : Build}
    (found : workshop.orchestrator.builds[number]? = some build)
    (step : workshop.step? number build = some next) : next.orchestrator.IsPossible := by
  obtain ⟨config, directory, _, machine⟩ := workshop
  obtain ⟨site, rest, rfl⟩ := possible
  have here := rest.stage_eq found
  have flag : site.isCancelled number = build.isCancelled := by
    rw [Site.isCancelled, found, Option.any_some]
  unfold step? at step
  cases phase : build.phase with
  | waiting =>
    simp only [phase] at step here
    split at step
    case isTrue cancelled =>
      cases step
      exact rest.isPossible_giveUp here (flag.trans cancelled)
    case isFalse =>
      split at step
      case isTrue free =>
        cases step
        exact rest.isPossible_acquire here (Option.isNone_iff_eq_none.1 free)
      case isFalse => cases step
  | leased =>
    simp only [phase] at step here
    split at step
    case isTrue cancelled =>
      cases step
      exact rest.isPossible_stop (.inl here) (flag.trans cancelled)
    case isFalse goesOn =>
      cases step
      have goesOn := flag.trans (Bool.eq_false_iff.2 goesOn)
      obtain staged | ⟨error, failed⟩ := orchestrator_stage build
      · rw [staged]
        exact rest.isPossible_staged here goesOn
      · rw [failed]
        exact rest.isPossible_failStaging error here goesOn
  | staged =>
    simp only [phase] at step here
    split at step
    case isTrue cancelled =>
      cases step
      exact rest.isPossible_stop (.inr here) (flag.trans cancelled)
    case isFalse goesOn =>
      cases step
      have goesOn := flag.trans (Bool.eq_false_iff.2 goesOn)
      obtain ⟨group, spawned⟩ | ⟨error, failed⟩ := orchestrator_spawn build
      · rw [spawned]
        exact rest.isPossible_spawn group here goesOn
      · rw [failed]
        exact rest.isPossible_failSpawn error here goesOn
  | running group supervision =>
    simp only [phase] at step here
    split at step
    case isTrue cancelled =>
      cases step
      exact rest.isPossible_kill here (flag.trans cancelled)
    case isFalse =>
      obtain ⟨supervision, events, reported | ⟨result, ended⟩⟩ := orchestrator_watch? step
      · rw [reported]
        exact ⟨_, rest.forward group supervision events here, rfl⟩
      · rw [ended]
        exact (rest.forward group supervision events here).isPossible_reap result here
  | finished result =>
    simp only [phase] at step here
    cases step
    exact rest.isPossible_retire here
  | retired result => simp [phase] at step

theorem isPossible_happen? (possible : workshop.orchestrator.IsPossible)
    (happened : workshop.happen? = some next) : next.orchestrator.IsPossible := by
  unfold happen? at happened
  split at happened
  case h_1 after step =>
    obtain ⟨⟨build, number⟩, mem, step⟩ := List.exists_of_findSome?_eq_some step
    have found := List.mem_zipIdx_iff_getElem?.1 mem
    rw [Array.getElem?_toList] at found
    have possible := isPossible_step? possible found step
    cases happened
    exact possible
  case h_2 =>
    obtain ⟨machine, _, rfl⟩ := Option.map_eq_some_iff.1 happened
    exact possible

theorem isPossible_happenUntil (isEnough : Workshop → Bool) (fuel : Nat)
    (possible : workshop.orchestrator.IsPossible) :
    (workshop.happenUntil isEnough fuel).orchestrator.IsPossible := by
  induction fuel generalizing workshop with
  | zero => exact possible
  | succ fuel ih =>
    unfold happenUntil
    split
    · exact possible
    · split
      case h_1 next happened => exact ih (isPossible_happen? possible happened)
      case h_2 => exact possible

theorem isPossible_nextEvent (number : Nat) (possible : workshop.orchestrator.IsPossible) :
    (workshop.nextEvent number).2.orchestrator.IsPossible := by
  have ready := isPossible_happenUntil (fun workshop =>
    (workshop.orchestrator.take number).isSome || workshop.isRetired number) patience possible
  simp only [nextEvent]
  split
  case h_1 event after taken => exact ready.take taken
  case h_2 => exact ready

/-- **What a workshop can come to** by what callers do. -/
inductive Possible : Workshop → Prop
  | start (config : Config) (here : Location) (files : FileSystem) :
    Possible (start config here files)
  | begin {workshop : Workshop} (possible : Possible workshop) (sources : List SourceFile)
    (buildType : BuildType) :
    Possible (workshop.orchestrate fun orchestrator => (orchestrator.start sources buildType).2)
  | cancel {workshop : Workshop} (possible : Possible workshop) (number : Nat) :
    Possible (workshop.orchestrate (·.cancel number))
  | cancelActive {workshop : Workshop} (possible : Possible workshop) :
    Possible (workshop.orchestrate (·.cancelActive))
  | nextEvent {workshop : Workshop} (possible : Possible workshop) (number : Nat) :
    Possible (workshop.nextEvent number).2
  | finish {workshop : Workshop} (possible : Possible workshop) (number : Nat) :
    Possible (workshop.finish number).2

/-- **A workshop does only what steps can do.** -/
theorem Possible.isPossible {workshop : Workshop} (possible : Possible workshop) :
    workshop.orchestrator.IsPossible := by
  induction possible with
  | start config here files => exact ⟨_, Site.isAtRest_start, rfl⟩
  | begin _ sources buildType ih => exact ih.start sources buildType
  | cancel _ number ih => exact ih.cancel number
  | cancelActive _ ih => exact ih.cancelActive
  | nextEvent _ number ih => exact isPossible_nextEvent number ih
  | finish _ number ih => exact isPossible_happenUntil _ _ ih

/-- **Builds of a workshop take turns.** A build that may stage its sources, has done so or runs its
program is the one that has the lease. -/
theorem Possible.lease_iff {workshop : Workshop} (possible : Possible workshop) {number : Nat}
    {build : Build} (found : workshop.orchestrator.builds[number]? = some build) :
    workshop.orchestrator.lease = some number ↔ build.phase.stage.hasLease = true := by
  obtain ⟨site, rest, same⟩ := possible.isPossible
  rw [← same] at found ⊢
  rw [← rest.stage_eq found]
  exact (rest.reachable.isOrderly.leased number).symm

end Workshop
end Cartridge
