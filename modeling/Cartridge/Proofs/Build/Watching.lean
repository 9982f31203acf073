import Cartridge.Proofs.Build.Life
import Cartridge.Proofs.Build.Running
import Cartridge.Proofs.FileSystem.Action

/-!
# Builds of a workshop live

A workshop looks at a program now and then. It takes in all that has been printed since, and then
that channels are closed. What its builds come to is what builds can come to.

* `Staging.goesThrough_stage`: staging does not end as a cancelled build.
* `Workshop.heardAt`, `Workshop.observe_eq`: what a workshop hears when it looks at a program, and
  that it takes this in one after the other.
* `Workshop.exists_life_step?`: what a build of a workshop does next is a part of its life.
-/

namespace Cartridge

namespace Staging

/-- An action that does not end as a cancelled build, wherever it starts. -/
def GoesThrough {α : Type} (action : Action α) : Prop :=
  ∀ files, (action.run.run files).1 ≠ .error .cancelled

theorem GoesThrough.bind {α β : Type} {action : Action α} {next : α → Action β}
    (first : GoesThrough action) (rest : ∀ value, GoesThrough (next value)) :
    GoesThrough (action >>= next) := by
  intro files
  have outcome := first files
  rw [run_bind]
  split
  · exact rest _ _
  · rename_i fault after same
    rw [same] at outcome
    exact fun cancelled => outcome (congrArg _ (Except.error.inj cancelled))

theorem goesThrough_blaming {α : Type} (path : String) (action : FileAction α) :
    GoesThrough (blaming path action) := by
  intro files
  rw [run_blaming]
  cases (action.run.run files).1 <;> nofun

theorem goesThrough_relink (here : Location) (path target : String) :
    GoesThrough (relink here path target) := by
  refine (goesThrough_blaming _ _).bind fun _ => ?_
  split
  · exact (goesThrough_blaming _ _).bind fun _ => goesThrough_blaming _ _
  · exact goesThrough_blaming _ _

/-- **Staging does not end as a cancelled build.** -/
theorem goesThrough_stage (here : Location) (config : Config) (sources : List SourceFile) :
    GoesThrough (stage here config sources) := by
  unfold stage
  split
  · exact (goesThrough_blaming _ _).bind fun _ => (goesThrough_blaming _ _).bind fun _ =>
      (goesThrough_relink _ _ _).bind fun _ => goesThrough_relink _ _ _
  · exact fun _ => nofun

end Staging

/-! ### What a workshop hears -/

namespace Supervision

variable {marker : String}

theorem hearAll_append (supervision : Supervision) (first second : List Hearing) :
    supervision.hearAll marker (first ++ second)
      = (((supervision.hearAll marker first).1.hearAll marker second).1,
        (supervision.hearAll marker first).2
          ++ ((supervision.hearAll marker first).1.hearAll marker second).2) := by
  induction first generalizing supervision with
  | nil => rfl
  | cons hearing first ih => simp only [List.cons_append, hearAll, ih, List.append_assoc]

end Supervision

namespace Workshop

open Shell (Machine)

/-- What is heard of a program: all that has been printed, and then which channels are closed. -/
def heardAt (machine : Machine) (group : Nat) (printed : List (Channel × List UInt8)) :
    List Hearing :=
  (printed.map fun piece => .printed piece.1 piece.2)
    ++ ([Channel.out, .err].filter fun channel => !machine.isOpen group channel).map .closed

theorem foldl_receive (marker : String) (printed : List (Channel × List UInt8))
    (supervision : Supervision) (events : Array BuildEvent) :
    printed.foldl (fun (supervision, events) (channel, bytes) =>
        let (supervision, more) := supervision.receive marker channel bytes
        (supervision, events ++ more.toArray)) (supervision, events)
      = ((supervision.hearAll marker (printed.map fun piece => .printed piece.1 piece.2)).1,
        events ++ (supervision.hearAll marker
          (printed.map fun piece => .printed piece.1 piece.2)).2.toArray) := by
  induction printed generalizing supervision events with
  | nil => simp [Supervision.hearAll]
  | cons piece printed ih =>
    rw [List.foldl_cons, ih]
    simp [Supervision.hearAll, Supervision.hear]

/-- **A workshop takes in what it hears one after the other.** -/
theorem observe_eq (marker : String) (machine : Machine) (group : Nat)
    (printed : List (Channel × List UInt8)) (supervision : Supervision) :
    observe marker machine group printed supervision
      = ((supervision.hearAll marker (heardAt machine group printed)).1,
        (supervision.hearAll marker (heardAt machine group printed)).2.toArray) := by
  rw [observe, foldl_receive, heardAt, Supervision.hearAll_append]
  cases out : machine.isOpen group .out <;> cases err : machine.isOpen group .err <;>
    simp [Supervision.hearAll, Supervision.hear, out, err]

theorem arePossible_closed (hearings : List Hearing) (channels : List Channel) :
    Hearing.ArePossible hearings (channels.map .closed) := by
  induction channels generalizing hearings with
  | nil => exact trivial
  | cons channel channels ih => exact ⟨trivial, ih _⟩

/-- A workshop hears what can be heard, if nothing more is printed on closed channels. -/
theorem arePossible_heardAt (machine : Machine) (group : Nat)
    (printed : List (Channel × List UInt8)) {hearings : List Hearing}
    (quiet : ∀ piece ∈ printed, .closed piece.1 ∉ hearings) :
    Hearing.ArePossible hearings (heardAt machine group printed) := by
  rw [heardAt]
  induction printed generalizing hearings with
  | nil => exact arePossible_closed hearings _
  | cons piece printed ih =>
    refine ⟨quiet piece List.mem_cons_self, ih fun other member closed => ?_⟩
    rcases List.mem_append.1 closed with before | now
    · exact quiet other (List.mem_cons_of_mem _ member) before
    · cases List.mem_singleton.1 now

/-! ### What a build does next -/

variable {orchestrator : Orchestrator} {number : Nat} {build : Build}

theorem getElem?_modify_self (found : orchestrator.builds[number]? = some build)
    (change : Build → Build) :
    (orchestrator.modify number change).builds[number]? = some (change build) := by
  rw [Orchestrator.modify, Array.getElem?_modify, if_pos rfl, found, Option.map_some]

theorem getElem?_report_enter_self (found : orchestrator.builds[number]? = some build)
    (phase : Phase) (events : Array BuildEvent) :
    ((orchestrator.enter number phase).report number events).builds[number]?
      = some ((build.enter phase).report events) :=
  getElem?_modify_self (getElem?_modify_self found _) _

theorem getElem?_finish_self (found : orchestrator.builds[number]? = some build)
    (result : Except BuildError Unit) :
    (orchestrator.finish number result).builds[number]? = some (build.conclude result) :=
  getElem?_report_enter_self found _ _

variable {workshop next : Workshop} {course : Course}

/-- What a build of a workshop can come to. -/
abbrev Lives (workshop : Workshop) (build : Build) (course : Course) : Prop :=
  build.Life workshop.config.fatalMarker workshop.config.buildProgram course

theorem exists_life_stage (found : workshop.orchestrator.builds[number]? = some build)
    (life : workshop.Lives build course) (here : build.phase = .leased) :
    ∃ after, (workshop.stage number build).orchestrator.builds[number]? = some after
      ∧ workshop.Lives after course := by
  have through := Staging.goesThrough_stage workshop.here workshop.config build.sources
    workshop.machine.files
  simp only [stage]
  split
  rename_i result files staged
  rw [staged] at through
  cases result with
  | ok => exact ⟨_, getElem?_modify_self found _, life.stage here⟩
  | error error =>
    exact ⟨_, getElem?_finish_self found _, life.fail (by rw [here]; rfl) error
      fun cancelled => (through (congrArg _ cancelled)).elim⟩

theorem exists_life_spawn (found : workshop.orchestrator.builds[number]? = some build)
    (life : workshop.Lives build course) (here : build.phase = .staged) :
    ∃ after later, (workshop.spawn number build).orchestrator.builds[number]? = some after
      ∧ workshop.Lives after later := by
  have fails : ∀ fault, workshop.Lives
      (build.conclude (.error (.spawn workshop.config.buildProgram fault))) course :=
    fun fault => life.fail (by rw [here]; rfl) _ nofun
  simp only [spawn]
  split
  · exact ⟨_, _, getElem?_finish_self found _, fails _⟩
  split
  · exact ⟨_, _, getElem?_finish_self found _, fails _⟩
  split
  · exact ⟨_, _, getElem?_modify_self found _, life.spawn here _⟩
  · exact ⟨_, _, getElem?_finish_self found _, fails _⟩

/-- A build looks at its program, and is over if that has ended. -/
theorem exists_life_watch? {group : Nat} {supervision : Supervision} {hearings : List Hearing}
    (found : workshop.orchestrator.builds[number]? = some build)
    (life : workshop.Lives build (.heard hearings))
    (here : build.phase = .running group supervision)
    (quiet : ∀ piece ∈ (workshop.machine.takePrinted group).1, .closed piece.1 ∉ hearings)
    (watched : workshop.watch? number group supervision = some next) :
    ∃ after later, next.orchestrator.builds[number]? = some after
      ∧ workshop.Lives after later := by
  obtain ⟨config, directory, orchestrator, machine⟩ := workshop
  simp only [watch?, observe_eq] at watched
  have heard := life.hearAll here (arePossible_heardAt (machine.takePrinted group).2 group _ quiet)
  split at watched
  case h_1 status ended =>
    cases watched
    have reported := getElem?_report_enter_self found
    refine ⟨_, _, getElem?_finish_self (reported _ _) _, heard.exit rfl (fun channel => ?_) status⟩
    split at ended
    case isTrue closed =>
      rw [Bool.and_eq_true] at closed
      refine List.mem_append_right _ (List.mem_append_right _ (List.mem_map_of_mem ?_))
      cases channel <;> simp [closed]
    case isFalse => cases ended
  case h_2 =>
    split at watched
    · cases watched
    · cases watched
      exact ⟨_, _, getElem?_report_enter_self found _ _, heard⟩

/-- **What a build of a workshop does next is a part of its life.** The machine keeps closed channels
quiet. -/
theorem exists_life_step? (found : workshop.orchestrator.builds[number]? = some build)
    (life : workshop.Lives build course)
    (quiet : ∀ group hearings, course = .heard hearings →
      ∀ piece ∈ (workshop.machine.takePrinted group).1, .closed piece.1 ∉ hearings)
    (step : workshop.step? number build = some next) :
    ∃ after later, next.orchestrator.builds[number]? = some after
      ∧ workshop.Lives after later := by
  unfold step? at step
  cases here : build.phase with
  | waiting =>
    simp only [here] at step
    split at step
    case isTrue cancelled =>
      cases step
      exact ⟨_, _, getElem?_finish_self found _, life.fail (by rw [here]; rfl) _ fun _ => cancelled⟩
    case isFalse =>
      split at step
      · cases step
        exact ⟨_, _, getElem?_modify_self found _, life.lease here⟩
      · cases step
  | leased =>
    simp only [here] at step
    split at step
    case isTrue cancelled =>
      cases step
      exact ⟨_, _, getElem?_finish_self found _, life.fail (by rw [here]; rfl) _ fun _ => cancelled⟩
    case isFalse =>
      cases step
      obtain ⟨after, there, lives⟩ := exists_life_stage found life here
      exact ⟨after, _, there, lives⟩
  | staged =>
    simp only [here] at step
    split at step
    case isTrue cancelled =>
      cases step
      exact ⟨_, _, getElem?_finish_self found _, life.fail (by rw [here]; rfl) _ fun _ => cancelled⟩
    case isFalse =>
      cases step
      exact exists_life_spawn found life here
  | running group supervision =>
    obtain ⟨hearings, rfl⟩ : ∃ hearings, course = .heard hearings := by
      cases Build.Stands.ofLife life with
      | early early _ =>
        rw [here] at early
        cases early
      | running _ _ => exact ⟨_, rfl⟩
      | done ended _ _ =>
        rw [Build.result?, here] at ended
        cases ended
    simp only [here] at step
    split at step
    case isTrue cancelled =>
      cases step
      exact ⟨_, _, getElem?_finish_self found _, life.stop here cancelled⟩
    case isFalse => exact exists_life_watch? found life here (quiet group hearings rfl) step
  | finished result =>
    simp only [here] at step
    cases step
    exact ⟨_, _, getElem?_modify_self found _, life.retire here⟩
  | retired result => simp [here] at step

end Workshop
end Cartridge
