import Cartridge.Proofs.Build.Interleaving

/-!
# One build at a time

Whatever order builds and their callers take their steps in, the lease keeps builds from staging
their sources, or having a process of their program, at the same time.

* `Site.IsOrderly`: what no step changes. The lease is with the build that has it, and a process is
  looked after by its build.
* `Site.reachable_excludes`: at most one build is at work, and when one begins to stage its sources
  there is no process of any program.
-/

namespace Cartridge

/-- A build may go from one stage to another while it keeps the lease, or goes on without it. If it
looks after its program, it goes on doing so. -/
structure Stage.LeadsTo (before after : Stage) : Prop where
  present : before ≠ .absent
  hasLease : after.hasLease = before.hasLease
  watches : before.watches = true → after.watches = true

namespace Site

/-- **What no step changes.** -/
structure IsOrderly (site : Site) : Prop where
  /-- Only builds that have been started have come somewhere. -/
  enrolled : ∀ number, site.orchestrator.builds.size ≤ number → site.stage number = .absent
  /-- The lease is with the build that has it, and with nobody else. -/
  leased : ∀ number,
    (site.stage number).hasLease = true ↔ site.orchestrator.lease = some number
  /-- If there is a process of a program, its build looks after it. -/
  watched : ∀ number,
    (site.program number).isUnreaped = true → (site.stage number).watches = true

theorem isOrderly_start : start.IsOrderly where
  enrolled _ _ := rfl
  leased _ := by simp [start, Orchestrator.empty]
  watched _ unreaped := by simp [start] at unreaped

namespace IsOrderly

variable {site : Site} (orderly : site.IsOrderly)
include orderly

theorem lt_size {number : Nat} (here : site.stage number ≠ .absent) :
    number < site.orchestrator.builds.size := by
  by_contra beyond
  exact here (orderly.enrolled number (Nat.le_of_not_lt beyond))

/-- A build that looks after its program has the lease. -/
theorem lease_of_isUnreaped {number : Nat} (unreaped : (site.program number).isUnreaped = true) :
    site.orchestrator.lease = some number :=
  (orderly.leased number).1 (Stage.hasLease_of_watches (orderly.watched number unreaped))

/-- There is no process of the program of a build that looks after none. -/
theorem not_isUnreaped {number : Nat} (watches : (site.stage number).watches = false) :
    ¬ (site.program number).isUnreaped = true := by
  intro unreaped
  rw [orderly.watched number unreaped] at watches
  cases watches

/-- As long as a build has the lease and looks after no program, there is no process at all. -/
theorem not_isUnreaped_of_hasLease {number : Nat}
    (hasLease : (site.stage number).hasLease = true)
    (watches : (site.stage number).watches = false) (other : Nat) :
    ¬ (site.program other).isUnreaped = true := by
  intro unreaped
  have lease := (orderly.leased number).1 hasLease
  have same : other = number :=
    Option.some.inj ((orderly.lease_of_isUnreaped unreaped).symm.trans lease)
  exact orderly.not_isUnreaped watches (same ▸ unreaped)

/-! ### What a step keeps -/

/-- Builds may be changed, but not how many there are, and not the lease. -/
theorem orchestrate {change : Orchestrator → Orchestrator}
    (size : (change site.orchestrator).builds.size = site.orchestrator.builds.size)
    (lease : (change site.orchestrator).lease = site.orchestrator.lease) :
    (site.orchestrate change).IsOrderly where
  enrolled number beyond := orderly.enrolled number (size ▸ beyond)
  leased number := lease.symm ▸ orderly.leased number
  watched := orderly.watched

/-- It may be noted what has become of a program, if its build looks after it or it is forgotten. -/
theorem note {number : Nat} {program : Program}
    (watches : program.isUnreaped = true → (site.stage number).watches = true) :
    (site.note number program).IsOrderly where
  enrolled := orderly.enrolled
  leased := orderly.leased
  watched other unreaped := by
    rw [program_note] at unreaped
    rw [stage_note]
    split at unreaped
    case isTrue same => exact same ▸ watches unreaped
    case isFalse different => exact orderly.watched other unreaped

/-- Which signals have not been sent does not matter here. -/
theorem owe (number : Nat) (displaced : Option Nat) : (site.owe number displaced).IsOrderly where
  enrolled := orderly.enrolled
  leased := orderly.leased
  watched := orderly.watched

/-- A build may come further if the lease changes only for it, and it goes on looking after its
program while there is a process of it. -/
theorem advance (change : Orchestrator → Orchestrator) {number : Nat} {stage : Stage}
    (enrolled : number < (change site.orchestrator).builds.size)
    (size : site.orchestrator.builds.size ≤ (change site.orchestrator).builds.size)
    (own : stage.hasLease = true ↔ (change site.orchestrator).lease = some number)
    (others : ∀ other, other ≠ number →
      (site.orchestrator.lease = some other ↔ (change site.orchestrator).lease = some other))
    (watches : (site.program number).isUnreaped = true → stage.watches = true) :
    ((site.orchestrate change).move number stage).IsOrderly where
  enrolled other beyond := by
    have beyond : (change site.orchestrator).builds.size ≤ other := beyond
    rw [stage_move, if_neg (by omega)]
    exact orderly.enrolled other (by omega)
  leased other := by
    rw [stage_move]
    split
    case isTrue same => exact same ▸ own
    case isFalse different => exact (orderly.leased other).trans (others other different)
  watched other unreaped := by
    rw [stage_move]
    split
    case isTrue same => exact watches (same ▸ unreaped)
    case isFalse different => exact orderly.watched other unreaped

/-- A build may come to a stage that its stage leads to. -/
theorem proceed (change : Orchestrator → Orchestrator) {number : Nat} {before after : Stage}
    (here : site.stage number = before) (leads : before.LeadsTo after)
    (size : (change site.orchestrator).builds.size = site.orchestrator.builds.size)
    (lease : (change site.orchestrator).lease = site.orchestrator.lease) :
    ((site.orchestrate change).move number after).IsOrderly := by
  subst here
  refine orderly.advance _ (size ▸ orderly.lt_size leads.present) (Nat.le_of_eq size.symm) ?_
    (fun _ _ => by rw [lease]) fun unreaped => leads.watches (orderly.watched number unreaped)
  rw [leads.hasLease, lease]
  exact orderly.leased number

/-- A build may come to a stage that its stage leads to while nothing else changes. -/
theorem move {number : Nat} {before after : Stage} (here : site.stage number = before)
    (leads : before.LeadsTo after) : (site.move number after).IsOrderly :=
  orderly.proceed (fun orchestrator => orchestrator) here leads rfl rfl

/-- A build is added. -/
theorem enroll (build : Build) :
    ((site.orchestrate fun orchestrator => (orchestrator.enroll build).2).move
      site.orchestrator.builds.size .numbered).IsOrderly := by
  have absent := orderly.enrolled _ (Nat.le_refl site.orchestrator.builds.size)
  have size : ((site.orchestrator.enroll build).2).builds.size
      = site.orchestrator.builds.size + 1 := Array.size_push build
  refine orderly.advance _ (by omega) (by omega) ?_ (fun _ _ => Iff.rfl) ?_
  · have leased := orderly.leased site.orchestrator.builds.size
    rw [absent] at leased
    exact leased
  · exact fun unreaped => absurd unreaped (orderly.not_isUnreaped (by rw [absent]; rfl))

/-- A build that waits gets the lease if nobody has it. -/
theorem acquire {number : Nat} (here : site.stage number = .waiting)
    (free : site.orchestrator.lease = none) :
    ((site.orchestrate (·.acquire number)).move number .granted).IsOrderly := by
  have size : (site.orchestrator.acquire number).builds.size = site.orchestrator.builds.size :=
    site.orchestrator.size_modify number _
  refine orderly.advance _ (size ▸ orderly.lt_size (by rw [here]; simp)) (Nat.le_of_eq size.symm)
    ⟨fun _ => rfl, fun _ => rfl⟩ (fun other different => ?_) (fun unreaped => ?_)
  · simp [free, Orchestrator.acquire, Ne.symm different]
  · exact absurd unreaped (orderly.not_isUnreaped (by rw [here]; rfl))

/-- A build that is over gives up the lease. There is no process of its program. -/
theorem release {number : Nat} {result : Except BuildError Unit}
    (here : site.stage number = .ended result) :
    ((site.orchestrate (·.release number)).move number (.released result)).IsOrderly := by
  have lease := (orderly.leased number).1 (by rw [here]; rfl)
  have given : (site.orchestrator.release number).lease = none := by
    rw [Orchestrator.release, if_pos lease]
  refine orderly.advance _ (orderly.lt_size (by rw [here]; simp)) (Nat.le_refl _) ?_
    (fun other different => ?_) (fun unreaped => ?_)
  · simp [given]
  · simp [given, lease, Ne.symm different]
  · exact absurd unreaped (orderly.not_isUnreaped (by rw [here]; rfl))

/-- A build that has the lease forgets its program, and is over. -/
theorem reap {number : Nat} (result : Except BuildError Unit)
    (hasLease : (site.stage number).hasLease = true) :
    ((site.note number .reaped).move number (.ended result)).IsOrderly := by
  have noted : (site.note number .reaped).IsOrderly := orderly.note nofun
  have present : site.stage number ≠ .absent := by
    intro absent
    simp [absent] at hasLease
  refine noted.advance (fun orchestrator => orchestrator) (orderly.lt_size present)
    (Nat.le_refl _) ⟨fun _ => (orderly.leased number).1 hasLease, fun _ => rfl⟩
    (fun _ _ => Iff.rfl) fun unreaped => ?_
  simp at unreaped

/-! ### One step, and many -/

/-- **A step keeps a site in order.** -/
theorem step {next : Site} (step : site.Step next) : next.IsOrderly := by
  cases step with
  | enroll sources buildType => exact orderly.enroll _
  | activate here =>
    apply IsOrderly.owe
    exact orderly.proceed _ here ⟨nofun, rfl, nofun⟩ rfl rfl
  | signal here =>
    apply IsOrderly.owe
    exact orderly.proceed _ here ⟨nofun, rfl, nofun⟩ (Orchestrator.size_cancelIfAny _ _)
      (Orchestrator.lease_cancelIfAny _ _)
  | launch here => exact orderly.move here ⟨nofun, rfl, nofun⟩
  | cancel number => exact orderly.orchestrate (Orchestrator.size_modify _ _ _) rfl
  | cancelActive =>
    exact orderly.orchestrate (Orchestrator.size_cancelIfAny _ _)
      (Orchestrator.lease_cancelIfAny _ _)
  | take taken =>
    obtain ⟨change, _, rfl⟩ := Orchestrator.take_eq_some _ _ taken
    exact orderly.orchestrate (Orchestrator.size_modify _ _ _) rfl
  | acquire here free => exact orderly.acquire here free
  | giveUp here cancelled => exact orderly.move here ⟨nofun, rfl, nofun⟩
  | clear here goesOn => exact orderly.move here ⟨nofun, rfl, nofun⟩
  | stop here cancelled =>
    obtain here | here := here
    · exact orderly.move here ⟨nofun, rfl, nofun⟩
    · exact orderly.move here ⟨nofun, rfl, nofun⟩
  | beginStaging here => exact orderly.move here ⟨nofun, rfl, nofun⟩
  | endStaging here =>
    exact orderly.proceed _ here ⟨nofun, rfl, nofun⟩ (Orchestrator.size_modify _ _ _) rfl
  | failStaging error here => exact orderly.move here ⟨nofun, rfl, nofun⟩
  | prepare here goesOn => exact orderly.move here ⟨nofun, rfl, nofun⟩
  | spawn group here =>
    -- The process comes when its build looks after it already.
    apply IsOrderly.note
    · exact orderly.proceed _ here ⟨nofun, rfl, nofun⟩ (Orchestrator.size_modify _ _ _) rfl
    · simp
  | failSpawn error here => exact orderly.move here ⟨nofun, rfl, nofun⟩
  | forward group supervision events here =>
    exact orderly.orchestrate (Orchestrator.size_report_enter _ _ _ _) rfl
  | exit alive => exact orderly.note fun _ => orderly.watched _ (by rw [alive]; rfl)
  | reap result here exited => exact orderly.reap result (by rw [here]; rfl)
  | kill here cancelled => exact orderly.move here ⟨nofun, rfl, fun _ => rfl⟩
  | reapKilled here exited => exact orderly.reap _ (by rw [here]; rfl)
  | release here => exact orderly.release here
  | hangUp here | conclude here =>
    exact orderly.proceed _ here ⟨nofun, rfl, nofun⟩ (Orchestrator.size_modify _ _ _) rfl
  | retire here =>
    exact orderly.proceed _ here ⟨nofun, rfl, nofun⟩ (Orchestrator.size_modify _ _ _) rfl

end IsOrderly

/-- **Every site that steps lead to is in order.** -/
theorem Reachable.isOrderly {site : Site} (reachable : site.Reachable) : site.IsOrderly := by
  induction reachable with
  | refl => exact isOrderly_start
  | tail _ step orderly => exact orderly.step step

/-- A build begins to stage its sources when it has seen that the flag is clear. -/
theorem Step.cleared_of_staging {site next : Site} {number : Nat} (step : site.Step next)
    (before : site.stage number ≠ .staging) (after : next.stage number = .staging) :
    site.stage number = .cleared ∧ next = site.move number .staging := by
  cases step
  case beginStaging begun here =>
    obtain rfl | different := eq_or_ne number begun
    · exact ⟨here, rfl⟩
    · rw [stage_move, if_neg different] at after
      exact absurd after before
  -- No other step comes to this stage.
  all_goals
    simp only [stage_move, stage_note, stage_orchestrate, stage_owe] at after
    grind

/-- A build is at work while it stages its sources, and while there is a process of its program. -/
def IsAtWork (site : Site) (number : Nat) : Prop :=
  site.stage number = .staging ∨ (site.program number).isUnreaped = true

theorem IsOrderly.lease_of_isAtWork {site : Site} (orderly : site.IsOrderly) {number : Nat}
    (atWork : site.IsAtWork number) : site.orchestrator.lease = some number := by
  obtain staging | unreaped := atWork
  · exact (orderly.leased number).1 (by rw [staging]; rfl)
  · exact orderly.lease_of_isUnreaped unreaped

/-- **Builds take turns.** Whatever has happened, in whatever order, the build that is at work is
the one that has the lease, so at most one is. When a build begins to stage its sources there is no
process of any program, its own included. -/
theorem reachable_excludes {site : Site} (reachable : site.Reachable) :
    (∀ number, site.IsAtWork number → site.orchestrator.lease = some number) ∧
    (∀ first second, site.IsAtWork first → site.IsAtWork second → first = second) ∧
    ∀ next number, site.Step next → site.stage number ≠ .staging → next.stage number = .staging →
      ∀ other, (site.program other).isUnreaped = false ∧
        (next.program other).isUnreaped = false := by
  have orderly := reachable.isOrderly
  refine ⟨fun number => orderly.lease_of_isAtWork, fun first second one another => ?_,
    fun next number step before after other => ?_⟩
  · have lease := orderly.lease_of_isAtWork one
    rw [orderly.lease_of_isAtWork another] at lease
    exact (Option.some.inj lease).symm
  · obtain ⟨cleared, rfl⟩ := step.cleared_of_staging before after
    have hasLease : (site.stage number).hasLease = true := by rw [cleared]; rfl
    have watches : (site.stage number).watches = false := by rw [cleared]; rfl
    have none := Bool.eq_false_iff.2 (orderly.not_isUnreaped_of_hasLease hasLease watches other)
    exact ⟨none, none⟩

/-- A build runs its program when a second one is started. It is killed, and then the second one
begins to stage its sources. -/
theorem reachable_excludes_superseded : ∃ running later next : Site,
    (running.Reachable ∧ running.program 0 = .alive ∧ running.stage 1 = .waiting ∧
      running.orchestrator.lease = some 0 ∧ ¬ running.IsAtWork 1) ∧
    (later.Reachable ∧ later.Step next ∧ later.stage 1 ≠ .staging ∧ next.stage 1 = .staging ∧
      (next.program 0).isUnreaped = false) := by
  have launched : Reachable _ := .tail (.tail (.tail (.tail .refl
    (.enroll [] .rom)) (@Step.activate _ 0 rfl)) (@Step.signal _ 0 none rfl)) (@Step.launch _ 0 rfl)
  have staged : Reachable _ := .tail (.tail (.tail (.tail launched
    (@Step.acquire _ 0 rfl rfl)) (@Step.clear _ 0 rfl rfl)) (@Step.beginStaging _ 0 rfl))
    (@Step.endStaging _ 0 rfl)
  have running : Reachable _ := .tail (.tail staged
    (@Step.prepare _ 0 rfl rfl)) (@Step.spawn _ 0 7 rfl)
  have superseded : Reachable _ := .tail (.tail (.tail (.tail running
    (.enroll [] .web)) (@Step.activate _ 1 rfl)) (@Step.signal _ 1 (some 0) rfl))
    (@Step.launch _ 1 rfl)
  have given : Reachable _ := .tail (.tail (.tail (.tail superseded
    (@Step.kill _ 0 rfl rfl)) (@Step.exit _ 0 rfl)) (@Step.reapKilled _ 0 rfl rfl))
    (@Step.release _ 0 _ rfl)
  have cleared : Reachable _ := .tail (.tail given
    (@Step.acquire _ 1 rfl rfl)) (@Step.clear _ 1 rfl rfl)
  obtain ⟨hasLease, same, -⟩ := reachable_excludes superseded
  obtain ⟨-, -, begins⟩ := reachable_excludes cleared
  refine ⟨_, _, _, ⟨superseded, rfl, rfl, hasLease 0 (.inr rfl), fun another => ?_⟩,
    cleared, @Step.beginStaging _ 1 rfl, nofun, rfl,
    (begins _ 1 (@Step.beginStaging _ 1 rfl) nofun rfl 0).2⟩
  exact absurd (same 0 1 (.inr rfl) another) (by decide)

end Site
end Cartridge
