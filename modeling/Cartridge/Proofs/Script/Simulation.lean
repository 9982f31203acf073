import Cartridge.Proofs.Script.Agreement
import Cartridge.Proofs.Script.Compilation

/-!
# The machine does what the tree says

The code of a block is followed in both directions: a run of its events is a run of the machine, and
a run of the machine that stops is a run of the events, with fewer steps left behind it. What the
machine goes on with afterwards is behind the block, or behind the loop around it.

* `Statement.stands_branch`, `Statement.stands_loop`: where the parts of a statement stand.
* `Machine.halts_of_runs`, `Machine.runs_of_run`: the two directions for blocks.
* `CompiledScript.stops_iff_halts`: a compiled script stops just when its tree does, and in the same
  state.
-/

namespace Cartridge

variable {σ : Type} {interpretation : Interpretation σ}

/-! ### Where the parts of statements stand -/

namespace Statement

open Instruction (Stands)

variable {code : List UInt8} {start : Nat} {exit : UInt16}

theorem stands_cons {statement : Statement} {statements : List Statement}
    (stands : Stands code start (blockInstructions start exit (statement :: statements))) :
    Stands code start (statement.instructions start exit)
      ∧ Stands code (start + statement.size)
        (blockInstructions (start + statement.size) exit statements) := by
  have tail := stands.right
  rw [← Statement.code, length_code] at tail
  exact ⟨stands.left, tail⟩

/-- **Where the parts of a branch stand.** -/
theorem stands_branch (fits : code.length < 65536) {test : Test} {first second : List Statement}
    (stands : Stands code start ((branch test first second).instructions start exit)) :
    ∃ other past : UInt16,
      other.toNat = start + test.size + blockSize first + skipSize second
        ∧ past.toNat = start + (branch test first second).size
        ∧ Stands code start [test.jump.toward other]
        ∧ Stands code (start + test.size) (blockInstructions (start + test.size) exit first)
        ∧ Stands code (start + test.size + blockSize first) (skip past second)
        ∧ Stands code other.toNat (blockInstructions other.toNat exit second) := by
  have inside := stands.le_length
  rw [← Statement.code, length_code, size] at inside
  generalize otherPlace : start + test.size + blockSize first + skipSize second = other
  have toNatOther : (UInt16.ofNat other).toNat = other :=
    UInt16.toNat_ofNat_of_lt' (show other < 65536 by omega)
  have toNatPast : (UInt16.ofNat (other + blockSize second)).toNat = other + blockSize second :=
    UInt16.toNat_ofNat_of_lt' (show other + blockSize second < 65536 by omega)
  have parts : (branch test first second).instructions start exit
      = [test.jump.toward (UInt16.ofNat other)]
        ++ (blockInstructions (start + test.size) exit first
          ++ (skip (UInt16.ofNat (other + blockSize second)) second
            ++ blockInstructions other exit second)) := by
    simp only [instructions, otherPlace, List.cons_append, List.nil_append, List.append_assoc]
  rw [parts] at stands
  have behindTest := stands.right
  rw [List.flatMap_singleton, Instruction.length_code, size_jump_toward] at behindTest
  have behindFirst := behindTest.right
  rw [← blockCode, length_blockCode] at behindFirst
  have behindSkip := behindFirst.right
  rw [length_skip, otherPlace] at behindSkip
  refine ⟨UInt16.ofNat other, UInt16.ofNat (other + blockSize second), toNatOther, ?_, stands.left,
    behindTest.left, behindFirst.left, ?_⟩
  · rw [toNatPast, size]
    omega
  · rwa [toNatOther]

/-- **Where the parts of a loop stand.** -/
theorem stands_loop (fits : code.length < 65536) {test : Option Test} {body : List Statement}
    (stands : Stands code start ((loop test body).instructions start exit)) :
    ∃ entry past : UInt16, entry.toNat = start ∧ past.toNat = start + (loop test body).size
      ∧ Stands code start (guard past test)
      ∧ Stands code (start + guardSize test) (blockInstructions (start + guardSize test) past body)
      ∧ Stands code (start + guardSize test + blockSize body) [.leap entry] := by
  have inside := stands.le_length
  rw [← Statement.code, length_code, size] at inside
  have toNatEntry : (UInt16.ofNat start).toNat = start :=
    UInt16.toNat_ofNat_of_lt' (show start < 65536 by omega)
  generalize pastPlace : start + guardSize test + blockSize body + leapSize = past
  have toNatPast : (UInt16.ofNat past).toNat = past :=
    UInt16.toNat_ofNat_of_lt' (show past < 65536 by omega)
  have parts : (loop test body).instructions start exit
      = guard (UInt16.ofNat past) test
        ++ (blockInstructions (start + guardSize test) (UInt16.ofNat past) body
          ++ [.leap (UInt16.ofNat start)]) := by
    simp only [instructions, pastPlace, List.append_assoc]
  rw [parts] at stands
  have behindGuard := stands.right
  rw [length_guard] at behindGuard
  have behindBody := behindGuard.right
  rw [← blockCode, length_blockCode] at behindBody
  refine ⟨UInt16.ofNat start, UInt16.ofNat past, toNatEntry, ?_, stands.left, behindGuard.left,
    behindBody⟩
  rw [toNatPast, size]
  omega

end Statement

/-! ### From the tree to the machine -/

namespace Machine

open Instruction (Stands)
open Statement (blockInstructions blockSize guard guardSize skip skipSize readable_jump_toward
  readable_leap size_jump_toward stands_cons stands_branch stands_loop)

variable {code : List UInt8} {start place : Nat} {state reached final : σ}

/-- A test leads behind itself or to its target. -/
theorem Halts.test {test : Test} {target : UInt16}
    (stands : Stands code start [test.jump.toward target])
    (halts : Halts interpretation code
      (if test.holds interpretation state then start + test.size else target.toNat) state final) :
    Halts interpretation code start state final := by
  refine Halts.step stands (readable_jump_toward test target) (test.order?_jump_toward target) ?_
    halts
  rw [Interpretation.follow, size_jump_toward]

theorem Halts.leap {target : UInt16} (stands : Stands code start [.leap target])
    (halts : Halts interpretation code target.toNat state final) :
    Halts interpretation code start state final :=
  Halts.step stands (readable_leap target) (Instruction.order?_leap target) rfl halts

/-- The jump over a second branch leads behind it, also where it is left out. -/
theorem Halts.skip {past : UInt16} {second : List Statement}
    (stands : Stands code start (skip past second))
    (placed : past.toNat = start + skipSize second + blockSize second)
    (halts : Halts interpretation code past.toNat state final) :
    Halts interpretation code start state final := by
  cases second with
  | nil =>
    rw [placed] at halts
    exact halts
  | cons statement statements => exact halts.leap stands

/-- The test before a loop is passed if there is none or it holds. -/
theorem Halts.guard {past : UInt16} {test : Option Test} (stands : Stands code start (guard past test))
    (holds : ∀ asked ∈ test, asked.holds interpretation state = true)
    (halts : Halts interpretation code (start + guardSize test) state final) :
    Halts interpretation code start state final := by
  cases test with
  | none => exact halts
  | some asked =>
    refine Halts.test stands ?_
    rw [if_pos (holds asked rfl)]
    exact halts

/-- The machine stops from where a run of events has got to. -/
def HaltsAfter (interpretation : Interpretation σ) (code : List UInt8) (past exit : Nat)
    (reached final : σ) : Flow → Prop
  | .goesOn => Halts interpretation code past reached final
  | .leavesLoop => Halts interpretation code exit reached final
  | .stops => reached = final

/-- Where a run of events has not got behind the last one, it does not matter what is there. -/
theorem HaltsAfter.of_ends {past other exit : Nat} {flow : Flow} (ends : flow ≠ .goesOn)
    (after : HaltsAfter interpretation code past exit reached final flow) :
    HaltsAfter interpretation code other exit reached final flow := by
  cases flow with
  | goesOn => exact (ends rfl).elim
  | leavesLoop | stops => exact after

theorem HaltsAfter.imp {past other exit : Nat} {flow : Flow}
    (leads : ∀ {state}, Halts interpretation code past state final →
      Halts interpretation code other state final)
    (after : HaltsAfter interpretation code past exit reached final flow) :
    HaltsAfter interpretation code other exit reached final flow := by
  cases flow with
  | goesOn => exact leads after
  | leavesLoop | stops => exact after

/-- A branch halts if the block that is chosen does. -/
theorem halts_of_branch (fits : code.length < 65536) {exit : UInt16} {test : Test}
    {first second : List Statement} {flow : Flow}
    (stands : Stands code start ((Statement.branch test first second).instructions start exit))
    (after : HaltsAfter interpretation code (start + (Statement.branch test first second).size)
      exit.toNat reached final flow)
    (whenTrue : test.holds interpretation state = true → ∀ place,
      Stands code place (blockInstructions place exit first) →
        HaltsAfter interpretation code (place + blockSize first) exit.toNat reached final flow →
          Halts interpretation code place state final)
    (whenFalse : ¬ test.holds interpretation state = true → ∀ place,
      Stands code place (blockInstructions place exit second) →
        HaltsAfter interpretation code (place + blockSize second) exit.toNat reached final flow →
          Halts interpretation code place state final) :
    Halts interpretation code start state final := by
  obtain ⟨other, past, otherPlaced, pastPlaced, jump, standsTrue, standsSkip, standsFalse⟩ :=
    stands_branch fits stands
  have pastBehind : past.toNat = other.toNat + blockSize second := by
    rw [otherPlaced, pastPlaced, Statement.size]
    omega
  rw [← pastPlaced] at after
  refine Halts.test jump ?_
  by_cases holds : test.holds interpretation state = true
  · rw [if_pos holds]
    refine whenTrue holds _ standsTrue (after.imp (Halts.skip standsSkip ?_))
    rw [pastBehind, otherPlaced]
  · rw [if_neg holds]
    refine whenFalse holds _ standsFalse ?_
    rwa [← pastBehind]

/-- **A run of events is a run of the machine.** -/
theorem halts_of_runs {tables : Tables} (fits : code.length < 65536) {events : List Event}
    {flow : Flow} (runs : Event.Runs tables interpretation events state flow reached) :
    ∀ {looped path descend first statements start exit},
      Event.block tables looped path descend first events = .ok statements →
        Stands code start (blockInstructions start exit statements) →
          HaltsAfter interpretation code (start + blockSize statements) exit.toNat reached final
            flow →
              Halts interpretation code start state final := by
  induction runs with
  | done =>
    intro _ _ _ _ _ _ _ accepted _ after
    cases accepted
    exact after
  | stop =>
    intro _ _ _ _ _ _ _ accepted stands after
    obtain ⟨_, _, rfl, head, _⟩ := Event.block_cons_cases accepted
    cases head
    refine ⟨1, ?_⟩
    rw [run_of_stands (stands_cons stands).1 ⟨rfl, nofun⟩ rfl]
    exact congrArg some after
  | perform does _ ih =>
    intro _ _ _ _ _ _ _ accepted stands after
    obtain ⟨_, _, rfl, head, tail⟩ := Event.block_cons_cases accepted
    obtain ⟨here, later⟩ := stands_cons stands
    obtain ⟨action, rfl, ordered⟩ := Event.statement_of_effect does head
    refine Halts.step here action.straight.toIsReadable ordered rfl (ih tail later ?_)
    rwa [Nat.add_assoc]
  | @branch _ _ _ _ _ _ next _ _ chooses _ _ ihInner ihLater =>
    intro _ _ _ _ _ _ exit accepted stands after
    obtain ⟨_, _, rfl, head, tail⟩ := Event.block_cons_cases accepted
    obtain ⟨_, _, rfl, whenTrue, whenFalse⟩ :=
      (Event.branches_iff_chooses.2 chooses).statement_cases head
    obtain ⟨here, later⟩ := stands_cons stands
    rw [blockSize, ← Nat.add_assoc] at after
    have behind : HaltsAfter interpretation code _ exit.toNat next _ .goesOn :=
      ihLater tail later after
    refine halts_of_branch fits here behind (fun holds place placed inside => ?_)
      fun fails place placed inside => ?_
    · rw [if_pos holds] at ihInner
      exact ihInner whenTrue placed inside
    · rw [if_neg fails] at ihInner
      exact ihInner whenFalse placed inside
  | branchEnds chooses _ ends ih =>
    intro _ _ _ _ _ _ _ accepted stands after
    obtain ⟨_, _, rfl, head, _⟩ := Event.block_cons_cases accepted
    obtain ⟨_, _, rfl, whenTrue, whenFalse⟩ :=
      (Event.branches_iff_chooses.2 chooses).statement_cases head
    refine halts_of_branch fits (stands_cons stands).1 (after.of_ends ends)
      (fun holds place placed inside => ?_) fun fails place placed inside => ?_
    · rw [if_pos holds] at ih
      exact ih whenTrue placed inside
    · rw [if_neg fails] at ih
      exact ih whenFalse placed inside
  | loopOver repeats fails _ ih =>
    intro _ _ _ _ _ _ _ accepted stands after
    obtain ⟨_, _, rfl, head, tail⟩ := Event.block_cons_cases accepted
    obtain ⟨_, rfl, _⟩ := (Event.loops_iff_repeats.2 repeats).statement_cases head
    obtain ⟨here, later⟩ := stands_cons stands
    obtain ⟨_, past, _, pastPlaced, jump, _, _⟩ := stands_loop fits here
    rw [blockSize, ← Nat.add_assoc] at after
    refine Halts.test jump ?_
    rw [fails, pastPlaced]
    exact ih tail later after
  | loopAgain repeats holds _ _ ihInner ihLater =>
    intro _ _ _ _ _ _ _ accepted stands after
    obtain ⟨_, _, rfl, head, _⟩ := Event.block_cons_cases accepted
    obtain ⟨_, rfl, body⟩ := (Event.loops_iff_repeats.2 repeats).statement_cases head
    obtain ⟨entry, _, entryPlaced, _, jump, standsBody, back⟩ := stands_loop fits (stands_cons stands).1
    have again := ihLater accepted stands after
    rw [← entryPlaced] at again
    exact Halts.guard jump holds (ihInner body standsBody (Halts.leap back again))
  | loopLeft repeats holds _ _ ihInner ihLater =>
    intro _ _ _ _ _ _ _ accepted stands after
    obtain ⟨_, _, rfl, head, tail⟩ := Event.block_cons_cases accepted
    obtain ⟨_, rfl, body⟩ := (Event.loops_iff_repeats.2 repeats).statement_cases head
    obtain ⟨here, later⟩ := stands_cons stands
    obtain ⟨_, past, _, pastPlaced, jump, standsBody, _⟩ := stands_loop fits here
    rw [blockSize, ← Nat.add_assoc] at after
    have behind := ihLater tail later after
    rw [← pastPlaced] at behind
    exact Halts.guard jump holds (ihInner body standsBody behind)
  | loopStops repeats holds _ ih =>
    intro _ _ _ _ _ _ _ accepted stands after
    obtain ⟨_, _, rfl, head, _⟩ := Event.block_cons_cases accepted
    obtain ⟨_, rfl, body⟩ := (Event.loops_iff_repeats.2 repeats).statement_cases head
    obtain ⟨_, _, _, _, jump, standsBody, _⟩ := stands_loop fits (stands_cons stands).1
    exact Halts.guard jump holds (ih body standsBody after)
  | leaveLoop =>
    intro looped _ _ _ _ _ _ accepted stands after
    obtain ⟨_, _, rfl, head, _⟩ := Event.block_cons_cases accepted
    cases looped with
    | false => cases head
    | true =>
      cases head
      exact Halts.leap (stands_cons stands).1 after

/-! ### From the machine to the tree -/

/-- The machine stops from where a run of events has got to, with a number of steps left. -/
def HaltsWithin (interpretation : Interpretation σ) (code : List UInt8) (limit past exit : Nat)
    (reached final : σ) : Flow → Prop
  | .goesOn => ∃ less, less ≤ limit ∧ run interpretation code less past reached = some final
  | .leavesLoop => ∃ less, less ≤ limit ∧ run interpretation code less exit reached = some final
  | .stops => reached = final

theorem HaltsWithin.mono {limit more past exit : Nat} {flow : Flow} (least : limit ≤ more)
    (within : HaltsWithin interpretation code limit past exit reached final flow) :
    HaltsWithin interpretation code more past exit reached final flow := by
  cases flow with
  | goesOn | leavesLoop =>
    obtain ⟨less, bounded, halted⟩ := within
    exact ⟨less, Nat.le_trans bounded least, halted⟩
  | stops => exact within

theorem HaltsWithin.imp {limit past other exit : Nat} {flow : Flow}
    (leads : ∀ {less state}, run interpretation code less other state = some final →
      ∃ fewer, fewer ≤ less ∧ run interpretation code fewer past state = some final)
    (within : HaltsWithin interpretation code limit other exit reached final flow) :
    HaltsWithin interpretation code limit past exit reached final flow := by
  cases flow with
  | goesOn =>
    obtain ⟨less, bounded, halted⟩ := within
    obtain ⟨fewer, least, led⟩ := leads halted
    exact ⟨fewer, Nat.le_trans least bounded, led⟩
  | leavesLoop | stops => exact within

/-- The jump over a second branch leads behind it, also where it is left out. -/
theorem run_skip {past : UInt16} {second : List Statement} {limit : Nat}
    (stands : Stands code start (skip past second))
    (placed : past.toNat = start + skipSize second + blockSize second)
    (halted : run interpretation code limit start state = some final) :
    ∃ less, less ≤ limit ∧ run interpretation code less past.toNat state = some final := by
  cases second with
  | nil =>
    rw [placed]
    exact ⟨limit, Nat.le_refl limit, halted⟩
  | cons statement statements =>
    obtain ⟨less, fewer, led⟩ := run_cases stands (readable_leap past)
      (Instruction.order?_leap past) rfl halted
    exact ⟨less, Nat.le_of_lt fewer, led⟩

theorem run_guard {past : UInt16} {test : Option Test} {limit : Nat}
    (stands : Stands code start (guard past test))
    (halted : run interpretation code limit start state = some final) :
    (∃ less, less ≤ limit ∧ (∀ asked ∈ test, asked.holds interpretation state = true)
        ∧ run interpretation code less (start + guardSize test) state = some final)
      ∨ ∃ less asked, less ≤ limit ∧ test = some asked
        ∧ asked.holds interpretation state = false
        ∧ run interpretation code less past.toNat state = some final := by
  cases test with
  | none => exact .inl ⟨limit, Nat.le_refl limit, nofun, halted⟩
  | some asked =>
    obtain ⟨less, fewer, led⟩ := run_cases stands (readable_jump_toward asked past)
      (asked.order?_jump_toward past) rfl halted
    rw [size_jump_toward] at led
    cases holds : asked.holds interpretation state with
    | true =>
      rw [holds] at led
      refine .inl ⟨less, Nat.le_of_lt fewer, fun other same => ?_, led⟩
      rw [← Option.some.inj same]
      exact holds
    | false =>
      rw [holds] at led
      exact .inr ⟨less, asked, Nat.le_of_lt fewer, rfl, holds, led⟩

/-- What is to be shown of a block: where the machine stops within a number of steps, it follows a
run of the events. -/
structure Retraces (tables : Tables) (interpretation : Interpretation σ) (code : List UInt8)
    (final : σ) (limit : Nat) (statements : List Statement) : Prop where
  runs : ∀ {looped path descend first events start exit state},
    Event.block tables looped path descend first events = .ok statements →
      Stands code start (blockInstructions start exit statements) →
        run interpretation code limit start state = some final →
          ∃ flow reached, Event.Runs tables interpretation events state flow reached
            ∧ HaltsWithin interpretation code limit (start + blockSize statements) exit.toNat
              reached final flow

variable {tables : Tables} {limit : Nat} {statements : List Statement}

theorem retraces_nil : Retraces tables interpretation code final limit [] := by
  refine ⟨fun {_ _ _ _ events _ _ state} accepted _ halted => ?_⟩
  have empty : events = [] := Event.block_cases accepted
  rw [empty]
  exact ⟨.goesOn, state, .done, limit, Nat.le_refl limit, halted⟩

theorem retraces_perform {action : Action}
    (rest : ∀ less, less < limit → Retraces tables interpretation code final less statements) :
    Retraces tables interpretation code final limit (.perform action :: statements) := by
  refine ⟨fun {_ _ _ _ _ start exit state} accepted stands halted => ?_⟩
  obtain ⟨event, others, rfl, head, tail⟩ := Event.block_cases accepted
  have resolved := Event.statement_cases head
  obtain ⟨here, later⟩ := stands_cons stands
  by_cases stopped : event = .stop
  · subst stopped
    have ordered : action.instruction.order? = some .stop := by
      rw [← ResolvedEvent.plain.inj (Except.ok.inj resolved)]
      rfl
    cases limit with
    | zero => cases halted
    | succ limit =>
      rw [run_of_stands here action.straight.toIsReadable ordered] at halted
      exact ⟨.stops, state, .stop, Option.some.inj halted⟩
  · obtain ⟨effect, does, ordered⟩ := Event.order?_of_resolve resolved stopped
    obtain ⟨less, fewer, led⟩ := run_cases here action.straight.toIsReadable ordered rfl halted
    obtain ⟨flow, reached, runs, within⟩ := (rest less fewer).runs tail later led
    refine ⟨flow, reached, .perform does runs, ?_⟩
    rw [blockSize, ← Nat.add_assoc]
    exact within.mono (Nat.le_of_lt fewer)

theorem retraces_branch (fits : code.length < 65536) {test : Test} {first second : List Statement}
    (whenTrue : ∀ less, less < limit → Retraces tables interpretation code final less first)
    (whenFalse : ∀ less, less < limit → Retraces tables interpretation code final less second)
    (rest : ∀ less, less < limit → Retraces tables interpretation code final less statements) :
    Retraces tables interpretation code final limit (.branch test first second :: statements) := by
  refine ⟨fun {_ _ _ _ _ start exit state} accepted stands halted => ?_⟩
  obtain ⟨event, others, rfl, head, tail⟩ := Event.block_cases accepted
  obtain ⟨whenTrueEvents, whenFalseEvents, branches, acceptedTrue, acceptedFalse⟩ :=
    Event.statement_cases head
  have chooses := Event.branches_iff_chooses.1 branches
  obtain ⟨here, later⟩ := stands_cons stands
  obtain ⟨other, past, otherPlaced, pastPlaced, jump, standsTrue, standsSkip, standsFalse⟩ :=
    stands_branch fits here
  have pastBehind : past.toNat = other.toNat + blockSize second := by
    rw [otherPlaced, pastPlaced, Statement.size]
    omega
  obtain ⟨less, fewer, led⟩ := run_cases jump (readable_jump_toward test other)
    (test.order?_jump_toward other) rfl halted
  have chosen : ∃ flow reached, Event.Runs tables interpretation
      (if test.holds interpretation state then whenTrueEvents else whenFalseEvents) state flow reached
      ∧ HaltsWithin interpretation code less past.toNat exit.toNat reached final flow := by
    by_cases holds : test.holds interpretation state = true
    · rw [if_pos holds, size_jump_toward] at led
      rw [if_pos holds]
      obtain ⟨flow, reached, runs, within⟩ := (whenTrue less fewer).runs acceptedTrue standsTrue led
      refine ⟨flow, reached, runs, within.imp (run_skip standsSkip ?_)⟩
      rw [pastBehind, otherPlaced]
    · rw [if_neg holds] at led ⊢
      rw [pastBehind]
      exact (whenFalse less fewer).runs acceptedFalse standsFalse led
  obtain ⟨flow, reached, runs, within⟩ := chosen
  cases flow with
  | goesOn =>
    obtain ⟨left, bounded, behind⟩ := within
    rw [pastPlaced] at behind
    have leftFewer := Nat.lt_of_le_of_lt bounded fewer
    obtain ⟨flow, last, ran, within⟩ := (rest left leftFewer).runs tail later behind
    refine ⟨flow, last, .branch chooses runs ran, ?_⟩
    rw [blockSize, ← Nat.add_assoc]
    exact within.mono (Nat.le_of_lt leftFewer)
  | leavesLoop => exact ⟨_, reached, .branchEnds chooses runs nofun, within.mono (Nat.le_of_lt fewer)⟩
  | stops => exact ⟨_, reached, .branchEnds chooses runs nofun, within⟩

theorem retraces_loop (fits : code.length < 65536) {test : Option Test} {body : List Statement}
    (inner : ∀ less, less ≤ limit → Retraces tables interpretation code final less body)
    (again : ∀ less, less < limit →
      Retraces tables interpretation code final less (.loop test body :: statements))
    (rest : ∀ less, less ≤ limit → Retraces tables interpretation code final less statements) :
    Retraces tables interpretation code final limit (.loop test body :: statements) := by
  refine ⟨fun {_ _ _ _ _ start exit state} accepted stands halted => ?_⟩
  obtain ⟨event, others, rfl, head, tail⟩ := Event.block_cases accepted
  obtain ⟨bodyEvents, loops, acceptedBody⟩ := Event.statement_cases head
  have repeats := Event.loops_iff_repeats.1 loops
  obtain ⟨here, later⟩ := stands_cons stands
  obtain ⟨entry, past, entryPlaced, pastPlaced, jump, standsBody, back⟩ := stands_loop fits here
  rw [blockSize, ← Nat.add_assoc]
  obtain ⟨less, bounded, holds, led⟩ | ⟨less, asked, bounded, rfl, fails, led⟩ :=
    run_guard jump halted
  · obtain ⟨flow, reached, runs, within⟩ := (inner less bounded).runs acceptedBody standsBody led
    cases flow with
    | goesOn =>
      obtain ⟨left, leftBounded, behind⟩ := within
      obtain ⟨fewer, least, backAgain⟩ := run_cases back (readable_leap entry)
        (Instruction.order?_leap entry) rfl behind
      rw [entryPlaced] at backAgain
      have strictly : fewer < limit := by omega
      obtain ⟨flow, last, ran, within⟩ := (again fewer strictly).runs accepted stands backAgain
      rw [blockSize, ← Nat.add_assoc] at within
      exact ⟨flow, last, .loopAgain repeats holds runs ran, within.mono (Nat.le_of_lt strictly)⟩
    | leavesLoop =>
      obtain ⟨left, leftBounded, behind⟩ := within
      rw [pastPlaced] at behind
      have leftLeast := Nat.le_trans leftBounded bounded
      obtain ⟨flow, last, ran, within⟩ := (rest left leftLeast).runs tail later behind
      exact ⟨flow, last, .loopLeft repeats holds runs ran, within.mono leftLeast⟩
    | stops => exact ⟨_, reached, .loopStops repeats holds runs, within⟩
  · rw [pastPlaced] at led
    obtain ⟨flow, last, ran, within⟩ := (rest less bounded).runs tail later led
    exact ⟨flow, last, .loopOver repeats fails ran, within.mono bounded⟩

theorem retraces_leaveLoop :
    Retraces tables interpretation code final limit (.leaveLoop :: statements) := by
  refine ⟨fun {_ _ _ _ _ start exit state} accepted stands halted => ?_⟩
  obtain ⟨event, others, rfl, head, _⟩ := Event.block_cases accepted
  obtain ⟨rfl, _⟩ := Event.statement_cases head
  obtain ⟨less, fewer, led⟩ := run_cases (stands_cons stands).1 (readable_leap exit)
    (Instruction.order?_leap exit) rfl halted
  exact ⟨.leavesLoop, state, .leaveLoop, less, Nat.le_of_lt fewer, led⟩

/-- **A run of the machine that stops is a run of the events.** The recursion is on the steps first:
a body without a test before it is entered without any step, but then it is smaller than its loop. -/
theorem retraces (tables : Tables) (fits : code.length < 65536) (limit : Nat)
    (statements : List Statement) :
    Retraces tables interpretation code final limit statements :=
  match statements with
  | [] => retraces_nil
  | .perform _ :: statements =>
    retraces_perform fun less _ => retraces tables fits less statements
  | .branch _ first second :: statements =>
    retraces_branch fits (fun less _ => retraces tables fits less first)
      (fun less _ => retraces tables fits less second)
      fun less _ => retraces tables fits less statements
  | .loop test body :: statements =>
    retraces_loop fits (fun less _ => retraces tables fits less body)
      (fun less _ => retraces tables fits less (.loop test body :: statements))
      fun less _ => retraces tables fits less statements
  | .leaveLoop :: _ => retraces_leaveLoop
termination_by (limit, sizeOf statements)
decreasing_by
  all_goals try exact .left _ _ ‹_›
  all_goals
    rcases Nat.lt_or_eq_of_le ‹less ≤ limit› with fewer | rfl
    · exact .left _ _ fewer
    · refine .right _ ?_
      simp only [List.cons.sizeOf_spec, Statement.loop.sizeOf_spec]
      omega

end Machine

/-! ### Whole scripts -/

namespace CompiledScript

open Instruction (Stands)
open Statement (blockInstructions blockSize)

variable {statements : List Statement} {symbol : String} {state final : σ}

theorem stands_ofStatements (symbol : String) (statements : List Statement) :
    Stands (ofStatements symbol statements).code 0 (blockInstructions 0 unresolved statements)
      ∧ Stands (ofStatements symbol statements).code (blockSize statements) [Lowered.ending] := by
  have whole : Stands (ofStatements symbol statements).code 0
      (blockInstructions 0 unresolved statements ++ [Lowered.ending]) :=
    ⟨[], [], by rw [code_ofStatements, List.nil_append, List.append_nil], rfl⟩
  have behind := whole.right
  rw [← Statement.blockCode, Statement.length_blockCode, Nat.zero_add] at behind
  exact ⟨whole.left, behind⟩

theorem run_ending {limit : Nat}
    (halted : Machine.run interpretation (ofStatements symbol statements).code limit
      (blockSize statements) state = some final) : state = final := by
  cases limit with
  | zero => cases halted
  | succ limit =>
    rw [Machine.run_of_stands (stands_ofStatements symbol statements).2 readable_ending rfl] at halted
    exact Option.some.inj halted

/-- **A compiled script does what its tree says**: whatever effects do and tests find, from
every state the machine stops on the bytes just when the tree does, and in the same state. -/
theorem stops_iff_halts {tables : Tables} {source : ScriptSource} {script : CompiledScript}
    (compiled : ofSource tables source = .ok script) (interpretation : Interpretation σ)
    (state final : σ) :
    Event.Stops tables interpretation source.body state final
      ↔ Machine.Halts interpretation script.code 0 state final := by
  obtain ⟨statements, accepted, fits, rfl⟩ := ofSource_eq_ok compiled
  obtain ⟨stands, ending⟩ := stands_ofStatements source.symbol statements
  have short : (ofStatements source.symbol statements).code.length < 65536 := by
    rw [length_code_ofStatements]
    exact Nat.lt_succ_of_le fits
  constructor
  · rintro (runs | runs)
    · exact Machine.halts_of_runs short runs accepted stands rfl
    · refine Machine.halts_of_runs short runs accepted stands ⟨1, ?_⟩
      rw [Nat.zero_add, Machine.run_of_stands ending readable_ending rfl]
      rfl
  · rintro ⟨limit, halted⟩
    obtain ⟨flow, reached, runs, within⟩ :=
      (Machine.retraces tables short limit statements).runs accepted stands halted
    cases flow with
    | goesOn =>
      obtain ⟨less, _, behind⟩ := within
      rw [Nat.zero_add] at behind
      exact .inr (run_ending behind ▸ runs)
    | leavesLoop => exact (runs.ne_leavesLoop accepted rfl).elim
    | stops => exact .inl (within ▸ runs)

/-- Two variables and two flags, of which the second ones are used. -/
def shopTables : Tables where
  gameVariables := ((∅ : NameTable UInt8).insert "lives" 0).insert "coins" 1
  flags := ((∅ : NameTable UInt8).insert "night" 0).insert "broke" 1
  actors := ∅
  assets := ∅
  symbols := ∅
  startScene := none

/-- Spends a coin. -/
def purchase : List Event :=
  [.changeVariable "coins" .subtract (.literal 1), .ifFlag "broke" [.leaveLoop] []]

/-- Spends the coins one by one, and stops once none is left. -/
def shop : List Event :=
  [.loopWhile "coins" .greater (.literal 0) purchase,
    .ifVariable "coins" .atMost (.literal 0) [.setFlag "broke"] [.hideOverlay],
    .ifFlag "broke" [.stop] [],
    .clearFlag "broke"]

/-- The number of coins, and whether the flag is set that none is left. -/
def purse : Interpretation (Nat × Bool) where
  perform
    | .changeVariable 1 .subtract (.literal price), (coins, broke) => (coins - price.toNat, broke)
    | .setFlag 1, (coins, _) => (coins, true)
    | .clearFlag 1, (coins, _) => (coins, false)
    | _, state => state
  flag slot state := slot == 1 && state.2
  comparison
    | 1, .greater, .literal bound, (coins, _) => bound.toNat < coins
    | 1, .atMost, .literal bound, (coins, _) => coins ≤ bound.toNat
    | _, _, _, _ => false

theorem get?_coins : shopTables.gameVariables.get? "coins" = some 1 := by
  simp [shopTables, OrderedTable.get?_insert]

theorem get?_broke : shopTables.flags.get? "broke" = some 1 := by
  simp [shopTables, OrderedTable.get?_insert]

theorem comparison?_coins (compared : Comparison) :
    shopTables.comparison? "coins" compared (.literal 0)
      = some (.comparison 1 compared (.literal 0)) := by
  rw [Tables.comparison?, get?_coins]
  rfl

theorem resolve_spend : (Event.changeVariable "coins" .subtract (.literal 1)).resolve shopTables
    = .ok (.plain ⟨.changeVariable, [.byte 1, .byte 1, .argument (.literal 1)]⟩) := by
  rw [Event.resolve, Tables.gameVariable, get?_coins]
  rfl

theorem resolve_setBroke : (Event.setFlag "broke").resolve shopTables
    = .ok (.plain ⟨.setFlag, [.byte 1]⟩) := by
  rw [Event.resolve, Tables.flag, get?_broke]
  rfl

theorem resolve_clearBroke : (Event.clearFlag "broke").resolve shopTables
    = .ok (.plain ⟨.clearFlag, [.byte 1]⟩) := by
  rw [Event.resolve, Tables.flag, get?_broke]
  rfl

/-- The code of the shop, with jumps to 24, 21, 37, 38 and 43, and one back to the start. -/
theorem ofSource_shop : ofSource shopTables ⟨"script_shop", "script", shop⟩
    = .ok ⟨"script_shop",
      [7, 1, 4, 0, 0, 0, 24, 0, 3, 1, 1, 0, 1, 0, 6, 1, 21, 0, 8, 24, 0, 8, 0, 0,
        7, 1, 3, 0, 0, 0, 37, 0, 4, 1, 8, 38, 0, 17, 6, 1, 43, 0, 0, 5, 1, 0],
      [0, 24, 21, 37, 38, 43]⟩ := by
  have asked (compared : Comparison) : shopTables.comparisonTest "coins" compared (.literal 0)
      = .ok (.comparison 1 compared (.literal 0)) :=
    Tables.comparisonTest_eq_ok_iff.2 (comparison?_coins compared)
  have looked : shopTables.flagTest "broke" = .ok (.flag 1) :=
    Tables.flagTest_eq_ok_iff.2 ⟨1, get?_broke, rfl⟩
  rw [ofSource_eq]
  simp only [shop, purchase, Event.script, Event.block, Event.statement, asked, looked,
    Event.action_of_resolve resolve_spend, Event.action_of_resolve resolve_setBroke,
    Event.action_of_resolve resolve_clearBroke]
  rfl

/-- Two coins are spent in two turns of the loop, which is left where its comparison fails. The next
comparison holds, and the script stops as the flag is set by then. -/
theorem stops_iff_halts_shop :
    ∃ script, ofSource shopTables ⟨"script_shop", "script", shop⟩ = .ok script
      ∧ Machine.Halts purse script.code 0 (2, false) (0, true) := by
  have turn (coins : Nat) :
      Event.Runs shopTables purse purchase (coins + 1, false) .goesOn (coins, false) := by
    refine .perform (?_ : _ = some (Effect.changeVariable 1 .subtract (.literal 1)))
      (.branch (.ifFlag get?_broke) .done .done)
    rw [Event.effect?, get?_coins]
    rfl
  have behind : Event.Runs shopTables purse
      [.ifVariable "coins" .atMost (.literal 0) [.setFlag "broke"] [.hideOverlay],
        .ifFlag "broke" [.stop] [], .clearFlag "broke"] (0, false) .stops (0, true) := by
    refine .branch (.ifVariable (comparison?_coins .atMost))
      (.perform (?_ : _ = some (Effect.setFlag 1)) .done)
      (.branchEnds (.ifFlag get?_broke) .stop (by decide))
    rw [Event.effect?, get?_broke]
    rfl
  have repeats : Event.Repeats shopTables (.loopWhile "coins" .greater (.literal 0) purchase)
      (some (.comparison 1 .greater (.literal 0))) purchase :=
    .loopWhile (comparison?_coins .greater)
  refine ⟨_, ofSource_shop, (stops_iff_halts ofSource_shop purse (2, false) (0, true)).1 (.inl ?_)⟩
  refine .loopAgain repeats ?_ (turn 1)
    (.loopAgain repeats ?_ (turn 0) (.loopOver repeats rfl behind))
  · rintro _ ⟨⟩
    rfl
  · rintro _ ⟨⟩
    rfl

end CompiledScript
end Cartridge
