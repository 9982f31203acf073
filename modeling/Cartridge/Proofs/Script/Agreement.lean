import Cartridge.Proofs.Script.Execution
import Cartridge.Proofs.Script.Generation

/-!
# The compiler's instructions and what events mean

The compiler resolves the names of an event and writes an instruction; the engine decodes an order
from it. This order is what the event means.

* `Test.order?_jump_toward`: a jump of the compiler asks its test.
* `Event.order?_of_resolve`: the instruction of an event has the effect of the event.
* `Event.branches_iff_chooses`, `Event.loops_iff_repeats`: conditionals and loops ask what they say.
* `Event.Runs.ne_leavesLoop`: a script never leaves a loop that it is not in.
-/

namespace Cartridge

variable {tables : Tables} {field name : String}

/-! ### Jumps -/

theorem Test.order?_jump_toward (test : Test) (target : UInt16) :
    (test.jump.toward target).order? = some (.unless test target) := by
  cases test with
  | flag slot => rfl
  | comparison slot compared value =>
    simp [jump, Instruction.toward, Instruction.order?, Comparison.ofNumber?_code]

theorem Instruction.order?_leap (target : UInt16) :
    (Instruction.leap target).order? = some (.goTo target) := rfl

/-! ### Names -/

namespace Tables

theorem argument_eq_ok_iff {value : Argument} {operand : ArgumentOperand} :
    tables.argument field value = .ok operand ↔ tables.operand? value = some operand := by
  constructor
  · intro accepted
    cases value with
    | literal value =>
      cases accepted
      rfl
    | ofVariable name =>
      obtain ⟨slot, found, accepted⟩ := bind_eq_ok accepted
      cases accepted
      rw [operand?, lookUp_eq_ok_iff.1 found]
      rfl
  · intro valued
    cases value with
    | literal value =>
      cases valued
      rfl
    | ofVariable name =>
      obtain ⟨slot, known, valued⟩ := Option.bind_eq_some_iff.1 valued
      cases valued
      rw [argument, gameVariable, lookUp_eq_ok_iff.2 known]
      rfl

theorem flagTest_eq_ok_iff {test : Test} :
    tables.flagTest name = .ok test
      ↔ ∃ slot, tables.flags.get? name = some slot ∧ test = .flag slot := by
  constructor
  · intro asked
    obtain ⟨slot, found, asked⟩ := bind_eq_ok asked
    cases asked
    exact ⟨slot, lookUp_eq_ok_iff.1 found, rfl⟩
  · rintro ⟨slot, known, rfl⟩
    rw [flagTest, flag, lookUp_eq_ok_iff.2 known]
    rfl

theorem comparisonTest_eq_ok_iff {compared : Comparison} {value : Argument} {test : Test} :
    tables.comparisonTest name compared value = .ok test
      ↔ tables.comparison? name compared value = some test := by
  constructor
  · intro asked
    obtain ⟨slot, found, asked⟩ := bind_eq_ok asked
    obtain ⟨operand, argument, asked⟩ := bind_eq_ok asked
    cases asked
    rw [comparison?, lookUp_eq_ok_iff.1 found, argument_eq_ok_iff.1 argument]
    rfl
  · intro asked
    obtain ⟨slot, known, asked⟩ := Option.bind_eq_some_iff.1 asked
    obtain ⟨operand, valued, asked⟩ := Option.bind_eq_some_iff.1 asked
    cases asked
    rw [comparisonTest, gameVariable, lookUp_eq_ok_iff.2 known, argument_eq_ok_iff.2 valued]
    rfl

end Tables

namespace Event

variable {event : Event} {test : Test} {whenTrue whenFalse : List Event}

/-- **The instruction of an event has the effect of the event.** -/
theorem order?_of_resolve {instruction : Instruction}
    (resolved : event.resolve tables = .ok (.plain instruction)) (other : event ≠ .stop) :
    ∃ effect, event.effect? tables = some effect
      ∧ instruction.order? = some (.perform effect) := by
  cases event with
  | stop => exact (other rfl).elim
  | ifFlag | ifVariable | loopWhile | loopForever | leaveLoop =>
    exact (isPlain_of_resolve resolved).elim
  | hideOverlay | stopMusic | wait =>
    cases resolved
    exact ⟨_, rfl, rfl⟩
  | showOverlay color =>
    cases resolved
    exact ⟨_, rfl, by simp [Instruction.order?, OverlayColor.ofNumber?_code]⟩
  | text | moveCamera =>
    rw [resolve] at resolved
    split at resolved <;> cases resolved
    exact ⟨_, rfl, rfl⟩
  | setFlag | clearFlag | showActor | hideActor | callScript | switchScene =>
    obtain ⟨number, found, resolved⟩ := bind_eq_ok resolved
    cases resolved
    have known := Tables.lookUp_eq_ok_iff.1 found
    exact ⟨_, by rw [effect?, known]; rfl, rfl⟩
  | playSong | playSound =>
    obtain ⟨number, found, resolved⟩ := bind_eq_ok resolved
    cases resolved
    have known := (Tables.asset_eq_ok_iff.1 found).2
    exact ⟨_, by rw [effect?, known]; rfl, rfl⟩
  | turnActor name direction =>
    obtain ⟨slot, found, resolved⟩ := bind_eq_ok resolved
    cases resolved
    have known := Tables.lookUp_eq_ok_iff.1 found
    exact ⟨_, by rw [effect?, known]; rfl,
      by simp [Instruction.order?, Direction.ofNumber?_code]⟩
  | setVariable name value =>
    obtain ⟨slot, found, resolved⟩ := bind_eq_ok resolved
    obtain ⟨operand, argument, resolved⟩ := bind_eq_ok resolved
    cases resolved
    have known := Tables.lookUp_eq_ok_iff.1 found
    have valued := Tables.argument_eq_ok_iff.1 argument
    exact ⟨_, by rw [effect?, known, valued]; rfl, rfl⟩
  | changeVariable name operator value =>
    obtain ⟨slot, found, resolved⟩ := bind_eq_ok resolved
    obtain ⟨operand, argument, resolved⟩ := bind_eq_ok resolved
    cases resolved
    have known := Tables.lookUp_eq_ok_iff.1 found
    have valued := Tables.argument_eq_ok_iff.1 argument
    exact ⟨_, by rw [effect?, known, valued]; rfl,
      by simp [Instruction.order?, MathOperator.ofNumber?_code]⟩
  | moveActor name x y =>
    obtain ⟨slot, found, resolved⟩ := bind_eq_ok resolved
    obtain ⟨column, xArgument, resolved⟩ := bind_eq_ok resolved
    obtain ⟨row, yArgument, resolved⟩ := bind_eq_ok resolved
    cases resolved
    have known := Tables.lookUp_eq_ok_iff.1 found
    have xValued := Tables.argument_eq_ok_iff.1 xArgument
    have yValued := Tables.argument_eq_ok_iff.1 yArgument
    exact ⟨_, by rw [effect?, known, xValued, yValued]; rfl, rfl⟩

theorem branches_iff_chooses : event.Branches tables test whenTrue whenFalse
    ↔ event.Chooses tables test whenTrue whenFalse := by
  constructor
  · rintro (⟨asked⟩ | ⟨asked⟩)
    · obtain ⟨slot, known, rfl⟩ := Tables.flagTest_eq_ok_iff.1 asked
      exact .ifFlag known
    · exact .ifVariable (Tables.comparisonTest_eq_ok_iff.1 asked)
  · rintro (⟨known⟩ | ⟨known⟩)
    · exact .ifFlag (Tables.flagTest_eq_ok_iff.2 ⟨_, known, rfl⟩)
    · exact .ifVariable (Tables.comparisonTest_eq_ok_iff.2 known)

theorem loops_iff_repeats {test : Option Test} {body : List Event} :
    event.Loops tables test body ↔ event.Repeats tables test body := by
  constructor
  · rintro (⟨asked⟩ | _)
    · exact .loopWhile (Tables.comparisonTest_eq_ok_iff.1 asked)
    · exact .loopForever
  · rintro (⟨known⟩ | _)
    · exact .loopWhile (Tables.comparisonTest_eq_ok_iff.2 known)
    · exact .loopForever

/-- **An event with an effect is performed by one instruction**, if it is accepted. -/
theorem statement_of_effect {effect : Effect} (does : event.effect? tables = some effect)
    {looped : Bool} {path : NodePath} {statement : Statement}
    (accepted : event.statement tables looped path = .ok statement) :
    ∃ action : Action, statement = .perform action
      ∧ action.instruction.order? = some (.perform effect) := by
  have isPlain : event.IsPlain := by
    cases event with
    | ifFlag | ifVariable | loopWhile | loopForever | leaveLoop => cases does
    | _ => trivial
  have other : event ≠ .stop := by
    rintro rfl
    cases does
  rw [isPlain.statement_eq] at accepted
  obtain ⟨fault, _, failed⟩ | ⟨action, resolved, taken⟩ := isPlain.action_cases tables
  · rw [failed] at accepted
    cases accepted
  · rw [taken] at accepted
    cases accepted
    obtain ⟨same, found, ordered⟩ := order?_of_resolve resolved other
    cases does.symm.trans found
    exact ⟨action, rfl, ordered⟩

/-- **A script does not leave a loop that it is not in.** -/
theorem Runs.ne_leavesLoop {σ : Type} {interpretation : Interpretation σ} {events : List Event}
    {state final : σ} {flow : Flow} (runs : Runs tables interpretation events state flow final) :
    ∀ {path descend first statements},
      block tables false path descend first events = .ok statements → flow ≠ .leavesLoop := by
  induction runs with
  | done | stop | loopStops => exact fun _ => nofun
  | perform _ _ ih | branch _ _ _ _ ih | loopOver _ _ _ ih | loopLeft _ _ _ _ _ ih =>
    intro _ _ _ _ accepted
    obtain ⟨_, _, _, _, tail⟩ := block_cons_cases accepted
    exact ih tail
  | branchEnds chooses _ _ ih =>
    intro _ _ _ _ accepted
    obtain ⟨_, _, _, head, _⟩ := block_cons_cases accepted
    obtain ⟨_, _, _, whenTrue, whenFalse⟩ := (branches_iff_chooses.2 chooses).statement_cases head
    split at ih
    · exact ih whenTrue
    · exact ih whenFalse
  | loopAgain _ _ _ _ _ ih => exact ih
  | leaveLoop =>
    intro _ _ _ _ accepted
    obtain ⟨_, _, _, head, _⟩ := block_cons_cases accepted
    cases head

end Event
end Cartridge
