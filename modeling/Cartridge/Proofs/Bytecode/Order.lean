import Cartridge.Project.Event
import Cartridge.Proofs.Bytecode.Reading

/-!
# What instructions tell the engine

Behind the bytes of an instruction is what the engine is to do: to stop, to go on somewhere else, or
to do something to the game. A byte that stands for a choice is decoded, too: the choices have their
numbers in the order in which a project lists them.

* `Effect`: what an instruction does to the game, its operands decoded.
* `Test`: what a jump asks.
* `Order`: what the engine is told.
* `Instruction.order?`: the order that an instruction is, if it is one.
-/

namespace Cartridge

/-- **What an instruction does to the game.** Names are slots and indices already. -/
inductive Effect where
  | text (bytes : List UInt8)
  | setVariable (slot : UInt8) (value : ArgumentOperand)
  | changeVariable (slot : UInt8) (operator : MathOperator) (value : ArgumentOperand)
  | setFlag (slot : UInt8)
  | clearFlag (slot : UInt8)
  | callScript (index : UInt16)
  | switchScene (index : UInt16) (x y : UInt8)
  | moveActor (slot : UInt8) (x y : ArgumentOperand)
  | turnActor (slot : UInt8) (direction : Direction)
  | showActor (slot : UInt8)
  | hideActor (slot : UInt8)
  | moveCamera (x y speed : UInt8)
  | showOverlay (color : OverlayColor) (x y : UInt8)
  | hideOverlay
  | wait (frames : UInt16)
  | playSong (index : UInt16)
  | stopMusic
  | playSound (index : UInt16)
  deriving DecidableEq, Repr

/-- What a conditional or a loop asks. -/
inductive Test where
  | flag (slot : UInt8)
  | comparison (slot : UInt8) (compared : Comparison) (value : ArgumentOperand)
  deriving DecidableEq, Repr

/-- **What the engine is told by an instruction.** -/
inductive Order where
  | stop
  | goTo (target : UInt16)
  /-- Goes to the target where the test fails. -/
  | unless (test : Test) (target : UInt16)
  | perform (effect : Effect)
  deriving DecidableEq, Repr

/-! ### Numbers of choices -/

/-- The operator that a byte stands for. -/
def MathOperator.ofNumber? (number : UInt8) : Option MathOperator :=
  [add, subtract, multiply, divide, remainder][number.toNat]?

/-- The comparison that a byte stands for. -/
def Comparison.ofNumber? (number : UInt8) : Option Comparison :=
  [equal, unequal, less, atMost, greater, atLeast][number.toNat]?

/-- The direction that a byte stands for. -/
def Direction.ofNumber? (number : UInt8) : Option Direction :=
  [down, up, left, right][number.toNat]?

/-- The overlay colour that a byte stands for. -/
def OverlayColor.ofNumber? (number : UInt8) : Option OverlayColor :=
  [black, white][number.toNat]?

theorem MathOperator.ofNumber?_code (operator : MathOperator) :
    ofNumber? operator.code = some operator := by
  cases operator <;> rfl

theorem Comparison.ofNumber?_code (comparison : Comparison) :
    ofNumber? comparison.code = some comparison := by
  cases comparison <;> rfl

theorem Direction.ofNumber?_code (direction : Direction) :
    ofNumber? direction.code = some direction := by
  cases direction <;> rfl

theorem OverlayColor.ofNumber?_code (color : OverlayColor) :
    ofNumber? color.code = some color := by
  cases color <;> rfl

/-! ### Decoding -/

/-- **The order that an instruction is.** It is none if the operands are not those of its operation,
or if a byte stands for no choice. -/
def Instruction.order? (instruction : Instruction) : Option Order :=
  match instruction.operation, instruction.operands with
  | .stop, [] => some .stop
  | .jump, [.label target] => some (.goTo target)
  | .jumpIfFlagClear, [.byte slot, .label target] => some (.unless (.flag slot) target)
  | .jumpUnless, [.byte slot, .byte number, .argument value, .label target] => do
    return .unless (.comparison slot (← Comparison.ofNumber? number) value) target
  | .text, [.text bytes] => some (.perform (.text bytes))
  | .setVariable, [.byte slot, .argument value] => some (.perform (.setVariable slot value))
  | .changeVariable, [.byte slot, .byte number, .argument value] => do
    return .perform (.changeVariable slot (← MathOperator.ofNumber? number) value)
  | .setFlag, [.byte slot] => some (.perform (.setFlag slot))
  | .clearFlag, [.byte slot] => some (.perform (.clearFlag slot))
  | .invoke, [.symbol index] => some (.perform (.callScript index))
  | .switchScene, [.symbol index, .byte x, .byte y] => some (.perform (.switchScene index x y))
  | .moveActor, [.byte slot, .argument x, .argument y] => some (.perform (.moveActor slot x y))
  | .turnActor, [.byte slot, .byte number] => do
    return .perform (.turnActor slot (← Direction.ofNumber? number))
  | .showActor, [.byte slot] => some (.perform (.showActor slot))
  | .hideActor, [.byte slot] => some (.perform (.hideActor slot))
  | .moveCamera, [.byte x, .byte y, .byte speed] => some (.perform (.moveCamera x y speed))
  | .showOverlay, [.byte number, .byte x, .byte y] => do
    return .perform (.showOverlay (← OverlayColor.ofNumber? number) x y)
  | .hideOverlay, [] => some (.perform .hideOverlay)
  | .wait, [.word frames] => some (.perform (.wait frames))
  | .playSong, [.symbol index] => some (.perform (.playSong index))
  | .stopMusic, [] => some (.perform .stopMusic)
  | .playSound, [.symbol index] => some (.perform (.playSound index))
  | _, _ => none

end Cartridge
