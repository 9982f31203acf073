/-!
# Operations of the script engine

The engine's operations with their numbers and names. The numbers are the places in `Opcode.all`.
-/

namespace Cartridge

/-- An operation of the script engine. -/
inductive Opcode where
  | stop
  | text
  | setVariable
  | changeVariable
  | setFlag
  | clearFlag
  | jumpIfFlagClear
  | jumpUnless
  | jump
  | invoke
  | switchScene
  | moveActor
  | turnActor
  | showActor
  | hideActor
  | moveCamera
  | showOverlay
  | hideOverlay
  | wait
  | playSong
  | stopMusic
  | playSound
  deriving DecidableEq, Repr

namespace Opcode

/-- Every operation, in the order of their numbers. -/
def all : List Opcode :=
  [stop, text, setVariable, changeVariable, setFlag, clearFlag, jumpIfFlagClear, jumpUnless, jump,
    invoke, switchScene, moveActor, turnActor, showActor, hideActor, moveCamera, showOverlay,
    hideOverlay, wait, playSong, stopMusic, playSound]

/-- The byte that stands for an operation. -/
def number : Opcode → UInt8
  | stop => 0
  | text => 1
  | setVariable => 2
  | changeVariable => 3
  | setFlag => 4
  | clearFlag => 5
  | jumpIfFlagClear => 6
  | jumpUnless => 7
  | jump => 8
  | invoke => 9
  | switchScene => 10
  | moveActor => 11
  | turnActor => 12
  | showActor => 13
  | hideActor => 14
  | moveCamera => 15
  | showOverlay => 16
  | hideOverlay => 17
  | wait => 18
  | playSong => 19
  | stopMusic => 20
  | playSound => 21

/-- The operation that a byte stands for. -/
def ofNumber? (number : UInt8) : Option Opcode := all[number.toNat]?

/-- The number of an operation is its place. -/
theorem ofNumber?_number (operation : Opcode) : ofNumber? operation.number = some operation := by
  cases operation <;> rfl

/-- The name of an operation. -/
def name : Opcode → String
  | stop => "End"
  | text => "Text"
  | setVariable => "SetVar"
  | changeVariable => "VarMath"
  | setFlag => "SetFlag"
  | clearFlag => "ClearFlag"
  | jumpIfFlagClear => "JumpIfFlagClear"
  | jumpUnless => "JumpUnless"
  | jump => "Jump"
  | invoke => "Invoke"
  | switchScene => "SwitchScene"
  | moveActor => "ActorMoveTo"
  | turnActor => "ActorSetDir"
  | showActor => "ActorShow"
  | hideActor => "ActorHide"
  | moveCamera => "CameraMoveTo"
  | showOverlay => "OverlayShow"
  | hideOverlay => "OverlayHide"
  | wait => "Wait"
  | playSong => "PlaySong"
  | stopMusic => "StopMusic"
  | playSound => "PlaySound"

/-- The constant of the engine's sources that names an operation. -/
def constant : Opcode → String
  | stop => "OP_END"
  | text => "OP_TEXT"
  | setVariable => "OP_SET_VAR"
  | changeVariable => "OP_VAR_MATH"
  | setFlag => "OP_SET_FLAG"
  | clearFlag => "OP_CLEAR_FLAG"
  | jumpIfFlagClear => "OP_JUMP_IF_FLAG_CLEAR"
  | jumpUnless => "OP_JUMP_UNLESS"
  | jump => "OP_JUMP"
  | invoke => "OP_INVOKE"
  | switchScene => "OP_SWITCH_SCENE"
  | moveActor => "OP_ACTOR_MOVE_TO"
  | turnActor => "OP_ACTOR_SET_DIR"
  | showActor => "OP_ACTOR_SHOW"
  | hideActor => "OP_ACTOR_HIDE"
  | moveCamera => "OP_CAMERA_MOVE_TO"
  | showOverlay => "OP_OVERLAY_SHOW"
  | hideOverlay => "OP_OVERLAY_HIDE"
  | wait => "OP_WAIT"
  | playSong => "OP_PLAY_SONG"
  | stopMusic => "OP_STOP_MUSIC"
  | playSound => "OP_PLAY_SOUND"

end Opcode
end Cartridge
