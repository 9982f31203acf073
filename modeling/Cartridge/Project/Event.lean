/-!
# Event trees

A script of the game is a list of events; conditionals and loops hold further lists. The constants
of the script engine (`MathOperator.code` and its like) are the numbers that stand for a choice in
the bytecode.
-/

namespace Cartridge

/-- An argument that is known beforehand, or is read from a variable when the script runs. -/
inductive Argument where
  | literal (value : UInt16)
  | ofVariable (name : String)
  deriving DecidableEq, Repr

/-- What a variable is changed by. -/
inductive MathOperator where
  | add
  | subtract
  | multiply
  | divide
  | remainder
  deriving DecidableEq, Repr

/-- How a variable is compared. -/
inductive Comparison where
  | equal
  | unequal
  | less
  | atMost
  | greater
  | atLeast
  deriving DecidableEq, Repr

/-- Where an actor looks. -/
inductive Direction where
  | down
  | up
  | left
  | right
  deriving DecidableEq, Repr

/-- The colour of the overlay. -/
inductive OverlayColor where
  | black
  | white
  deriving DecidableEq, Repr

/-- One node of a script. -/
inductive Event where
  /-- Stops the whole script. -/
  | stop
  /-- Shows a text box. -/
  | text (text : String)
  | setVariable (name : String) (value : Argument)
  | changeVariable (name : String) (operator : MathOperator) (value : Argument)
  | setFlag (flag : String)
  | clearFlag (flag : String)
  /-- Runs one branch where the flag is set and the other where it is clear. -/
  | ifFlag (flag : String) (whenTrue whenFalse : List Event)
  /-- Runs one branch where the comparison holds and the other where it does not. -/
  | ifVariable (name : String) (comparison : Comparison) (value : Argument)
      (whenTrue whenFalse : List Event)
  /-- Repeats its body as long as the comparison holds before it. -/
  | loopWhile (name : String) (comparison : Comparison) (value : Argument)
      (body : List Event)
  | loopForever (body : List Event)
  /-- Leaves the innermost loop around it. -/
  | leaveLoop
  /-- Runs another script. -/
  | callScript (script : String)
  | switchScene (scene : String) (x y : UInt8)
  | moveActor (actor : String) (x y : Argument)
  | turnActor (actor : String) (direction : Direction)
  | showActor (actor : String)
  | hideActor (actor : String)
  | moveCamera (x y speed : UInt8)
  | showOverlay (color : OverlayColor) (x y : UInt8)
  | hideOverlay
  | wait (frames : UInt16)
  | playSong (song : String)
  | stopMusic
  | playSound (sound : String)
  deriving Repr

/-! ### Constants of the script engine -/

/-- The number of an operator in the bytecode. -/
def MathOperator.code : MathOperator → UInt8
  | add => 0
  | subtract => 1
  | multiply => 2
  | divide => 3
  | remainder => 4

/-- The number of a comparison in the bytecode. -/
def Comparison.code : Comparison → UInt8
  | equal => 0
  | unequal => 1
  | less => 2
  | atMost => 3
  | greater => 4
  | atLeast => 5

/-- The number of a direction in the bytecode. -/
def Direction.code : Direction → UInt8
  | down => 0
  | up => 1
  | left => 2
  | right => 3

/-- The number of an overlay colour in the bytecode. -/
def OverlayColor.code : OverlayColor → UInt8
  | black => 0
  | white => 1

/-! ### Spellings -/

/-- How an operator is written in a project. -/
def MathOperator.spelling : MathOperator → String
  | add => "+="
  | subtract => "-="
  | multiply => "*="
  | divide => "/="
  | remainder => "%="

/-- How a comparison is written in a project. -/
def Comparison.spelling : Comparison → String
  | equal => "=="
  | unequal => "!="
  | less => "<"
  | atMost => "<="
  | greater => ">"
  | atLeast => ">="

/-- How a direction is written in a project. -/
def Direction.spelling : Direction → String
  | down => "down"
  | up => "up"
  | left => "left"
  | right => "right"

/-- How an overlay colour is written in a project. -/
def OverlayColor.spelling : OverlayColor → String
  | black => "black"
  | white => "white"

end Cartridge
