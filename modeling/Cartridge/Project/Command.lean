import Cartridge.Project.Event

/-!
# Commands

A command is the name under which an event is written in a project. The commands are numbered in
the order of `Command.all`.
-/

namespace Cartridge

/-- The forms of events. -/
inductive Command where
  | stop
  | text
  | setVariable
  | changeVariable
  | setFlag
  | clearFlag
  | ifFlag
  | ifVariable
  | loopWhile
  | loopForever
  | leaveLoop
  | callScript
  | switchScene
  | moveActor
  | turnActor
  | showActor
  | hideActor
  | moveCamera
  | showOverlay
  | hideOverlay
  | wait
  | playSong
  | stopMusic
  | playSound
  deriving DecidableEq, Repr

namespace Command

/-- How a command is written. -/
def name : Command → String
  | stop => "end"
  | text => "text"
  | setVariable => "set_variable"
  | changeVariable => "variable_math"
  | setFlag => "set_flag"
  | clearFlag => "clear_flag"
  | ifFlag => "if_flag"
  | ifVariable => "if_variable"
  | loopWhile => "loop_while"
  | loopForever => "loop_forever"
  | leaveLoop => "break"
  | callScript => "call_script"
  | switchScene => "switch_scene"
  | moveActor => "actor_move_to"
  | turnActor => "actor_set_direction"
  | showActor => "actor_show"
  | hideActor => "actor_hide"
  | moveCamera => "camera_move_to"
  | showOverlay => "overlay_show"
  | hideOverlay => "overlay_hide"
  | wait => "wait"
  | playSong => "play_song"
  | stopMusic => "stop_music"
  | playSound => "play_sound"

/-- Every command, in the order of their numbers. -/
def all : List Command :=
  [stop, text, setVariable, changeVariable, setFlag, clearFlag, ifFlag, ifVariable, loopWhile,
    loopForever, leaveLoop, callScript, switchScene, moveActor, turnActor, showActor, hideActor,
    moveCamera, showOverlay, hideOverlay, wait, playSong, stopMusic, playSound]

/-- No command is left out. -/
theorem mem_all (command : Command) : command ∈ all := by
  cases command <;> decide

/-- The commands under their names. -/
def byName : List (String × Command) :=
  all.map fun command => (command.name, command)

end Command

/-- The command that an event is written with. -/
def Event.command : Event → Command
  | stop => .stop
  | text .. => .text
  | setVariable .. => .setVariable
  | changeVariable .. => .changeVariable
  | setFlag .. => .setFlag
  | clearFlag .. => .clearFlag
  | ifFlag .. => .ifFlag
  | ifVariable .. => .ifVariable
  | loopWhile .. => .loopWhile
  | loopForever .. => .loopForever
  | leaveLoop => .leaveLoop
  | callScript .. => .callScript
  | switchScene .. => .switchScene
  | moveActor .. => .moveActor
  | turnActor .. => .turnActor
  | showActor .. => .showActor
  | hideActor .. => .hideActor
  | moveCamera .. => .moveCamera
  | showOverlay .. => .showOverlay
  | hideOverlay => .hideOverlay
  | wait .. => .wait
  | playSong .. => .playSong
  | stopMusic => .stopMusic
  | playSound .. => .playSound

end Cartridge
