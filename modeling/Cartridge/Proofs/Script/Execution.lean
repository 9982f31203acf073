import Cartridge.Proofs.Bytecode.Machine
import Cartridge.Symbol.Tables

/-!
# What event trees mean

Event trees are carried out directly, without any bytecode and without the compiler. The tables say
which slot or index a name has. What single effects do to the game, and what tests find in it, is
left to an interpretation.

* `Event.effect?`: what an event does to the game.
* `Event.Chooses`, `Event.Repeats`: what conditionals and loops ask, and what they go on with.
* `Event.Runs`: a run of a list of events, and how it ends.
* `Event.Stops`: a run of a whole script.
-/

namespace Cartridge

variable {σ : Type}

/-! ### Single events -/

namespace Tables

/-- The value that an argument stands for. -/
def operand? (tables : Tables) : Argument → Option ArgumentOperand
  | .literal value => some (.literal value)
  | .ofVariable name => do return .slot (← tables.gameVariables.get? name)

/-- What is asked of a variable. -/
def comparison? (tables : Tables) (name : String) (compared : Comparison) (value : Argument) :
    Option Test := do
  return .comparison (← tables.gameVariables.get? name) compared (← tables.operand? value)

end Tables

namespace Event

/-- **What an event does to the game.** Events that only say where a script goes on have no effect,
and there is none where the tables do not know a name. -/
def effect? (tables : Tables) : Event → Option Effect
  | text words => some (.text words.toUTF8.data.toList)
  | setVariable name value => do
    return .setVariable (← tables.gameVariables.get? name) (← tables.operand? value)
  | changeVariable name operator value => do
    return .changeVariable (← tables.gameVariables.get? name) operator (← tables.operand? value)
  | setFlag name => do return .setFlag (← tables.flags.get? name)
  | clearFlag name => do return .clearFlag (← tables.flags.get? name)
  | callScript name => do return .callScript (← tables.symbols.get? (scriptSymbol name))
  | switchScene name x y => do
    return .switchScene (← tables.symbols.get? (sceneSymbol name)) x y
  | moveActor name x y => do
    return .moveActor (← tables.actors.get? name) (← tables.operand? x) (← tables.operand? y)
  | turnActor name direction => do return .turnActor (← tables.actors.get? name) direction
  | showActor name => do return .showActor (← tables.actors.get? name)
  | hideActor name => do return .hideActor (← tables.actors.get? name)
  | moveCamera x y speed => some (.moveCamera x y speed)
  | showOverlay color x y => some (.showOverlay color x y)
  | hideOverlay => some .hideOverlay
  | wait frames => some (.wait frames)
  | playSong name => do return .playSong (← tables.symbols.get? (assetSymbol name))
  | stopMusic => some .stopMusic
  | playSound name => do return .playSound (← tables.symbols.get? (assetSymbol name))
  | stop | ifFlag .. | ifVariable .. | loopWhile .. | loopForever _ | leaveLoop => none

/-- **The event asks a test and goes on with one of two lists**, the first if the test holds. -/
inductive Chooses (tables : Tables) : Event → Test → List Event → List Event → Prop where
  | ifFlag {name slot whenTrue whenFalse} (known : tables.flags.get? name = some slot) :
    Chooses tables (ifFlag name whenTrue whenFalse) (.flag slot) whenTrue whenFalse
  | ifVariable {name compared value test whenTrue whenFalse}
    (known : tables.comparison? name compared value = some test) :
    Chooses tables (ifVariable name compared value whenTrue whenFalse) test whenTrue whenFalse

/-- **The event repeats a list as long as the test holds**, or for ever if there is none. -/
inductive Repeats (tables : Tables) : Event → Option Test → List Event → Prop where
  | loopWhile {name compared value test body}
    (known : tables.comparison? name compared value = some test) :
    Repeats tables (loopWhile name compared value body) (some test) body
  | loopForever {body} : Repeats tables (loopForever body) none body

end Event

/-! ### Runs -/

/-- How the run of some events ends. -/
inductive Flow where
  /-- Behind the last event. -/
  | goesOn
  | leavesLoop
  | stops
  deriving DecidableEq, Repr

namespace Event

/-- **A run of events**, from a state to a state. A loop runs through its body and is met again
behind it. -/
inductive Runs (tables : Tables) (interpretation : Interpretation σ) :
    List Event → σ → Flow → σ → Prop where
  | done {state} : Runs tables interpretation [] state .goesOn state
  | stop {events state} : Runs tables interpretation (stop :: events) state .stops state
  | perform {event events effect state flow final} (does : event.effect? tables = some effect)
    (later : Runs tables interpretation events (interpretation.perform effect state) flow final) :
    Runs tables interpretation (event :: events) state flow final
  | branch {event events test whenTrue whenFalse state next flow final}
    (chooses : event.Chooses tables test whenTrue whenFalse)
    (inner : Runs tables interpretation
      (if test.holds interpretation state then whenTrue else whenFalse) state .goesOn next)
    (later : Runs tables interpretation events next flow final) :
    Runs tables interpretation (event :: events) state flow final
  | branchEnds {event events test whenTrue whenFalse state flow final}
    (chooses : event.Chooses tables test whenTrue whenFalse)
    (inner : Runs tables interpretation
      (if test.holds interpretation state then whenTrue else whenFalse) state flow final)
    (ends : flow ≠ .goesOn) :
    Runs tables interpretation (event :: events) state flow final
  | loopOver {event events test body state flow final}
    (repeats : event.Repeats tables (some test) body)
    (fails : test.holds interpretation state = false)
    (later : Runs tables interpretation events state flow final) :
    Runs tables interpretation (event :: events) state flow final
  | loopAgain {event events test body state next flow final}
    (repeats : event.Repeats tables test body)
    (holds : ∀ asked ∈ test, asked.holds interpretation state = true)
    (inner : Runs tables interpretation body state .goesOn next)
    (later : Runs tables interpretation (event :: events) next flow final) :
    Runs tables interpretation (event :: events) state flow final
  | loopLeft {event events test body state next flow final}
    (repeats : event.Repeats tables test body)
    (holds : ∀ asked ∈ test, asked.holds interpretation state = true)
    (inner : Runs tables interpretation body state .leavesLoop next)
    (later : Runs tables interpretation events next flow final) :
    Runs tables interpretation (event :: events) state flow final
  | loopStops {event events test body state final}
    (repeats : event.Repeats tables test body)
    (holds : ∀ asked ∈ test, asked.holds interpretation state = true)
    (inner : Runs tables interpretation body state .stops final) :
    Runs tables interpretation (event :: events) state .stops final
  | leaveLoop {events state} :
    Runs tables interpretation (leaveLoop :: events) state .leavesLoop state

/-- **A script stops**, at a stop or behind its last event. -/
def Stops (tables : Tables) (interpretation : Interpretation σ) (body : List Event)
    (state final : σ) : Prop :=
  Runs tables interpretation body state .stops final
    ∨ Runs tables interpretation body state .goesOn final

end Event
end Cartridge
