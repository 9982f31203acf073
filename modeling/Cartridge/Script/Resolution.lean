import Cartridge.Bytecode.Instruction
import Cartridge.Script.Node
import Cartridge.Symbol.Tables
import Cartridge.Text.Encoded

/-!
# Resolving the names of an event

The fields of an event are checked one after the other, and each name is replaced by its number.
What remains of an event is an instruction, or the shape of a conditional or a loop with the
instruction that decides it.

* `Event.resolve` — the resolved form of an event, or its first fault.
* `Event.weight` — a measure that exceeds what an event leaves to be done.
-/

namespace Cartridge

/-- An event whose names are resolved. A jump lacks its label still. -/
inductive ResolvedEvent where
  | plain (instruction : Instruction)
  /-- Passes over the first branch if the jump is taken, and over the second one otherwise. -/
  | branch (jump : Instruction) (whenTrue whenFalse : List Event)
  /-- Repeats a body. Before it, the jump leaves the loop, if there is one. -/
  | loop (jump : Option Instruction) (body : List Event)
  | leaveLoop

/-- An instruction with a label as its last operand. -/
def Instruction.toward (instruction : Instruction) (target : Label) : Instruction :=
  { instruction with operands := instruction.operands ++ [.label target] }

namespace Tables

/-- The number that a table has for a name. -/
def lookUp {α : Type} (found : Option α) (reference : Reference) : Except NodeFault α :=
  match found with
  | some number => .ok number
  | none => .error (.unresolved reference)

/-- The slot of a variable. -/
def gameVariable (tables : Tables) (field name : String) : Except NodeFault UInt8 :=
  lookUp (tables.gameVariables.get? name) ⟨field, .gameVariable, name⟩

/-- The slot of a flag. -/
def flag (tables : Tables) (name : String) : Except NodeFault UInt8 :=
  lookUp (tables.flags.get? name) ⟨"flag", .flag, name⟩

/-- The slot of an actor. -/
def actor (tables : Tables) (name : String) : Except NodeFault UInt8 :=
  lookUp (tables.actors.get? name) ⟨"actor", .actor, name⟩

/-- The index of a script's symbol. -/
def script (tables : Tables) (name : String) : Except NodeFault UInt16 :=
  lookUp (tables.symbols.get? (scriptSymbol name)) ⟨"script", .script, name⟩

/-- The index of the symbol of a scene's script. -/
def scene (tables : Tables) (name : String) : Except NodeFault UInt16 :=
  lookUp (tables.symbols.get? (sceneSymbol name)) ⟨"scene", .scene, name⟩

/-- The operand of an argument. -/
def argument (tables : Tables) (field : String) : Argument → Except NodeFault ArgumentOperand
  | .literal value => .ok (.literal value)
  | .ofVariable name => do return .slot (← tables.gameVariable field name)

/-- The index of an asset's symbol. The asset must be of the wanted kind. -/
def asset (tables : Tables) (reference : Reference) (wanted : AssetKind) :
    Except NodeFault UInt16 :=
  match tables.assets.get? reference.name with
  | some found =>
    if found = wanted then lookUp (tables.symbols.get? (assetSymbol reference.name)) reference
    else .error (.wrongAssetKind reference.name found.name wanted.name)
  | none => .error (.unresolved reference)

/-- The operands of a comparison. -/
def condition (tables : Tables) (name : String) (comparison : Comparison) (value : Argument) :
    Except NodeFault (List Operand) := do
  let slot ← tables.gameVariable "variable" name
  let operand ← tables.argument "value" value
  return [.byte slot, .byte comparison.code, .argument operand]

end Tables

namespace Event

/-- An event whose names are resolved. -/
def resolve (tables : Tables) : Event → Except NodeFault ResolvedEvent
  | stop => .ok (.plain ⟨.stop, []⟩)
  | text words =>
    if longestText < words.utf8ByteSize then .error (.longText words.utf8ByteSize)
    else .ok (.plain ⟨.text, [.text (encoded words)]⟩)
  | setVariable name value => do
    let slot ← tables.gameVariable "variable" name
    let operand ← tables.argument "value" value
    return .plain ⟨.setVariable, [.byte slot, .argument operand]⟩
  | changeVariable name operator value => do
    let slot ← tables.gameVariable "variable" name
    let operand ← tables.argument "value" value
    return .plain ⟨.changeVariable, [.byte slot, .byte operator.code, .argument operand]⟩
  | setFlag name => do return .plain ⟨.setFlag, [.byte (← tables.flag name)]⟩
  | clearFlag name => do return .plain ⟨.clearFlag, [.byte (← tables.flag name)]⟩
  | ifFlag name whenTrue whenFalse => do
    return .branch ⟨.jumpIfFlagClear, [.byte (← tables.flag name)]⟩ whenTrue whenFalse
  | ifVariable name comparison value whenTrue whenFalse => do
    return .branch ⟨.jumpUnless, ← tables.condition name comparison value⟩ whenTrue whenFalse
  | loopWhile name comparison value body => do
    return .loop (some ⟨.jumpUnless, ← tables.condition name comparison value⟩) body
  | loopForever body => .ok (.loop none body)
  | leaveLoop => .ok .leaveLoop
  | callScript name => do return .plain ⟨.invoke, [.symbol (← tables.script name)]⟩
  | switchScene name x y => do
    return .plain ⟨.switchScene, [.symbol (← tables.scene name), .byte x, .byte y]⟩
  | moveActor name x y => do
    let slot ← tables.actor name
    let column ← tables.argument "x" x
    let row ← tables.argument "y" y
    return .plain ⟨.moveActor, [.byte slot, .argument column, .argument row]⟩
  | turnActor name direction => do
    return .plain ⟨.turnActor, [.byte (← tables.actor name), .byte direction.code]⟩
  | showActor name => do return .plain ⟨.showActor, [.byte (← tables.actor name)]⟩
  | hideActor name => do return .plain ⟨.hideActor, [.byte (← tables.actor name)]⟩
  | moveCamera x y speed =>
    if greatestSpeed < speed then .error (.fastCamera speed)
    else .ok (.plain ⟨.moveCamera, [.byte x, .byte y, .byte speed]⟩)
  | showOverlay color x y => .ok (.plain ⟨.showOverlay, [.byte color.code, .byte x, .byte y]⟩)
  | hideOverlay => .ok (.plain ⟨.hideOverlay, []⟩)
  | wait frames => .ok (.plain ⟨.wait, [.word frames]⟩)
  | playSong name => do
    return .plain ⟨.playSong, [.symbol (← tables.asset ⟨"song", .song, name⟩ .song)]⟩
  | stopMusic => .ok (.plain ⟨.stopMusic, []⟩)
  | playSound name => do
    return .plain ⟨.playSound, [.symbol (← tables.asset ⟨"sound", .sound, name⟩ .sound)]⟩

/-! ### The work in an event -/

mutual

/-- A measure of the work in an event, greater than that of all it is taken apart into. -/
def weight : Event → Nat
  | ifFlag _ whenTrue whenFalse => blockWeight whenTrue + blockWeight whenFalse + 8
  | ifVariable _ _ _ whenTrue whenFalse => blockWeight whenTrue + blockWeight whenFalse + 8
  | loopWhile _ _ _ body => blockWeight body + 8
  | loopForever body => blockWeight body + 8
  | _ => 1

/-- The work in a list of events; each of them counts for itself, too. -/
def blockWeight : List Event → Nat
  | [] => 0
  | event :: events => weight event + 1 + blockWeight events

end

end Event

/-- The work in a resolved event. -/
def ResolvedEvent.weight : ResolvedEvent → Nat
  | plain _ | leaveLoop => 1
  | branch _ whenTrue whenFalse => Event.blockWeight whenTrue + Event.blockWeight whenFalse + 8
  | loop _ body => Event.blockWeight body + 8

/-- Resolving names leaves the work as it is. -/
theorem Event.weight_resolve {tables : Tables} {event : Event} {resolved : ResolvedEvent}
    (accepted : event.resolve tables = .ok resolved) : resolved.weight = event.weight := by
  cases event <;>
    simp only [resolve, bind, Except.bind, pure, Except.pure] at accepted <;>
    (repeat' split at accepted) <;> cases accepted <;>
    simp only [ResolvedEvent.weight, Event.weight]

end Cartridge
