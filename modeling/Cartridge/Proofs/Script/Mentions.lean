import Cartridge.Proofs.Script.Gathering
import Cartridge.Proofs.Symbol.Indexing

/-!
# What a script mentions

An event may mention a script, a scene, a song or a sound by its name. In the code there is the index
of a symbol for it, and for nothing else.

* `Event.mentions`, `Event.blockMentions`: what events mention, in the order of the text.
* `Mention.Means`: the index that stands for what is mentioned.
* `Instruction.references`: the indices in an instruction, with its operation.
* `CompiledScript.means_of_ofSource`: the indices in the code of a script stand for what its events
  mention, one by one.
-/

namespace Cartridge

/-- Something with a symbol that an event mentions by its name. -/
inductive Mention where
  | script (name : String)
  | scene (name : String)
  | song (name : String)
  | sound (name : String)
  deriving DecidableEq, Repr

namespace Mention

/-- The symbol of what is mentioned. -/
def symbol : Mention → String
  | script name => scriptSymbol name
  | scene name => sceneSymbol name
  | song name | sound name => assetSymbol name

/-- The operation that takes its index. -/
def operation : Mention → Opcode
  | script _ => .invoke
  | scene _ => .switchScene
  | song _ => .playSong
  | sound _ => .playSound

/-- The tables know what is mentioned to be of the right kind. -/
def IsKnown (tables : Tables) : Mention → Prop
  | script _ | scene _ => True
  | song name => tables.assets.get? name = some .song
  | sound name => tables.assets.get? name = some .sound

/-- **An index in an operation stands for what is mentioned.** -/
structure Means (tables : Tables) (mention : Mention) (reference : Opcode × UInt16) : Prop where
  operation : reference.1 = mention.operation
  index : tables.symbols.get? mention.symbol = some reference.2
  known : mention.IsKnown tables

end Mention

namespace Event

mutual

/-- What an event mentions, in the order of the text. -/
def mentions : Event → List Mention
  | callScript name => [.script name]
  | switchScene name _ _ => [.scene name]
  | playSong name => [.song name]
  | playSound name => [.sound name]
  | ifFlag _ whenTrue whenFalse | ifVariable _ _ _ whenTrue whenFalse =>
    blockMentions whenTrue ++ blockMentions whenFalse
  | loopWhile _ _ _ body | loopForever body => blockMentions body
  | _ => []

/-- What events mention, in the order of the text. -/
def blockMentions : List Event → List Mention
  | [] => []
  | event :: events => mentions event ++ blockMentions events

end

end Event

/-- The index of a symbol in an operand. -/
def Operand.symbol? : Operand → Option UInt16
  | .symbol index => some index
  | _ => none

/-- The indices of symbols in an instruction, with its operation. -/
def Instruction.references (instruction : Instruction) : List (Opcode × UInt16) :=
  (instruction.operands.filterMap Operand.symbol?).map fun index => (instruction.operation, index)

variable {tables : Tables}

/-! ### One event -/

/-- What an event mentions in its own fields. -/
def Event.ownMentions : Event → List Mention
  | callScript name => [.script name]
  | switchScene name _ _ => [.scene name]
  | playSong name => [.song name]
  | playSound name => [.sound name]
  | _ => []

mutual

theorem Event.mentions_eq_gather : (event : Event) → event.mentions = event.gather ownMentions
  | ifFlag _ whenTrue whenFalse | ifVariable _ _ _ whenTrue whenFalse => by
    rw [mentions, gather, blockMentions_eq_gatherBlock whenTrue,
      blockMentions_eq_gatherBlock whenFalse]
    rfl
  | loopWhile _ _ _ body | loopForever body => by
    rw [mentions, gather, blockMentions_eq_gatherBlock body]
    rfl
  | callScript _ | switchScene .. | playSong _ | playSound _ => rfl
  | stop | text _ | setVariable .. | changeVariable .. | setFlag _ | clearFlag _ | leaveLoop
  | moveActor .. | turnActor .. | showActor _ | hideActor _ | moveCamera .. | showOverlay ..
  | hideOverlay | wait _ | stopMusic => rfl

theorem Event.blockMentions_eq_gatherBlock :
    (events : List Event) → blockMentions events = gatherBlock ownMentions events
  | [] => rfl
  | event :: events => by
    rw [blockMentions, gatherBlock, mentions_eq_gather event, blockMentions_eq_gatherBlock events]

end

/-- **The index in the instruction of an event stands for what it mentions.** -/
theorem Statement.agrees_references :
    Statement.Agrees tables (Mention.Means tables) Event.ownMentions Instruction.references where
  event := fun {event form} resolved target => by
    cases event with
    | callScript name =>
      obtain ⟨index, found, resolved⟩ := bind_eq_ok resolved
      cases resolved
      exact .cons ⟨rfl, Tables.lookUp_eq_ok_iff.1 found, trivial⟩ .nil
    | switchScene name x y =>
      obtain ⟨index, found, resolved⟩ := bind_eq_ok resolved
      cases resolved
      exact .cons ⟨rfl, Tables.lookUp_eq_ok_iff.1 found, trivial⟩ .nil
    | playSong name =>
      obtain ⟨index, found, resolved⟩ := bind_eq_ok resolved
      cases resolved
      obtain ⟨known, index⟩ := Tables.asset_eq_ok_iff.1 found
      exact .cons ⟨rfl, index, known⟩ .nil
    | playSound name =>
      obtain ⟨index, found, resolved⟩ := bind_eq_ok resolved
      cases resolved
      obtain ⟨known, index⟩ := Tables.asset_eq_ok_iff.1 found
      exact .cons ⟨rfl, index, known⟩ .nil
    | ifVariable name comparison value whenTrue whenFalse =>
      rw [Event.resolve_ifVariable] at resolved
      obtain ⟨test, _, resolved⟩ := bind_eq_ok resolved
      cases resolved
      cases test <;> exact .nil
    | loopWhile name comparison value body =>
      rw [Event.resolve_loopWhile] at resolved
      obtain ⟨test, _, resolved⟩ := bind_eq_ok resolved
      cases resolved
      cases test <;> exact .nil
    | _ =>
      simp only [Event.resolve, bind, Except.bind, pure, Except.pure] at resolved
      (repeat' split at resolved) <;> cases resolved
      exact .nil
  leap := fun _ => rfl

/-! ### Scripts -/

namespace CompiledScript

variable {source : ScriptSource} {script : CompiledScript}

theorem symbol_of_ofSource (compiled : ofSource tables source = .ok script) :
    script.symbol = source.symbol := by
  obtain ⟨statements, _, _, rfl⟩ := ofSource_eq_ok compiled
  rfl

/-- **The indices in the code of a script stand for what its events mention**, one by one. The code
is read as the engine reads it. -/
theorem means_of_ofSource (compiled : ofSource tables source = .ok script) :
    ∃ instructions, Instruction.readScript? script.code = some instructions
      ∧ List.Forall₂ (Mention.Means tables) (Event.blockMentions source.body)
        (instructions.flatMap Instruction.references) := by
  obtain ⟨statements, accepted, _, rfl⟩ := ofSource_eq_ok compiled
  refine ⟨_, readScript?_ofStatements source.symbol statements, ?_⟩
  have means := Statement.agrees_references.block 0 unresolved statements accepted
  rw [Event.blockMentions_eq_gatherBlock, List.flatMap_append]
  rwa [List.flatMap_singleton, show Lowered.ending.references = [] from rfl, List.append_nil]

/-- **The compiled scripts are those of the sources, in their order.** -/
theorem forall₂_of_compileScripts {project : Project} {scripts : List CompiledScript}
    (compiled : project.compileScripts tables = .ok scripts) :
    List.Forall₂ (fun source script => ofSource tables source = .ok script) project.scriptSources
      scripts :=
  forall₂_of_mapM compiled

theorem map_symbol_of_forall₂ {sources : List ScriptSource} {scripts : List CompiledScript}
    (compiled : List.Forall₂ (fun source script => ofSource tables source = .ok script) sources
      scripts) :
    scripts.map CompiledScript.symbol = sources.map ScriptSource.symbol := by
  induction compiled with
  | nil => rfl
  | cons head _ ih => rw [List.map_cons, List.map_cons, symbol_of_ofSource head, ih]

end CompiledScript
end Cartridge
