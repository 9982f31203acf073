import Cartridge.Proofs.Script.Gathering

/-!
# The names in a script

The fields of events hold names of variables, flags, actors, scripts, scenes, songs and sounds. The
tables have a number for each name they know, and this number is what stands in the code.

* `Event.ownNames`, `Event.blockNames`: the names in the fields of events, in the order of the text.
* `Tables.number?`: the number that the tables have for a name.
* `Instruction.numbers`: the numbers in an instruction that stand for names.
* `Statement.agrees_numbers`: the numbers in the instruction of an event stand for its names.
* `Event.IsFit`, `Event.blockIsFit`: what is asked of events besides that their names are known.
* `Event.exists_block_iff`: events are accepted just if they are fit and all their names are known.
-/

namespace Cartridge

/-- The name in an argument. -/
def Argument.names (field : String) : Argument → List Reference
  | literal _ => []
  | ofVariable name => [⟨field, .gameVariable, name⟩]

namespace Event

/-- The names in the fields of an event, in their order. -/
def ownNames : Event → List Reference
  | setVariable name value | changeVariable name _ value | ifVariable name _ value _ _
  | loopWhile name _ value _ => ⟨"variable", .gameVariable, name⟩ :: value.names "value"
  | setFlag name | clearFlag name | ifFlag name _ _ => [⟨"flag", .flag, name⟩]
  | callScript name => [⟨"script", .script, name⟩]
  | switchScene name _ _ => [⟨"scene", .scene, name⟩]
  | moveActor name x y => ⟨"actor", .actor, name⟩ :: (x.names "x" ++ y.names "y")
  | turnActor name _ | showActor name | hideActor name => [⟨"actor", .actor, name⟩]
  | playSong name => [⟨"song", .song, name⟩]
  | playSound name => [⟨"sound", .sound, name⟩]
  | stop | text _ | loopForever _ | leaveLoop | moveCamera .. | showOverlay .. | hideOverlay
  | wait _ | stopMusic => []

/-- The names in a list of events and all below them, in the order of the text. -/
abbrev blockNames (events : List Event) : List Reference := gatherBlock ownNames events

end Event

/-! ### The numbers of names -/

/-- The number that the tables have for a name. -/
def Tables.number? (tables : Tables) (reference : Reference) : Option Nat :=
  match reference.referent with
  | .gameVariable => (tables.gameVariables.get? reference.name).map UInt8.toNat
  | .flag => (tables.flags.get? reference.name).map UInt8.toNat
  | .actor => (tables.actors.get? reference.name).map UInt8.toNat
  | .script => (tables.symbols.get? (scriptSymbol reference.name)).map UInt16.toNat
  | .scene => (tables.symbols.get? (sceneSymbol reference.name)).map UInt16.toNat
  | .song => (tables.asset reference .song).toOption.map UInt16.toNat
  | .sound => (tables.asset reference .sound).toOption.map UInt16.toNat

/-- A number in the code stands for a name. -/
structure Reference.Means (tables : Tables) (reference : Reference) (number : Referent × Nat) :
    Prop where
  referent : number.1 = reference.referent
  number : tables.number? reference = some number.2

/-- What the first operand of an operation stands for, if for a name. -/
def Opcode.referent? : Opcode → Option Referent
  | setVariable | changeVariable | jumpUnless => some .gameVariable
  | setFlag | clearFlag | jumpIfFlagClear => some .flag
  | moveActor | turnActor | showActor | hideActor => some .actor
  | invoke => some .script
  | switchScene => some .scene
  | playSong => some .song
  | playSound => some .sound
  | stop | text | jump | moveCamera | showOverlay | hideOverlay | wait | stopMusic => none

/-- The slot or the index in an operand. -/
def Operand.number? : Operand → Option Nat
  | byte slot => some slot.toNat
  | symbol index => some index.toNat
  | word _ | argument _ | label _ | text _ => none

/-- The variable that an argument is read from. -/
def Operand.variables : Operand → List (Referent × Nat)
  | argument (.slot slot) => [(.gameVariable, slot.toNat)]
  | argument (.literal _) | byte _ | word _ | label _ | symbol _ | text _ => []

namespace Instruction

/-- The number that an instruction is about, with what it stands for. -/
def subject? (instruction : Instruction) : Option (Referent × Nat) := do
  let referent ← instruction.operation.referent?
  let operand ← instruction.operands.head?
  return (referent, ← operand.number?)

/-- The numbers in an instruction that stand for names, in their order. -/
def numbers (instruction : Instruction) : List (Referent × Nat) :=
  instruction.subject?.toList ++ instruction.operands.flatMap Operand.variables

end Instruction

variable {tables : Tables}

namespace Tables

theorem toOption_lookUp {α : Type} (found : Option α) (reference : Reference) :
    (lookUp found reference).toOption = found := by
  cases found <;> rfl

variable {field name : String}

theorem number?_gameVariable : tables.number? ⟨field, .gameVariable, name⟩
    = (tables.gameVariable field name).toOption.map UInt8.toNat := by
  rw [gameVariable, toOption_lookUp, number?]

theorem number?_flag : tables.number? ⟨"flag", .flag, name⟩
    = (tables.flag name).toOption.map UInt8.toNat := by
  rw [flag, toOption_lookUp, number?]

theorem number?_actor : tables.number? ⟨"actor", .actor, name⟩
    = (tables.actor name).toOption.map UInt8.toNat := by
  rw [actor, toOption_lookUp, number?]

theorem number?_script : tables.number? ⟨"script", .script, name⟩
    = (tables.script name).toOption.map UInt16.toNat := by
  rw [script, toOption_lookUp, number?]

theorem number?_scene : tables.number? ⟨"scene", .scene, name⟩
    = (tables.scene name).toOption.map UInt16.toNat := by
  rw [scene, toOption_lookUp, number?]

theorem number?_song : tables.number? ⟨field, .song, name⟩
    = (tables.asset ⟨field, .song, name⟩ .song).toOption.map UInt16.toNat := rfl

theorem number?_sound : tables.number? ⟨field, .sound, name⟩
    = (tables.asset ⟨field, .sound, name⟩ .sound).toOption.map UInt16.toNat := rfl

end Tables

/-! ### One event -/

theorem Reference.means_of_eq_ok {α : Type} {looked : Except NodeFault α} {toNat : α → Nat}
    {reference : Reference} {value : α}
    (known : tables.number? reference = looked.toOption.map toNat) (found : looked = .ok value) :
    reference.Means tables (reference.referent, toNat value) :=
  ⟨rfl, by rw [known, found]; rfl⟩

theorem Argument.means_of_eq_ok {field : String} {value : Argument} {operand : ArgumentOperand}
    (accepted : tables.argument field value = .ok operand) :
    List.Forall₂ (Reference.Means tables) (value.names field)
      (Operand.argument operand).variables := by
  cases value with
  | literal value =>
    cases accepted
    exact .nil
  | ofVariable name =>
    obtain ⟨slot, found, accepted⟩ := bind_eq_ok accepted
    cases accepted
    exact .cons (Reference.means_of_eq_ok Tables.number?_gameVariable found) .nil

/-- The numbers in the jump of a comparison stand for the variable and its argument's name. -/
theorem Tables.means_of_comparisonTest {name : String} {comparison : Comparison} {value : Argument}
    {test : Test} (asked : tables.comparisonTest name comparison value = .ok test)
    (target : Label) :
    List.Forall₂ (Reference.Means tables) (⟨"variable", .gameVariable, name⟩ :: value.names "value")
      (test.jump.toward target).numbers := by
  obtain ⟨slot, found, asked⟩ := bind_eq_ok asked
  obtain ⟨operand, argument, asked⟩ := bind_eq_ok asked
  cases asked
  exact .cons (Reference.means_of_eq_ok number?_gameVariable found)
    (by simpa [Test.jump, Instruction.toward, Operand.variables] using
      Argument.means_of_eq_ok argument)

/-- **The numbers in the instruction of an event stand for the names in its fields.** -/
theorem Statement.agrees_numbers :
    Statement.Agrees tables (Reference.Means tables) Event.ownNames Instruction.numbers where
  event := fun {event form} resolved target => by
    cases event with
    | stop | text | loopForever | leaveLoop | moveCamera | showOverlay | hideOverlay | wait
    | stopMusic =>
      simp only [Event.resolve] at resolved
      (repeat' split at resolved) <;> cases resolved
      exact .nil
    | setVariable name value =>
      obtain ⟨slot, found, resolved⟩ := bind_eq_ok resolved
      obtain ⟨operand, argument, resolved⟩ := bind_eq_ok resolved
      cases resolved
      exact .cons (Reference.means_of_eq_ok Tables.number?_gameVariable found)
        (by simpa [Operand.variables] using Argument.means_of_eq_ok argument)
    | changeVariable name operator value =>
      obtain ⟨slot, found, resolved⟩ := bind_eq_ok resolved
      obtain ⟨operand, argument, resolved⟩ := bind_eq_ok resolved
      cases resolved
      exact .cons (Reference.means_of_eq_ok Tables.number?_gameVariable found)
        (by simpa [Operand.variables] using Argument.means_of_eq_ok argument)
    | setFlag name | clearFlag name | ifFlag name =>
      obtain ⟨slot, found, resolved⟩ := bind_eq_ok resolved
      cases resolved
      exact .cons (Reference.means_of_eq_ok Tables.number?_flag found) .nil
    | ifVariable name comparison value whenTrue whenFalse =>
      rw [Event.resolve_ifVariable] at resolved
      obtain ⟨test, asked, resolved⟩ := bind_eq_ok resolved
      cases resolved
      simpa [Event.ownNames, ResolvedEvent.instructions] using
        Tables.means_of_comparisonTest asked target
    | loopWhile name comparison value body =>
      rw [Event.resolve_loopWhile] at resolved
      obtain ⟨test, asked, resolved⟩ := bind_eq_ok resolved
      cases resolved
      simpa [Event.ownNames, ResolvedEvent.instructions] using
        Tables.means_of_comparisonTest asked target
    | callScript name =>
      obtain ⟨index, found, resolved⟩ := bind_eq_ok resolved
      cases resolved
      exact .cons (Reference.means_of_eq_ok Tables.number?_script found) .nil
    | switchScene name x y =>
      obtain ⟨index, found, resolved⟩ := bind_eq_ok resolved
      cases resolved
      exact .cons (Reference.means_of_eq_ok Tables.number?_scene found) .nil
    | moveActor name x y =>
      obtain ⟨slot, found, resolved⟩ := bind_eq_ok resolved
      obtain ⟨column, first, resolved⟩ := bind_eq_ok resolved
      obtain ⟨row, second, resolved⟩ := bind_eq_ok resolved
      cases resolved
      exact .cons (Reference.means_of_eq_ok Tables.number?_actor found)
        (by simpa [Operand.variables] using
          List.rel_append (Argument.means_of_eq_ok first) (Argument.means_of_eq_ok second))
    | turnActor name | showActor name | hideActor name =>
      obtain ⟨slot, found, resolved⟩ := bind_eq_ok resolved
      cases resolved
      exact .cons (Reference.means_of_eq_ok Tables.number?_actor found) .nil
    | playSong name =>
      obtain ⟨index, found, resolved⟩ := bind_eq_ok resolved
      cases resolved
      exact .cons (Reference.means_of_eq_ok Tables.number?_song found) .nil
    | playSound name =>
      obtain ⟨index, found, resolved⟩ := bind_eq_ok resolved
      cases resolved
      exact .cons (Reference.means_of_eq_ok Tables.number?_sound found) .nil
  leap := fun _ => rfl

/-! ### Which events are accepted -/

/-- The tables have a number for a name. -/
def Tables.Knows (tables : Tables) (reference : Reference) : Prop :=
  (tables.number? reference).isSome = true

namespace Event

mutual

/-- What is asked of an event besides that its names are known: its text fits a box, its camera is
not too fast, and it leaves a loop only where there is one. -/
def IsFit (looped : Bool) : Event → Prop
  | text words => words.utf8ByteSize ≤ longestText
  | moveCamera _ _ speed => speed ≤ greatestSpeed
  | leaveLoop => looped = true
  | ifFlag _ whenTrue whenFalse | ifVariable _ _ _ whenTrue whenFalse =>
    blockIsFit looped whenTrue ∧ blockIsFit looped whenFalse
  | loopWhile _ _ _ body | loopForever body => blockIsFit true body
  | _ => True

/-- What is asked of events besides that their names are known. -/
def blockIsFit (looped : Bool) : List Event → Prop
  | [] => True
  | event :: events => IsFit looped event ∧ blockIsFit looped events

end

end Event

namespace Tables

theorem exists_eq_ok_iff {α : Type} {looked : Except NodeFault α} {toNat : α → Nat}
    {reference : Reference} (number : tables.number? reference = looked.toOption.map toNat) :
    (∃ value, looked = .ok value) ↔ tables.Knows reference := by
  rw [Knows, number]
  cases looked <;> simp [Except.toOption]

variable {field name : String}

theorem exists_argument_iff {value : Argument} :
    (∃ operand, tables.argument field value = .ok operand)
      ↔ ∀ reference ∈ value.names field, tables.Knows reference := by
  cases value with
  | literal value => simp [argument, Argument.names]
  | ofVariable name =>
    rw [argument, exists_bind_eq_ok_iff, Argument.names, List.forall_mem_singleton,
      ← exists_eq_ok_iff number?_gameVariable]
    simp [pure, Except.pure]

theorem exists_flagTest_iff :
    (∃ test, tables.flagTest name = .ok test) ↔ tables.Knows ⟨"flag", .flag, name⟩ := by
  rw [flagTest, exists_bind_eq_ok_iff, ← exists_eq_ok_iff number?_flag]
  simp [pure, Except.pure]

theorem exists_comparisonTest_iff {comparison : Comparison} {value : Argument} :
    (∃ test, tables.comparisonTest name comparison value = .ok test)
      ↔ tables.Knows ⟨"variable", .gameVariable, name⟩
        ∧ ∀ reference ∈ value.names "value", tables.Knows reference := by
  simp only [comparisonTest, exists_bind_eq_ok_iff, ← exists_argument_iff,
    ← exists_eq_ok_iff number?_gameVariable]
  simp [pure, Except.pure, exists_and_right]

end Tables

namespace Event

variable {event : Event} {looped : Bool} {path : NodePath}

/-- A plain event is accepted just if it is fit and the names in its fields are known. -/
theorem IsPlain.exists_resolve_iff (isPlain : event.IsPlain) :
    (∃ form, event.resolve tables = .ok form)
      ↔ event.IsFit looped ∧ ∀ reference ∈ event.ownNames, tables.Knows reference := by
  cases event <;> try exact isPlain.elim
  all_goals
    simp only [resolve, exists_bind_eq_ok_iff, exists_ite_eq_ok_iff, ownNames, List.forall_mem_cons,
      List.forall_mem_append, ← Tables.exists_argument_iff,
      ← Tables.exists_eq_ok_iff Tables.number?_gameVariable,
      ← Tables.exists_eq_ok_iff Tables.number?_flag,
      ← Tables.exists_eq_ok_iff Tables.number?_actor,
      ← Tables.exists_eq_ok_iff Tables.number?_script,
      ← Tables.exists_eq_ok_iff Tables.number?_scene,
      ← Tables.exists_eq_ok_iff Tables.number?_song,
      ← Tables.exists_eq_ok_iff Tables.number?_sound]
    simp [IsFit, pure, Except.pure]

theorem IsPlain.exists_statement_iff (isPlain : event.IsPlain) :
    (∃ statement, event.statement tables looped path = .ok statement)
      ↔ event.IsFit looped ∧ ∀ reference ∈ event.gather ownNames, tables.Knows reference := by
  rw [isPlain.gather_eq, ← isPlain.exists_resolve_iff, isPlain.statement_eq,
    exists_bind_eq_ok_iff]
  constructor
  · rintro ⟨action, accepted, _⟩
    obtain ⟨fault, _, refused⟩ | ⟨_, resolved, _⟩ := isPlain.action_cases tables
    · rw [refused] at accepted
      cases accepted
    · exact ⟨_, resolved⟩
  · rintro ⟨form, resolved⟩
    obtain ⟨fault, refused, _⟩ | ⟨action, _, accepted⟩ := isPlain.action_cases tables
    · cases resolved.symm.trans refused
    · exact ⟨action, by rw [accepted]; rfl, _, rfl⟩

mutual

theorem exists_statement_iff (looped : Bool) (path : NodePath) : (event : Event) →
    ((∃ statement, event.statement tables looped path = .ok statement)
      ↔ event.IsFit looped ∧ ∀ reference ∈ event.gather ownNames, tables.Knows reference)
  | ifFlag name whenTrue whenFalse => by
    have first := exists_block_iff looped path .whenTrue 0 whenTrue
    have second := exists_block_iff looped path .whenFalse 0 whenFalse
    simp only [Event.statement, exists_bind_eq_ok_iff, pure, Except.pure, Except.ok.injEq,
      exists_eq', and_true, exists_and_right, exists_mapError_eq_ok_iff,
      Tables.exists_flagTest_iff, first, second]
    rw [gather, ownNames, List.forall_mem_append, List.forall_mem_append, List.forall_mem_singleton,
      IsFit]
    tauto
  | ifVariable name comparison value whenTrue whenFalse => by
    have first := exists_block_iff looped path .whenTrue 0 whenTrue
    have second := exists_block_iff looped path .whenFalse 0 whenFalse
    simp only [Event.statement, exists_bind_eq_ok_iff, pure, Except.pure, Except.ok.injEq,
      exists_eq', and_true, exists_and_right, exists_mapError_eq_ok_iff,
      Tables.exists_comparisonTest_iff, first, second]
    rw [gather, ownNames, List.forall_mem_append, List.forall_mem_append, List.forall_mem_cons,
      IsFit]
    tauto
  | loopWhile name comparison value body => by
    have inner := exists_block_iff true path .body 0 body
    simp only [Event.statement, exists_bind_eq_ok_iff, pure, Except.pure, Except.ok.injEq,
      exists_eq', and_true, exists_and_right, exists_mapError_eq_ok_iff,
      Tables.exists_comparisonTest_iff, inner]
    rw [gather, ownNames, List.forall_mem_append, List.forall_mem_cons, IsFit]
    tauto
  | loopForever body => by
    have inner := exists_block_iff true path .body 0 body
    simp only [Event.statement, exists_bind_eq_ok_iff, pure, Except.pure, Except.ok.injEq,
      exists_eq', and_true, inner]
    rw [gather, ownNames, List.nil_append, IsFit]
  | leaveLoop => by
    have own : gather ownNames leaveLoop = [] := rfl
    rw [Event.statement, own, IsFit]
    cases looped <;> simp
  | stop | text _ | setVariable .. | changeVariable .. | setFlag _ | clearFlag _ | callScript _
  | switchScene .. | moveActor .. | turnActor .. | showActor _ | hideActor _ | moveCamera ..
  | showOverlay .. | hideOverlay | wait _ | playSong _ | stopMusic | playSound _ =>
    IsPlain.exists_statement_iff trivial

/-- **Events are accepted just if they are fit and all their names are known.** -/
theorem exists_block_iff (looped : Bool) (path : NodePath) (descend : Nat → Descent) (first : Nat) :
    (events : List Event) →
    ((∃ statements, block tables looped path descend first events = .ok statements)
      ↔ blockIsFit looped events ∧ ∀ reference ∈ blockNames events, tables.Knows reference)
  | [] => by simp [block, blockIsFit, gatherBlock]
  | event :: events => by
    have head := exists_statement_iff looped (descend first :: path) event
    have tail := exists_block_iff looped path descend (first + 1) events
    simp only [block, exists_bind_eq_ok_iff, pure, Except.pure, Except.ok.injEq, exists_eq',
      and_true, exists_and_right, head, tail]
    have names : blockNames (event :: events) = event.gather ownNames ++ blockNames events := rfl
    rw [names, List.forall_mem_append, blockIsFit]
    exact and_and_and_comm

end

end Event
end Cartridge
