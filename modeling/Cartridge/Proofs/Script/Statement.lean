import Cartridge.Proofs.Bytecode.Order
import Cartridge.Proofs.Success
import Cartridge.Script.Resolution

/-!
# Statements: event trees with all names resolved

Resolving an event replaces its own names by numbers. Done for a whole tree, it leaves statements:
instructions that go on behind themselves, tests that decide a branch or a loop, and the leaving of
a loop. The faults of a tree are met in the order of its text.

* `Statement`: an event with its names resolved, and all that is below it.
* `Event.statement`, `Event.block`: the statements of events, or the first fault and the path to it.
* `Event.form_cases`: the five forms of control, and all other events together.
* `Event.IsPlain.action_cases`: an event of no such form is one straight instruction, or a fault.
* `Event.statement_cases`, `Event.block_cases`: which events given statements come from.
-/

namespace Cartridge

/-- The jump that is taken where the test fails. It lacks its label still. -/
def Test.jump : Test → Instruction
  | flag slot => ⟨.jumpIfFlagClear, [.byte slot]⟩
  | comparison slot compared value =>
    ⟨.jumpUnless, [.byte slot, .byte compared.code, .argument value]⟩

/-- **A straight instruction**: the engine can read it, and it is no jump. -/
structure Instruction.IsStraight (instruction : Instruction) : Prop
    extends instruction.IsReadable where
  noLabel : .label ∉ instruction.operation.shapes

/-- An instruction that is no jump. -/
structure Action where
  instruction : Instruction
  straight : instruction.IsStraight

/-- An event with its names resolved, and all that is below it. -/
inductive Statement where
  | perform (action : Action)
  | branch (test : Test) (whenTrue whenFalse : List Statement)
  /-- Repeats its body as long as the test holds before it, or for ever if there is none. -/
  | loop (test : Option Test) (body : List Statement)
  | leaveLoop

namespace Tables

theorem lookUp_eq_ok_iff {α : Type} {found : Option α} {reference : Reference} {value : α} :
    lookUp found reference = .ok value ↔ found = some value := by
  cases found <;> simp [lookUp]

theorem asset_eq_ok_iff {tables : Tables} {reference : Reference} {wanted : AssetKind}
    {index : UInt16} :
    tables.asset reference wanted = .ok index
      ↔ tables.assets.get? reference.name = some wanted
        ∧ tables.symbols.get? (assetSymbol reference.name) = some index := by
  unfold asset
  split
  case h_1 found known =>
    rw [known, Option.some_inj]
    split
    case isTrue same => simp [same, lookUp_eq_ok_iff]
    case isFalse other => simp [other]
  case h_2 unknown => simp [unknown]

/-- What a flag is asked. -/
def flagTest (tables : Tables) (name : String) : Except NodeFault Test := do
  return .flag (← tables.flag name)

/-- What a variable is asked. -/
def comparisonTest (tables : Tables) (name : String) (comparison : Comparison) (value : Argument) :
    Except NodeFault Test := do
  let slot ← tables.gameVariable "variable" name
  let operand ← tables.argument "value" value
  return .comparison slot comparison operand

end Tables

namespace Event

/-! ### Events that are one instruction -/

/-- The events that neither branch nor have to do with loops. -/
def IsPlain : Event → Prop
  | ifFlag .. | ifVariable .. | loopWhile .. | loopForever .. | leaveLoop => False
  | _ => True

/-- Every event has a form of its own, or is plain. -/
@[elab_as_elim]
theorem form_cases {motive : Event → Prop}
    (ifFlag : ∀ name whenTrue whenFalse, motive (.ifFlag name whenTrue whenFalse))
    (ifVariable : ∀ name comparison value whenTrue whenFalse,
      motive (.ifVariable name comparison value whenTrue whenFalse))
    (loopWhile : ∀ name comparison value body, motive (.loopWhile name comparison value body))
    (loopForever : ∀ body, motive (.loopForever body))
    (leaveLoop : motive .leaveLoop)
    (plain : ∀ event, event.IsPlain → motive event) (event : Event) : motive event := by
  cases event with
  | ifFlag name whenTrue whenFalse => exact ifFlag name whenTrue whenFalse
  | ifVariable name comparison value whenTrue whenFalse =>
    exact ifVariable name comparison value whenTrue whenFalse
  | loopWhile name comparison value body => exact loopWhile name comparison value body
  | loopForever body => exact loopForever body
  | leaveLoop => exact leaveLoop
  | _ => exact plain _ trivial

/-- A plain event becomes a straight instruction, if its names are declared. -/
theorem straight_of_resolve {tables : Tables} {event : Event} {instruction : Instruction}
    (resolved : event.resolve tables = .ok (.plain instruction)) : instruction.IsStraight := by
  cases event <;>
    simp only [resolve, bind, Except.bind, pure, Except.pure] at resolved <;>
    (repeat' split at resolved) <;> cases resolved
  case text words fits =>
    refine ⟨⟨rfl, ?_⟩, by simp [Opcode.shapes]⟩
    intro operand member
    rw [List.mem_singleton] at member
    subst member
    show (encoded words).length < 256
    rw [length_encoded]
    exact Nat.lt_succ_of_le (Nat.le_of_not_lt fits)
  all_goals
    refine ⟨⟨rfl, ?_⟩, by simp [Opcode.shapes]⟩
    simp [Operand.IsShort]

theorem IsPlain.resolve_cases {event : Event} (isPlain : event.IsPlain) (tables : Tables) :
    (∃ fault, event.resolve tables = .error fault)
      ∨ ∃ instruction, event.resolve tables = .ok (.plain instruction) := by
  cases resolved : event.resolve tables with
  | error fault => exact .inl ⟨fault, rfl⟩
  | ok form =>
    refine .inr ?_
    cases event <;> try exact isPlain.elim
    all_goals
      simp only [resolve, bind, Except.bind, pure, Except.pure] at resolved
      (repeat' split at resolved) <;> cases resolved
      exact ⟨_, rfl⟩

/-- The instruction of a plain event. -/
def action (tables : Tables) (event : Event) : Except NodeFault Action :=
  match resolved : event.resolve tables with
  | .ok (.plain instruction) => .ok ⟨instruction, straight_of_resolve resolved⟩
  | .ok _ => .error .strayLeave
  | .error fault => .error fault

theorem action_of_resolve {tables : Tables} {event : Event} {instruction : Instruction}
    (resolved : event.resolve tables = .ok (.plain instruction)) :
    event.action tables = .ok ⟨instruction, straight_of_resolve resolved⟩ := by
  unfold action
  split
  · rename_i found same
    cases resolved.symm.trans same
    rfl
  · rename_i other same
    cases resolved.symm.trans same
    exact (other _ rfl).elim
  · rename_i same
    cases resolved.symm.trans same

theorem action_of_fault {tables : Tables} {event : Event} {fault : NodeFault}
    (resolved : event.resolve tables = .error fault) : event.action tables = .error fault := by
  unfold action
  split
  · rename_i same
    cases resolved.symm.trans same
  · rename_i same
    cases resolved.symm.trans same
  · rename_i same
    cases resolved.symm.trans same
    rfl

/-- A plain event is a straight instruction, or has a fault. -/
theorem IsPlain.action_cases {event : Event} (isPlain : event.IsPlain) (tables : Tables) :
    (∃ fault, event.resolve tables = .error fault ∧ event.action tables = .error fault)
      ∨ ∃ action : Action, event.resolve tables = .ok (.plain action.instruction)
        ∧ event.action tables = .ok action := by
  obtain ⟨fault, resolved⟩ | ⟨instruction, resolved⟩ := isPlain.resolve_cases tables
  · exact .inl ⟨fault, resolved, action_of_fault resolved⟩
  · exact .inr ⟨⟨instruction, straight_of_resolve resolved⟩, resolved, action_of_resolve resolved⟩

/-! ### The statements of a tree -/

mutual

/-- The statement of an event, or the first fault in its tree and the path to it. Whether there is
a loop around the event decides whether it may leave one. -/
def statement (tables : Tables) (looped : Bool) (path : NodePath) :
    Event → Except (NodePath × NodeFault) Statement
  | ifFlag name whenTrue whenFalse => do
    let test ← (tables.flagTest name).mapError (path, ·)
    let whenTrue ← block tables looped path .whenTrue 0 whenTrue
    let whenFalse ← block tables looped path .whenFalse 0 whenFalse
    return .branch test whenTrue whenFalse
  | ifVariable name comparison value whenTrue whenFalse => do
    let test ← (tables.comparisonTest name comparison value).mapError (path, ·)
    let whenTrue ← block tables looped path .whenTrue 0 whenTrue
    let whenFalse ← block tables looped path .whenFalse 0 whenFalse
    return .branch test whenTrue whenFalse
  | loopWhile name comparison value body => do
    let test ← (tables.comparisonTest name comparison value).mapError (path, ·)
    let body ← block tables true path .body 0 body
    return .loop (some test) body
  | loopForever body => do
    let body ← block tables true path .body 0 body
    return .loop none body
  | leaveLoop => if looped then .ok .leaveLoop else .error (path, .strayLeave)
  | event => do return .perform (← (event.action tables).mapError (path, ·))

/-- The statements of events that hang below a node, counted from `first`. -/
def block (tables : Tables) (looped : Bool) (path : NodePath) (descend : Nat → Descent)
    (first : Nat) : List Event → Except (NodePath × NodeFault) (List Statement)
  | [] => .ok []
  | event :: events => do
    let statement ← event.statement tables looped (descend first :: path)
    let statements ← block tables looped path descend (first + 1) events
    return statement :: statements

end

theorem block_shift (tables : Tables) (looped : Bool) (path : NodePath) (descend : Nat → Descent)
    (first : Nat) (events : List Event) :
    block tables looped path descend (first + 1) events
      = block tables looped path (fun index => descend (index + 1)) first events := by
  induction events generalizing first with
  | nil => rfl
  | cons event events ih => rw [block, block, ih (first + 1)]

/-- A block is as long as its events are. -/
theorem isEmpty_of_block {tables : Tables} {looped : Bool} {path : NodePath}
    {descend : Nat → Descent} {first : Nat} {events : List Event} {statements : List Statement}
    (accepted : block tables looped path descend first events = .ok statements) :
    statements.isEmpty = events.isEmpty := by
  cases events with
  | nil => cases accepted; rfl
  | cons event events =>
    rw [block] at accepted
    obtain ⟨statement, _, accepted⟩ := bind_eq_ok accepted
    obtain ⟨rest, _, accepted⟩ := bind_eq_ok accepted
    cases accepted
    rfl

/-! ### One event resolved -/

theorem resolve_ifFlag (tables : Tables) (name : String) (whenTrue whenFalse : List Event) :
    (ifFlag name whenTrue whenFalse).resolve tables
      = tables.flagTest name >>= fun test => .ok (.branch test.jump whenTrue whenFalse) := by
  rw [resolve, Tables.flagTest]
  cases tables.flag name <;> rfl

theorem resolve_ifVariable (tables : Tables) (name : String) (comparison : Comparison)
    (value : Argument) (whenTrue whenFalse : List Event) :
    (ifVariable name comparison value whenTrue whenFalse).resolve tables
      = tables.comparisonTest name comparison value >>= fun test =>
        .ok (.branch test.jump whenTrue whenFalse) := by
  rw [resolve, Tables.comparisonTest, Tables.condition]
  cases tables.gameVariable "variable" name <;> cases tables.argument "value" value <;> rfl

theorem resolve_loopWhile (tables : Tables) (name : String) (comparison : Comparison)
    (value : Argument) (body : List Event) :
    (loopWhile name comparison value body).resolve tables
      = tables.comparisonTest name comparison value >>= fun test =>
        .ok (.loop (some test.jump) body) := by
  rw [resolve, Tables.comparisonTest, Tables.condition]
  cases tables.gameVariable "variable" name <;> cases tables.argument "value" value <;> rfl

theorem IsPlain.statement_eq {event : Event} (isPlain : event.IsPlain) (tables : Tables)
    (looped : Bool) (path : NodePath) :
    event.statement tables looped path
      = (event.action tables).mapError (path, ·) >>= fun action => .ok (.perform action) := by
  cases event <;> first | exact isPlain.elim | rfl

/-! ### What a statement comes from -/

/-- The event asks the test and goes on with one of two blocks. -/
inductive Branches (tables : Tables) : Event → Test → List Event → List Event → Prop where
  | ifFlag {name test whenTrue whenFalse} (asked : tables.flagTest name = .ok test) :
    Branches tables (ifFlag name whenTrue whenFalse) test whenTrue whenFalse
  | ifVariable {name comparison value test whenTrue whenFalse}
    (asked : tables.comparisonTest name comparison value = .ok test) :
    Branches tables (ifVariable name comparison value whenTrue whenFalse) test whenTrue whenFalse

/-- The event repeats a block as long as the test holds, or for ever if there is none. -/
inductive Loops (tables : Tables) : Event → Option Test → List Event → Prop where
  | loopWhile {name comparison value test body}
    (asked : tables.comparisonTest name comparison value = .ok test) :
    Loops tables (loopWhile name comparison value body) (some test) body
  | loopForever {body} : Loops tables (loopForever body) none body

/-- **A statement tells which event it comes from.** -/
theorem statement_cases {tables : Tables} {looped : Bool} {path : NodePath} {event : Event}
    {statement : Statement} (accepted : event.statement tables looped path = .ok statement) :
    match statement with
    | .perform action => event.resolve tables = .ok (.plain action.instruction)
    | .branch test first second => ∃ whenTrue whenFalse,
        event.Branches tables test whenTrue whenFalse
          ∧ block tables looped path .whenTrue 0 whenTrue = .ok first
          ∧ block tables looped path .whenFalse 0 whenFalse = .ok second
    | .loop test inner => ∃ body, event.Loops tables test body
        ∧ block tables true path .body 0 body = .ok inner
    | .leaveLoop => event = leaveLoop ∧ looped = true := by
  cases event using form_cases with
  | ifFlag name whenTrue whenFalse =>
    obtain ⟨test, asked, accepted⟩ := bind_eq_ok accepted
    obtain ⟨first, whenTrueAccepted, accepted⟩ := bind_eq_ok accepted
    obtain ⟨second, whenFalseAccepted, accepted⟩ := bind_eq_ok accepted
    cases accepted
    exact ⟨whenTrue, whenFalse, .ifFlag (mapError_eq_ok asked), whenTrueAccepted,
      whenFalseAccepted⟩
  | ifVariable name comparison value whenTrue whenFalse =>
    obtain ⟨test, asked, accepted⟩ := bind_eq_ok accepted
    obtain ⟨first, whenTrueAccepted, accepted⟩ := bind_eq_ok accepted
    obtain ⟨second, whenFalseAccepted, accepted⟩ := bind_eq_ok accepted
    cases accepted
    exact ⟨whenTrue, whenFalse, .ifVariable (mapError_eq_ok asked), whenTrueAccepted,
      whenFalseAccepted⟩
  | loopWhile name comparison value body =>
    obtain ⟨test, asked, accepted⟩ := bind_eq_ok accepted
    obtain ⟨inner, bodyAccepted, accepted⟩ := bind_eq_ok accepted
    cases accepted
    exact ⟨body, .loopWhile (mapError_eq_ok asked), bodyAccepted⟩
  | loopForever body =>
    obtain ⟨inner, bodyAccepted, accepted⟩ := bind_eq_ok accepted
    cases accepted
    exact ⟨body, .loopForever, bodyAccepted⟩
  | leaveLoop =>
    rw [Event.statement] at accepted
    cases looped with
    | false => cases accepted
    | true => cases accepted; exact ⟨rfl, rfl⟩
  | plain event isPlain =>
    rw [isPlain.statement_eq] at accepted
    obtain ⟨fault, _, failed⟩ | ⟨action, resolved, taken⟩ := isPlain.action_cases tables
    · rw [failed] at accepted
      cases accepted
    · rw [taken] at accepted
      cases accepted
      exact resolved

theorem Branches.statement_cases {tables : Tables} {looped : Bool} {path : NodePath} {event : Event}
    {test : Test} {whenTrue whenFalse : List Event} {statement : Statement}
    (branches : event.Branches tables test whenTrue whenFalse)
    (accepted : event.statement tables looped path = .ok statement) :
    ∃ first second, statement = .branch test first second
      ∧ block tables looped path .whenTrue 0 whenTrue = .ok first
      ∧ block tables looped path .whenFalse 0 whenFalse = .ok second := by
  have opened : event.statement tables looped path
      = block tables looped path .whenTrue 0 whenTrue >>= fun first =>
        block tables looped path .whenFalse 0 whenFalse >>= fun second =>
          .ok (.branch test first second) := by
    cases branches with
    | ifFlag asked => rw [Event.statement, asked]; rfl
    | ifVariable asked => rw [Event.statement, asked]; rfl
  rw [opened] at accepted
  obtain ⟨first, whenTrueAccepted, accepted⟩ := bind_eq_ok accepted
  obtain ⟨second, whenFalseAccepted, accepted⟩ := bind_eq_ok accepted
  cases accepted
  exact ⟨first, second, rfl, whenTrueAccepted, whenFalseAccepted⟩

theorem Loops.statement_cases {tables : Tables} {looped : Bool} {path : NodePath} {event : Event}
    {test : Option Test} {body : List Event} {statement : Statement}
    (loops : event.Loops tables test body)
    (accepted : event.statement tables looped path = .ok statement) :
    ∃ inner, statement = .loop test inner
      ∧ block tables true path .body 0 body = .ok inner := by
  have opened : event.statement tables looped path
      = block tables true path .body 0 body >>= fun inner => .ok (.loop test inner) := by
    cases loops with
    | loopWhile asked => rw [Event.statement, asked]; rfl
    | loopForever => rfl
  rw [opened] at accepted
  obtain ⟨inner, bodyAccepted, accepted⟩ := bind_eq_ok accepted
  cases accepted
  exact ⟨inner, rfl, bodyAccepted⟩

theorem isPlain_of_resolve {tables : Tables} {event : Event} {instruction : Instruction}
    (resolved : event.resolve tables = .ok (.plain instruction)) : event.IsPlain := by
  cases event <;> try trivial
  all_goals
    simp only [resolve, bind, Except.bind, pure, Except.pure] at resolved
    (repeat' split at resolved) <;> cases resolved

/-- An event that is one instruction is performed. -/
theorem statement_of_resolve {tables : Tables} {looped : Bool} {path : NodePath} {event : Event}
    {instruction : Instruction} (resolved : event.resolve tables = .ok (.plain instruction)) :
    event.statement tables looped path
      = .ok (.perform ⟨instruction, straight_of_resolve resolved⟩) := by
  rw [(isPlain_of_resolve resolved).statement_eq, action_of_resolve resolved]
  rfl

theorem block_cons_cases {tables : Tables} {looped : Bool} {path : NodePath}
    {descend : Nat → Descent} {first : Nat} {event : Event} {events : List Event}
    {statements : List Statement}
    (accepted : block tables looped path descend first (event :: events) = .ok statements) :
    ∃ statement rest, statements = statement :: rest
      ∧ event.statement tables looped (descend first :: path) = .ok statement
      ∧ block tables looped path descend (first + 1) events = .ok rest := by
  obtain ⟨statement, head, accepted⟩ := bind_eq_ok accepted
  obtain ⟨rest, tail, accepted⟩ := bind_eq_ok accepted
  cases accepted
  exact ⟨statement, rest, rfl, head, tail⟩

/-- The statements of a block come from its events one by one. -/
theorem block_cases {tables : Tables} {looped : Bool} {path : NodePath}
    {descend : Nat → Descent} {first : Nat} {events : List Event} {statements : List Statement}
    (accepted : block tables looped path descend first events = .ok statements) :
    match statements with
    | [] => events = []
    | statement :: rest => ∃ event others, events = event :: others
        ∧ event.statement tables looped (descend first :: path) = .ok statement
        ∧ block tables looped path descend (first + 1) others = .ok rest := by
  cases events with
  | nil => cases accepted; rfl
  | cons event events =>
    obtain ⟨statement, rest, rfl, head, tail⟩ := block_cons_cases accepted
    exact ⟨event, events, rfl, head, tail⟩

end Event
end Cartridge
