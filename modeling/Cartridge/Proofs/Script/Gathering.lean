import Cartridge.Proofs.Script.Compilation

/-!
# What events and their code have in common

Something that each event has of its own, such as the names in its fields, is gathered from a whole
tree in the order of the text. If it agrees with something in the instructions of each event by
itself, it does so for the code of the tree.

* `Event.gather`, `Event.gatherBlock`: what is gathered from a tree.
* `Statement.Agrees`: the agreement of one event with its own instructions.
* `Statement.Agrees.block`: the agreement of a list of events with its code.
-/

namespace Cartridge

variable {α β : Type}

namespace Event

mutual

/-- What an event and the events below it have of their own, in the order of the text. -/
def gather (own : Event → List α) : Event → List α
  | ifFlag name whenTrue whenFalse =>
    own (ifFlag name whenTrue whenFalse)
      ++ (gatherBlock own whenTrue ++ gatherBlock own whenFalse)
  | ifVariable name comparison value whenTrue whenFalse =>
    own (ifVariable name comparison value whenTrue whenFalse)
      ++ (gatherBlock own whenTrue ++ gatherBlock own whenFalse)
  | loopWhile name comparison value body =>
    own (loopWhile name comparison value body) ++ gatherBlock own body
  | loopForever body => own (loopForever body) ++ gatherBlock own body
  | event => own event

/-- What the events of a list and those below them have of their own. -/
def gatherBlock (own : Event → List α) : List Event → List α
  | [] => []
  | event :: events => gather own event ++ gatherBlock own events

end

variable {own : Event → List α} {tables : Tables} {event : Event}

theorem IsPlain.gather_eq (isPlain : event.IsPlain) : event.gather own = own event := by
  cases event <;> first | exact isPlain.elim | rw [gather] <;> nofun

theorem Branches.gather_eq {test : Test} {whenTrue whenFalse : List Event}
    (branches : event.Branches tables test whenTrue whenFalse) :
    event.gather own = own event ++ (gatherBlock own whenTrue ++ gatherBlock own whenFalse) := by
  cases branches with
  | ifFlag asked => rw [gather]
  | ifVariable asked => rw [gather]

theorem Loops.gather_eq {test : Option Test} {body : List Event}
    (loops : event.Loops tables test body) :
    event.gather own = own event ++ gatherBlock own body := by
  cases loops with
  | loopWhile asked => rw [gather]
  | loopForever => rw [gather]

theorem Branches.resolve_eq {test : Test} {whenTrue whenFalse : List Event}
    (branches : event.Branches tables test whenTrue whenFalse) :
    event.resolve tables = .ok (.branch test.jump whenTrue whenFalse) := by
  cases branches with
  | ifFlag asked => rw [resolve_ifFlag, asked]; rfl
  | ifVariable asked => rw [resolve_ifVariable, asked]; rfl

theorem Loops.resolve_eq {test : Option Test} {body : List Event}
    (loops : event.Loops tables test body) :
    event.resolve tables = .ok (.loop (test.map Test.jump) body) := by
  cases loops with
  | loopWhile asked => rw [resolve_loopWhile, asked]; rfl
  | loopForever => rfl

end Event

/-- The instruction of an event by itself, with the label of its jump. -/
def ResolvedEvent.instructions (target : Label) : ResolvedEvent → List Instruction
  | plain instruction => [instruction]
  | branch jump _ _ | loop (some jump) _ => [jump.toward target]
  | loop none _ | leaveLoop => []

namespace Statement

/-- **What an event has of its own agrees with what is in its instruction.** The jumps that hold a
tree together have no part in it. -/
structure Agrees (tables : Tables) (relation : α → β → Prop) (own : Event → List α)
    (part : Instruction → List β) : Prop where
  event : ∀ {event : Event} {form : ResolvedEvent}, event.resolve tables = .ok form →
    ∀ target, List.Forall₂ relation (own event) ((form.instructions target).flatMap part)
  leap : ∀ address, part (Instruction.leap address) = []

variable {tables : Tables} {relation : α → β → Prop} {own : Event → List α}
  {part : Instruction → List β}

theorem guard_eq_instructions (past : UInt16) (test : Option Test) (body : List Event) :
    guard past test = (ResolvedEvent.loop (test.map Test.jump) body).instructions past := by
  cases test <;> rfl

namespace Agrees

theorem skip_eq_nil (agrees : Agrees tables relation own part) (past : UInt16)
    (whenFalse : List Statement) :
    (skip past whenFalse).flatMap part = [] := by
  unfold skip
  split
  · rfl
  · rw [List.flatMap_singleton, agrees.leap]

mutual

theorem statement (agrees : Agrees tables relation own part) (start : Nat) (exit : UInt16) :
    (statement : Statement) → ∀ {looped path event},
      Event.statement tables looped path event = .ok statement →
        List.Forall₂ relation (event.gather own)
          ((statement.instructions start exit).flatMap part)
  | perform action => fun accepted => by
    have resolved := Event.statement_cases accepted
    rw [(Event.isPlain_of_resolve resolved).gather_eq]
    exact agrees.event resolved exit
  | branch test first second => fun accepted => by
    obtain ⟨whenTrue, whenFalse, branches, firstAccepted, secondAccepted⟩ :=
      Event.statement_cases accepted
    rw [branches.gather_eq, instructions, List.cons_append, List.cons_append, List.flatMap_cons,
      List.flatMap_append, List.flatMap_append, agrees.skip_eq_nil, List.append_nil]
    have jump := agrees.event branches.resolve_eq
      (UInt16.ofNat (start + test.size + blockSize first + skipSize second))
    rw [ResolvedEvent.instructions, List.flatMap_singleton] at jump
    exact List.rel_append jump (List.rel_append (agrees.block _ exit first firstAccepted)
      (agrees.block _ exit second secondAccepted))
  | loop test inner => fun accepted => by
    obtain ⟨body, loops, innerAccepted⟩ := Event.statement_cases accepted
    rw [loops.gather_eq, instructions, List.flatMap_append, List.flatMap_append,
      guard_eq_instructions _ test body, List.flatMap_singleton, agrees.leap, List.append_nil]
    exact List.rel_append (agrees.event loops.resolve_eq _) (agrees.block _ _ inner innerAccepted)
  | leaveLoop => fun accepted => by
    obtain ⟨rfl, _⟩ := Event.statement_cases accepted
    have resolved : Event.leaveLoop.resolve tables = .ok .leaveLoop := rfl
    rw [instructions, List.flatMap_singleton, agrees.leap]
    exact agrees.event resolved exit

/-- **What a list of events has of its own agrees with what is in its code.** -/
theorem block (agrees : Agrees tables relation own part) (start : Nat) (exit : UInt16) :
    (statements : List Statement) → ∀ {looped path descend first events},
      Event.block tables looped path descend first events = .ok statements →
        List.Forall₂ relation (Event.gatherBlock own events)
          ((blockInstructions start exit statements).flatMap part)
  | [] => fun accepted => by
    cases Event.block_cases accepted
    exact .nil
  | statement :: statements => fun accepted => by
    obtain ⟨event, events, rfl, head, tail⟩ := Event.block_cases accepted
    rw [blockInstructions, List.flatMap_append, Event.gatherBlock]
    exact List.rel_append (agrees.statement start exit statement head)
      (agrees.block _ exit statements tail)

end

end Agrees
end Statement
end Cartridge
