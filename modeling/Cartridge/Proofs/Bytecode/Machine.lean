import Cartridge.Proofs.Bytecode.Order

/-!
# The script engine as a machine

The engine goes through the bytes of a script: it decodes the order at its place and carries it out.
What orders do to the game and what tests find is left open.

* `Interpretation`: what effects do to the game, and what tests find.
* `Machine.run`, `Machine.Halts`: the run from a place on.
* `Machine.Halts.unique`: a run ends in one state only.
* `Instruction.Stands`: the code has given instructions from a place on.
* `Machine.run_of_stands`: there, the machine carries out the order of the first of them.
-/

namespace Cartridge

/-- **What effects do to the game, and what tests find in it.** -/
structure Interpretation (σ : Type) where
  perform : Effect → σ → σ
  /-- Whether the flag of a slot is set. -/
  flag : UInt8 → σ → Bool
  /-- Whether the variable of a slot compares in this way with a value. -/
  comparison : UInt8 → Comparison → ArgumentOperand → σ → Bool

variable {σ : Type}

/-- What a test finds. -/
def Test.holds (interpretation : Interpretation σ) (state : σ) : Test → Bool
  | flag slot => interpretation.flag slot state
  | comparison slot compared value => interpretation.comparison slot compared value state

/-- Carries out an order: the place to go on at, which is `past` unless there is a jump, and the
state. At a stop there is none. -/
def Interpretation.follow (interpretation : Interpretation σ) (past : Nat) (state : σ) :
    Order → Option (Nat × σ)
  | .stop => none
  | .goTo target => some (target.toNat, state)
  | .unless test target =>
    some (if test.holds interpretation state then past else target.toNat, state)
  | .perform effect => some (past, interpretation.perform effect state)

namespace Machine

/-- The order at a place, and the place behind it. -/
def orderAt? (code : List UInt8) (place : Nat) : Option (Order × Nat) := do
  let (instruction, _) ← Instruction.read? (code.drop place)
  return (← instruction.order?, place + instruction.size)

/-- The state in which the machine stops, if it does so within a number of steps. It does not where
the bytes are no order. -/
def run (interpretation : Interpretation σ) (code : List UInt8) : Nat → Nat → σ → Option σ
  | 0, _, _ => none
  | limit + 1, place, state =>
    match orderAt? code place with
    | none => none
    | some (order, past) =>
      match interpretation.follow past state order with
      | none => some state
      | some (next, state) => run interpretation code limit next state

/-- **The machine stops in a state.** -/
def Halts (interpretation : Interpretation σ) (code : List UInt8) (place : Nat) (state final : σ) :
    Prop :=
  ∃ limit, run interpretation code limit place state = some final

variable {interpretation : Interpretation σ} {code : List UInt8} {place : Nat} {state final : σ}

theorem run_mono {limit more : Nat} (least : limit ≤ more)
    (halted : run interpretation code limit place state = some final) :
    run interpretation code more place state = some final := by
  induction limit generalizing more place state with
  | zero => cases halted
  | succ limit ih =>
    obtain ⟨more, rfl⟩ : ∃ less, more = less + 1 := ⟨more - 1, by omega⟩
    unfold run at halted ⊢
    cases found : orderAt? code place with
    | none =>
      rw [found] at halted
      cases halted
    | some reading =>
      obtain ⟨order, past⟩ := reading
      simp only [found] at halted ⊢
      cases followed : interpretation.follow past state order with
      | none =>
        simp only [followed] at halted ⊢
        exact halted
      | some next =>
        simp only [followed] at halted ⊢
        exact ih (Nat.le_of_succ_le_succ least) halted

/-- **A run ends in one state only.** -/
theorem Halts.unique {other : σ} (halts : Halts interpretation code place state final)
    (again : Halts interpretation code place state other) : final = other := by
  obtain ⟨first, halted⟩ := halts
  obtain ⟨second, haltedAgain⟩ := again
  have one := run_mono (Nat.le_add_right first second) halted
  have two := run_mono (Nat.le_add_left second first) haltedAgain
  exact Option.some.inj (one.symm.trans two)

end Machine

/-! ### Instructions at a place -/

/-- **The code has these instructions from a place on.** -/
def Instruction.Stands (code : List UInt8) (start : Nat) (instructions : List Instruction) : Prop :=
  ∃ before after, code = before ++ instructions.flatMap Instruction.code ++ after
    ∧ before.length = start

namespace Instruction.Stands

variable {code : List UInt8} {start : Nat} {first second : List Instruction}

theorem left (stands : Stands code start (first ++ second)) : Stands code start first := by
  obtain ⟨before, after, whole, placed⟩ := stands
  refine ⟨before, second.flatMap Instruction.code ++ after, ?_, placed⟩
  rw [whole, List.flatMap_append]
  simp only [List.append_assoc]

theorem right (stands : Stands code start (first ++ second)) :
    Stands code (start + (first.flatMap Instruction.code).length) second := by
  obtain ⟨before, after, whole, placed⟩ := stands
  refine ⟨before ++ first.flatMap Instruction.code, after, ?_, ?_⟩
  · rw [whole, List.flatMap_append]
    simp only [List.append_assoc]
  · rw [List.length_append, placed]

/-- What stands behind one instruction. -/
theorem tail {instruction : Instruction} (stands : Stands code start (instruction :: second)) :
    Stands code (start + instruction.size) second := by
  have whole : Stands code start ([instruction] ++ second) := stands
  have later := whole.right
  rwa [List.flatMap_singleton, length_code] at later

theorem le_length (stands : Stands code start first) :
    start + (first.flatMap Instruction.code).length ≤ code.length := by
  obtain ⟨before, after, whole, placed⟩ := stands
  rw [whole, List.length_append, List.length_append, placed]
  exact Nat.le_add_right _ _

theorem read? {instruction : Instruction} (stands : Stands code start (instruction :: second))
    (readable : instruction.IsReadable) :
    ∃ rest, Instruction.read? (code.drop start) = some (instruction, rest) := by
  obtain ⟨before, after, whole, placed⟩ := stands
  refine ⟨second.flatMap Instruction.code ++ after, ?_⟩
  rw [whole, List.append_assoc, ← placed, List.drop_left, List.flatMap_cons, List.append_assoc,
    read?_code readable]

end Instruction.Stands

namespace Machine

open Instruction (Stands)

variable {interpretation : Interpretation σ} {code : List UInt8} {start next : Nat}
  {state after final : σ} {instruction : Instruction} {order : Order} {later : List Instruction}

/-- **Where an instruction stands, the machine carries out its order.** -/
theorem run_of_stands (stands : Stands code start (instruction :: later))
    (readable : instruction.IsReadable) (ordered : instruction.order? = some order) (limit : Nat)
    (state : σ) :
    run interpretation code (limit + 1) start state
      = match interpretation.follow (start + instruction.size) state order with
        | none => some state
        | some (next, state) => run interpretation code limit next state := by
  obtain ⟨rest, found⟩ := stands.read? readable
  have here : orderAt? code start = some (order, start + instruction.size) := by
    rw [orderAt?, found]
    simp only [ordered, Option.bind_eq_bind, Option.bind_some, Option.pure_def]
  rw [run, here]

theorem Halts.step (stands : Stands code start (instruction :: later))
    (readable : instruction.IsReadable) (ordered : instruction.order? = some order)
    (followed : interpretation.follow (start + instruction.size) state order = some (next, after))
    (halts : Halts interpretation code next after final) :
    Halts interpretation code start state final := by
  obtain ⟨limit, halted⟩ := halts
  refine ⟨limit + 1, ?_⟩
  rw [run_of_stands stands readable ordered, followed]
  exact halted

/-- A run that halts before an instruction halts behind it, one step earlier. -/
theorem run_cases {limit : Nat} (stands : Stands code start (instruction :: later))
    (readable : instruction.IsReadable) (ordered : instruction.order? = some order)
    (followed : interpretation.follow (start + instruction.size) state order = some (next, after))
    (halted : run interpretation code limit start state = some final) :
    ∃ less, less < limit ∧ run interpretation code less next after = some final := by
  cases limit with
  | zero => cases halted
  | succ limit =>
    rw [run_of_stands stands readable ordered, followed] at halted
    exact ⟨limit, Nat.lt_succ_self limit, halted⟩

end Machine
end Cartridge
