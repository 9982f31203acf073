import Cartridge.Proofs.Script.Assembling

/-!
# The compiler is the recursive code generator

* `Statement.blockBreaks_eq_nil`: outside of loops nothing waits for the end of a loop, so the code
  of a script does not depend on such an end.
* `CompiledScript.ofSource_eq`: what the two passes give for any script, its faults included.
* `CompiledScript.ofSource_generates`: valid scripts get the generated code, with all sizes and
  labels as counted on the tree, unless they are too large; no label is ever left without an address.
-/

namespace Cartridge

/-! ### Statements outside of loops -/

namespace Statement

variable {tables : Tables}

mutual

theorem breaks_eq_nil (start : Nat) :
    (statement : Statement) → ∀ {event path},
      Event.statement tables false path event = .ok statement → statement.breaks start = []
  | perform _ | loop _ _ => fun _ => rfl
  | branch test first second => fun accepted => by
    obtain ⟨_, _, _, whenTrue, whenFalse⟩ := Event.statement_cases accepted
    rw [breaks, blockBreaks_eq_nil _ first whenTrue, blockBreaks_eq_nil _ second whenFalse,
      List.append_nil]
  | leaveLoop => fun accepted => by
    obtain ⟨_, looped⟩ := Event.statement_cases accepted
    cases looped

/-- **A block outside of loops leaves none.** -/
theorem blockBreaks_eq_nil (start : Nat) :
    (statements : List Statement) → ∀ {path descend first events},
      Event.block tables false path descend first events = .ok statements →
        blockBreaks start statements = []
  | [] => fun _ => rfl
  | statement :: statements => fun accepted => by
    obtain ⟨_, _, _, head, tail⟩ := Event.block_cases accepted
    rw [blockBreaks, breaks_eq_nil _ statement head, blockBreaks_eq_nil _ statements tail,
      List.append_nil]

end

theorem blockCode_eq_of_closed {statements : List Statement}
    (closed : blockBreaks 0 statements = []) (exit : UInt16) :
    blockCode 0 exit statements = blockCode 0 unresolved statements := by
  have filled := fill_blockBreaks [] [] 0 exit rfl statements
  rw [closed] at filled
  simpa using filled.symm

end Statement

/-! ### Whole scripts -/

namespace CompiledScript

open Statement

/-- The bytecode of the statements of a script. -/
def ofStatements (symbol : String) (statements : List Statement) : CompiledScript where
  symbol := symbol
  code := blockCode 0 unresolved statements ++ Lowered.ending.code
  labels := (blockLabels 0 statements).map UInt16.ofNat

/-- **What the two passes give.** A script has the fault of its first bad event, or is too large, or
has the code of its statements. -/
theorem ofSource_eq (tables : Tables) (source : ScriptSource) :
    ofSource tables source
      = match Event.script tables source.body with
        | .error (path, fault) => .error (.node source.origin path fault)
        | .ok statements =>
          if scriptSizeLimit < blockSize statements + 1 then
            .error (.tooLarge source.origin (blockSize statements + 1))
          else .ok (ofStatements source.symbol statements) := by
  rw [ofSource, Lowered.ofBody_eq]
  cases accepted : Event.script tables source.body with
  | error fault => rfl
  | ok statements =>
    show (if scriptSizeLimit < blockSize statements + 1 then _ else _) = ite _ _ _
    by_cases large : scriptSizeLimit < blockSize statements + 1
    · rw [if_pos large, if_pos large]
      rfl
    · have closed := blockBreaks_eq_nil 0 statements accepted
      rw [if_neg large, if_neg large,
        Assembly.ofLowered_ofStatements closed (Nat.le_of_not_lt large)]
      rfl

/-- **A compiled script has the code of its statements**, and fits. -/
theorem ofSource_eq_ok {tables : Tables} {source : ScriptSource} {script : CompiledScript}
    (compiled : ofSource tables source = .ok script) :
    ∃ statements, Event.script tables source.body = .ok statements
      ∧ blockSize statements + 1 ≤ scriptSizeLimit
      ∧ script = ofStatements source.symbol statements := by
  rw [ofSource_eq] at compiled
  split at compiled
  · cases compiled
  · rename_i statements accepted
    split at compiled
    · cases compiled
    · rename_i fits
      cases compiled
      exact ⟨statements, accepted, Nat.le_of_not_lt fits, rfl⟩

/-- The instructions of a compiled script, the stop at its end included. -/
theorem code_ofStatements (symbol : String) (statements : List Statement) :
    (ofStatements symbol statements).code
      = (blockInstructions 0 unresolved statements ++ [Lowered.ending]).flatMap
          Instruction.code := by
  rw [List.flatMap_append, List.flatMap_singleton]
  rfl

theorem readable_ending : Lowered.ending.IsReadable := ⟨rfl, nofun⟩

theorem readable_ofStatements (statements : List Statement) :
    ∀ instruction ∈ blockInstructions 0 unresolved statements ++ [Lowered.ending],
      instruction.IsReadable := by
  intro instruction member
  rcases List.mem_append.1 member with inside | last
  · exact readable_blockInstructions 0 unresolved statements instruction inside
  · rw [List.mem_singleton.1 last]
    exact readable_ending

/-- **The engine reads a script as its instructions.** -/
theorem readScript?_ofStatements (symbol : String) (statements : List Statement) :
    Instruction.readScript? (ofStatements symbol statements).code
      = some (blockInstructions 0 unresolved statements ++ [Lowered.ending]) := by
  rw [code_ofStatements]
  exact Instruction.readScript?_flatMap_code (readable_ofStatements statements)

theorem length_code_ofStatements (symbol : String) (statements : List Statement) :
    (ofStatements symbol statements).code.length = blockSize statements + 1 := by
  show (_ ++ _ : List UInt8).length = _
  rw [List.length_append, length_blockCode]
  rfl

/-- The labels of a script that fits are the counted ones, not only their lower two bytes. -/
theorem toNat_labels_ofStatements (symbol : String) {statements : List Statement}
    (fits : blockSize statements + 1 ≤ scriptSizeLimit) :
    (ofStatements symbol statements).labels.map UInt16.toNat = blockLabels 0 statements := by
  have same : ∀ label ∈ blockLabels 0 statements,
      (UInt16.toNat ∘ UInt16.ofNat) label = id label := by
    intro label member
    have inside := le_of_mem_blockLabels 0 statements label member
    unfold scriptSizeLimit at fits
    exact UInt16.toNat_ofNat_of_lt' (show label < 65536 by omega)
  rw [ofStatements, List.map_map, List.map_congr_left same, List.map_id]

/-- **The compiler is the recursive code generator.** No label is left without an address, whatever
the script. A script of valid events is refused with its counted size if that is too large; if not,
its code is the generated one with one stop behind it, whatever address stands for the end of a loop
around it, and is as long as the first pass says; and its labels are the counted ones, in the order
in which they are handed out. -/
theorem ofSource_generates (tables : Tables) (source : ScriptSource) :
    (∀ origin target, ofSource tables source ≠ .error (.danglingLabel origin target))
      ∧ ∀ statements, Event.script tables source.body = .ok statements →
        (65535 < 1 + blockSize statements →
          ofSource tables source = .error (.tooLarge source.origin (1 + blockSize statements)))
        ∧ (1 + blockSize statements ≤ 65535 →
          ∃ script lowered, ofSource tables source = .ok script
            ∧ Lowered.ofBody tables source.body = .ok lowered
            ∧ (∀ exit, script.code = blockCode 0 exit statements ++ [Opcode.stop.number])
            ∧ script.code.length = lowered.size
            ∧ lowered.size = 1 + blockSize statements
            ∧ script.labels.map UInt16.toNat = blockLabels 0 statements) := by
  refine ⟨fun origin target dangling => ?_, fun statements accepted => ⟨fun large => ?_,
    fun fits => ?_⟩⟩
  · rw [ofSource_eq] at dangling
    split at dangling
    · cases dangling
    · split at dangling <;> cases dangling
  · rw [Nat.add_comm] at large
    rw [ofSource_eq, accepted, Nat.add_comm 1]
    exact if_pos large
  · rw [Nat.add_comm] at fits
    have compiled : ofSource tables source = .ok (ofStatements source.symbol statements) := by
      rw [ofSource_eq, accepted]
      exact if_neg (Nat.not_lt_of_le fits)
    have lowered : Lowered.ofBody tables source.body = .ok (.ofStatements statements) := by
      rw [Lowered.ofBody_eq, accepted]
      rfl
    refine ⟨_, _, compiled, lowered, fun exit => ?_, ?_, Nat.add_comm _ _,
      toNat_labels_ofStatements source.symbol fits⟩
    · rw [blockCode_eq_of_closed (blockBreaks_eq_nil 0 statements accepted)]
      rfl
    · exact length_code_ofStatements source.symbol statements

/-- A loop with a statement behind the leaving of it: both labels of the loop, and the stop, are
where they have been counted. -/
theorem ofSource_generates_loop :
    ∃ script, ofSource ⟨∅, ∅, ∅, ∅, ∅, none⟩
          ⟨"script_blink", "script", [.loopForever [.leaveLoop, .hideOverlay]]⟩ = .ok script
      ∧ script.code = [8, 7, 0, 17, 8, 0, 0, 0]
      ∧ script.labels.map UInt16.toNat = [0, 7] := by
  have valid : Event.script ⟨∅, ∅, ∅, ∅, ∅, none⟩ [.loopForever [.leaveLoop, .hideOverlay]]
      = .ok [loop none [.leaveLoop, .perform ⟨⟨.hideOverlay, []⟩, Event.straight_of_resolve
        (show Event.hideOverlay.resolve ⟨∅, ∅, ∅, ∅, ∅, none⟩ = _ from rfl)⟩]] := rfl
  obtain ⟨_, generated⟩ := ofSource_generates ⟨∅, ∅, ∅, ∅, ∅, none⟩
    ⟨"script_blink", "script", [.loopForever [.leaveLoop, .hideOverlay]]⟩
  obtain ⟨script, _, compiled, _, code, _, _, labels⟩ := (generated _ valid).2 (by decide)
  exact ⟨script, compiled, (code 0).trans (by decide), labels.trans (by decide)⟩

end CompiledScript
end Cartridge
