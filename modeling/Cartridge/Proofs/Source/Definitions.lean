import Cartridge.Proofs.Source.Macros
import Cartridge.Proofs.Source.PointerTable
import Cartridge.Proofs.Symbol.Slots

/-!
# What the headers define

The definitions are read from the lines of the headers as the engine's compiler reads them, so those
that keep a header from being read twice are among them.

* `Header.definition?`: the name and the value in a line that defines something.
* `Game.definitions`: the definitions of both headers.
* `Game.perm_definitions`: they are the fixed ones and those of the symbols and the names with slots.
* `Game.definesOnce_iff`: when a macro has just one definition.
-/

namespace Cartridge

open DataSource (takeWhile_append_cons dropWhile_append_cons)

namespace Header

/-- The name and the value in a line that defines something. -/
def definition? (line : String) : Option (String × String) :=
  match line.toList with
  | '#' :: 'd' :: 'e' :: 'f' :: 'i' :: 'n' :: 'e' :: ' ' :: rest =>
    some (String.ofList (rest.takeWhile (· ≠ ' ')),
      String.ofList ((rest.dropWhile (· ≠ ' ')).drop 1))
  | _ => none

/-- The definitions in some lines, as they are written. -/
def definitions (lines : List Line) : List (String × String) :=
  lines.filterMap fun line => definition? line.render

/-- **A macro whose name has no blank is read as it is.** -/
theorem definition?_define {name value : String} (clear : ' ' ∉ name.toList) :
    definition? (Line.define name value).render = some (name, value) := by
  have written : (Line.define name value).render.toList
      = '#' :: 'd' :: 'e' :: 'f' :: 'i' :: 'n' :: 'e' :: ' '
        :: (name.toList ++ ' ' :: value.toList) := by
    show ("#define " ++ name ++ " " ++ value).toList = _
    simp
  have before : ∀ c ∈ name.toList, decide (c ≠ ' ') = true := fun c member =>
    decide_eq_true fun blank => clear (blank ▸ member)
  have blank : decide (' ' ≠ ' ') = false := rfl
  rw [definition?, written]
  simp only [takeWhile_append_cons before blank, dropWhile_append_cons before blank]
  rw [List.drop_one, List.tail_cons, String.ofList_toList, String.ofList_toList]

/-- A line that is read as it is meant: a text that defines nothing, or a macro whose name has no
blank. -/
def Line.IsClear : Line → Prop
  | .text line => definition? line = none
  | .define name _ => ' ' ∉ name.toList

theorem definitions_append (first second : List Line) :
    definitions (first ++ second) = definitions first ++ definitions second :=
  List.filterMap_append

/-- **Clear lines define the macros that they are made for.** -/
theorem definitions_eq_macros {lines : List Line} (clear : ∀ line ∈ lines, line.IsClear) :
    definitions lines = macros lines := by
  refine List.filterMap_congr fun line member => ?_
  cases line with
  | text line => exact clear _ member
  | define name value => exact definition?_define (clear _ member)

theorem isClear_texts {lines : List String} (nothing : ∀ line ∈ lines, definition? line = none) :
    ∀ line ∈ texts lines, line.IsClear := by
  intro line member
  obtain ⟨text, inside, rfl⟩ := List.mem_map.1 member
  exact nothing text inside

theorem isClear_count {name : String} (plain : ∀ c ∈ name.toList, Identifier.isPart c = true)
    (value : Nat) : (count name value).IsClear :=
  fun blank => absurd (plain _ blank) (by decide)

theorem isClear_slotMacros {start : String}
    (plain : ∀ c ∈ start.toList, Identifier.isPart c = true) (slots : NameTable UInt8) :
    ∀ line ∈ slotMacros start slots, line.IsClear := by
  intro line member
  obtain ⟨⟨name, slot⟩, _, rfl⟩ := List.mem_map.1 member
  exact isClear_count (isPart_of_mem_slotMacro plain name) _

/-- What the macros of names with slots start with is plain. -/
theorem isPart_of_mem_start :
    ∀ start ∈ ["VAR_", "FLAG_", "ACTOR_"], ∀ c ∈ start.toList, Identifier.isPart c = true := by
  simp [Identifier.isPart, Char.isAlphanum]

variable {project : Project} {tables : Tables}

theorem isClear_indexLines
    (numbers : Tables.Numbers tables.symbols (project.declarations.map Declaration.symbol)) :
    ∀ line ∈ indexLines tables, line.IsClear := by
  simp only [indexLines, List.forall_mem_append]
  refine ⟨⟨⟨⟨⟨⟨⟨⟨?_, ?_⟩, ?_⟩, ?_⟩, ?_⟩, ?_⟩, ?_⟩, ?_⟩, ?_⟩
  · simp [Line.IsClear]
  · intro line member
    obtain ⟨⟨symbol, index⟩, listed, rfl⟩ := List.mem_map.1 member
    have declared : symbol ∈ project.declarations.map Declaration.symbol := by
      rw [← numbers.keys]
      exact OrderedTable.mem_keys_of_mem_toList listed
    obtain ⟨declaration, _, rfl⟩ := List.mem_map.1 declared
    exact isClear_count (isPart_of_mem_symbolMacro declaration) _
  · simp [Line.IsClear, count, definition?]
  · exact isClear_slotMacros (isPart_of_mem_start _ (by simp)) tables.gameVariables
  · simp [Line.IsClear, count, definition?]
  · exact isClear_slotMacros (isPart_of_mem_start _ (by simp)) tables.flags
  · simp [Line.IsClear, count, definition?]
  · exact isClear_slotMacros (isPart_of_mem_start _ (by simp)) tables.actors
  · simp [Line.IsClear, definition?]

theorem isClear_operationLines : ∀ line ∈ operationLines, line.IsClear :=
  isClear_texts (by decide)

theorem isClear_shapeLines : ∀ line ∈ shapeLines, line.IsClear :=
  isClear_texts (by decide)

theorem isClear_tableLines (world : World) (allocation : Allocation) :
    ∀ line ∈ tableLines world allocation, line.IsClear := by
  have arrays : ∀ line ∈ allocation.banks.toList.map fun bank =>
      s!"extern const unsigned char {bankArrayName bank.index}[];", definition? line = none := by
    intro line member
    obtain ⟨bank, _, rfl⟩ := List.mem_map.1 member
    have written : ("extern const unsigned char " ++ bankArrayName bank.index ++ "[];").toList
        = 'e' :: ("xtern const unsigned char ".toList
          ++ (bankArrayName bank.index ++ "[];").toList) := by
      simp
    show definition? ("extern const unsigned char " ++ bankArrayName bank.index ++ "[];") = none
    rw [definition?, written]
    rfl
  simp only [tableLines, List.forall_mem_append]
  refine ⟨⟨?_, isClear_texts (by decide)⟩, isClear_texts arrays⟩
  simp [Line.IsClear, count]

end Header

namespace Game

open Header

/-- **All definitions** in the header of the tables and in that of the banks, which it includes. -/
def definitions (game : Game) : List (String × String) :=
  Header.definitions (ofBanks game.allocation) ++ Header.definitions (ofData game)

/-- The definitions that every game has, whatever it declares. The first two keep the headers from
being read twice. -/
def fixedDefinitions (game : Game) : List (String × String) :=
  [("BANKS_H", ""), ("DATA_PTRS_H", "")]
    ++ (game.earlierMacros
      ++ [("SYMBOL_COUNT", toString game.tables.symbols.size),
        ("START_SCENE_SYMBOL", startMacro game.tables),
        ("NUM_VARIABLES", toString game.tables.gameVariables.size),
        ("NUM_FLAGS", toString game.tables.flags.size),
        ("SCENE_COUNT", toString game.world.scenes.length),
        ("ACTOR_COUNT", toString game.world.actors.length),
        ("TRIGGER_COUNT", toString game.world.triggers.length)])

variable {game : Game} {project : Project}

theorem definitions_ofBanks (allocation : Allocation) :
    Header.definitions (ofBanks allocation)
      = ("BANKS_H", "") :: Header.macros (ofBanks allocation) := by
  have rest : ∀ line ∈ [count "NUM_BANKS" allocation.banks.size,
      count "FIRST_DATA_BANK" allocation.firstBank.toNat,
      count "BANK_CAPACITY" allocation.capacity] ++ texts ["", "#endif"], line.IsClear := by
    simp [Line.IsClear, count, texts, definition?]
  rw [ofBanks, List.append_assoc, definitions_append, definitions_eq_macros rest,
    macros_append (texts _), macros_texts]
  rfl

theorem definitions_ofData
    (numbers : Tables.Numbers game.tables.symbols (project.declarations.map Declaration.symbol)) :
    Header.definitions (ofData game) = ("DATA_PTRS_H", "") :: Header.macros (ofData game) := by
  have rest : ∀ line ∈ indexLines game.tables ++ (operationLines ++ (shapeLines
      ++ (tableLines game.world game.allocation ++ texts ["", "#endif"]))), line.IsClear := by
    simp only [List.forall_mem_append]
    exact ⟨isClear_indexLines numbers, isClear_operationLines, isClear_shapeLines,
      isClear_tableLines _ _, isClear_texts (by decide)⟩
  simp only [ofData, List.append_assoc]
  rw [definitions_append, definitions_eq_macros rest, macros_append (texts _), macros_texts]
  rfl

theorem perm_guards_macros
    (numbers : Tables.Numbers game.tables.symbols (project.declarations.map Declaration.symbol)) :
    game.definitions.Perm ([("BANKS_H", ""), ("DATA_PTRS_H", "")] ++ game.macros) := by
  rw [definitions, definitions_ofBanks, definitions_ofData numbers]
  exact .cons _ List.perm_middle

/-- **The definitions are the fixed ones and those of the symbols and the names with slots.** -/
theorem perm_definitions
    (numbers : Tables.Numbers game.tables.symbols (project.declarations.map Declaration.symbol)) :
    game.definitions.Perm (game.fixedDefinitions ++ (symbolMacros game.tables
      ++ (slotValues "VAR_" game.tables.gameVariables ++ (slotValues "FLAG_" game.tables.flags
        ++ slotValues "ACTOR_" game.tables.actors)))) := by
  refine (perm_guards_macros numbers).trans ?_
  rw [macros_eq, fixedDefinitions, laterMacros, ← Multiset.coe_eq_coe]
  simp only [← Multiset.coe_add, ← Multiset.cons_coe, ← Multiset.singleton_add, Multiset.coe_nil]
  abel

/-! ### The definitions of one macro -/

/-- **A macro has one definition only**, and it has this value. -/
def DefinesOnce (game : Game) (name value : String) : Prop :=
  game.definitions.filter (fun pair => pair.1 = name) = [(name, value)]

/-- The families do not share a macro with each other, so each can be looked at alone. -/
theorem definesOnce_iff
    (numbers : Tables.Numbers game.tables.symbols (project.declarations.map Declaration.symbol))
    {name value : String} :
    game.DefinesOnce name value
      ↔ game.fixedDefinitions.filter (fun pair => pair.1 = name)
        ++ ((symbolMacros game.tables).filter (fun pair => pair.1 = name)
          ++ ((slotValues "VAR_" game.tables.gameVariables).filter (fun pair => pair.1 = name)
            ++ ((slotValues "FLAG_" game.tables.flags).filter (fun pair => pair.1 = name)
              ++ (slotValues "ACTOR_" game.tables.actors).filter (fun pair => pair.1 = name))))
        = [(name, value)] := by
  have parts := (perm_definitions numbers).filter (fun pair => pair.1 = name)
  simp only [List.filter_append] at parts
  rw [DefinesOnce, ← List.perm_singleton, ← List.perm_singleton]
  exact ⟨parts.symm.trans, parts.trans⟩

/-- No macro is defined twice just if each definition is the only one of its macro. -/
theorem nodup_definitions_iff (game : Game) :
    (game.definitions.map Prod.fst).Nodup
      ↔ ∀ pair ∈ game.definitions, game.DefinesOnce pair.1 pair.2 := by
  constructor
  · exact fun distinct pair member => filter_eq_singleton distinct member
  · intro once
    refine List.nodup_iff_count_le_one.2 fun name => ?_
    by_cases defined : name ∈ game.definitions.map Prod.fst
    · obtain ⟨pair, member, rfl⟩ := List.mem_map.1 defined
      have alone := congrArg List.length (once pair member)
      rw [List.count, List.countP_map, List.countP_eq_length_filter]
      exact Nat.le_of_eq alone
    · rw [List.count_eq_zero_of_not_mem defined]
      exact Nat.zero_le 1

end Game
end Cartridge
