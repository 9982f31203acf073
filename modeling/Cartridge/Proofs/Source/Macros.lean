import Cartridge.Proofs.Symbol.Indexing
import Cartridge.Proofs.Symbol.Naming

/-!
# The macros of the generated headers

The header of the tables includes that of the banks, so a name should be defined once in both of
them together. The macros come in families, which their first characters tell apart.

* `Header.lead`: the first characters of a name.
* `Header.filter_symbolMacros`: among the macros of symbols, that of a symbol is defined once.
* `Game.macros_eq`: all macros, in the order of the text.
-/

namespace Cartridge

/-! ### Lists of pairs -/

/-- Where no first component is repeated, it tells the pair. -/
theorem filter_eq_singleton {α β : Type} [DecidableEq α] {pairs : List (α × β)} {pair : α × β}
    (distinct : (pairs.map Prod.fst).Nodup) (member : pair ∈ pairs) :
    pairs.filter (fun other => other.1 = pair.1) = [pair] := by
  induction pairs with
  | nil => cases member
  | cons first pairs ih =>
    obtain ⟨fresh, distinct⟩ := List.nodup_cons.1 distinct
    rcases List.mem_cons.1 member with rfl | later
    · have others : pairs.filter (fun other => other.1 = pair.1) = [] := by
        refine List.filter_eq_nil_iff.2 fun other listed same => fresh ?_
        rw [← of_decide_eq_true same]
        exact List.mem_map_of_mem listed
      rw [List.filter_cons, if_pos (decide_eq_true rfl), others]
    · have differ : first.1 ≠ pair.1 := fun same => fresh (same ▸ List.mem_map_of_mem later)
      rw [List.filter_cons, if_neg fun same => differ (of_decide_eq_true same), ih distinct later]

namespace Header

@[simp] theorem macros_nil : macros [] = [] := rfl

@[simp] theorem macros_append (first second : List Line) :
    macros (first ++ second) = macros first ++ macros second :=
  List.filterMap_append

@[simp] theorem macros_cons_text (line : String) (lines : List Line) :
    macros (.text line :: lines) = macros lines := rfl

@[simp] theorem macros_cons_define (name value : String) (lines : List Line) :
    macros (.define name value :: lines) = (name, value) :: macros lines := rfl

@[simp] theorem macros_cons_count (name : String) (value : Nat) (lines : List Line) :
    macros (count name value :: lines) = (name, toString value) :: macros lines := rfl

@[simp] theorem macros_texts (lines : List String) : macros (texts lines) = [] := by
  induction lines with
  | nil => rfl
  | cons line lines ih => exact ih

theorem macros_map_count {α : Type} (name : α → String) (value : α → Nat) (items : List α) :
    macros (items.map fun item => count (name item) (value item))
      = items.map fun item => (name item, toString (value item)) := by
  induction items with
  | nil => rfl
  | cons item items ih => rw [List.map_cons, macros_cons_count, ih, List.map_cons]

/-- The macros of the symbols, with their values. -/
def symbolMacros (tables : Tables) : List (String × String) :=
  tables.symbols.toList.map fun pair => (symbolMacro pair.1, toString pair.2.toNat)

/-- The macros of names and their slots, with their values. -/
def slotValues (start : String) (slots : NameTable UInt8) : List (String × String) :=
  slots.toList.map fun pair =>
    (start ++ Identifier.upper (Identifier.ofName pair.1), toString pair.2.toNat)

/-- What the macro of the first scene stands for. -/
def startMacro (tables : Tables) : String :=
  match tables.startScene with
  | some symbol => symbolMacro symbol
  | none => "NO_SYMBOL"

/-- The first characters of a name, which tell the families of macros apart. -/
def lead (name : String) : List Char := name.toList.take 4

theorem filter_eq_nil_of_lead {name : String} {pairs : List (String × String)}
    (apart : ∀ pair ∈ pairs, lead pair.1 ≠ lead name) :
    pairs.filter (fun pair => pair.1 = name) = [] :=
  List.filter_eq_nil_iff.2 fun pair member same =>
    apart pair member (congrArg lead (of_decide_eq_true same))

theorem lead_symbolMacro (symbol : String) : lead (symbolMacro symbol) = lead "SYM_" := by
  rw [lead, symbolMacro, String.toList_append]
  rfl

theorem lead_slotValues {start : String} (long : 4 ≤ start.toList.length) {slots : NameTable UInt8} :
    ∀ pair ∈ slotValues start slots, lead pair.1 = lead start := by
  intro pair member
  obtain ⟨slot, _, rfl⟩ := List.mem_map.1 member
  rw [lead, String.toList_append, List.take_append_of_le_length long, lead]

theorem filter_symbolMacros_eq_nil {name : String} (apart : lead "SYM_" ≠ lead name)
    (tables : Tables) : (symbolMacros tables).filter (fun pair => pair.1 = name) = [] := by
  refine filter_eq_nil_of_lead fun pair member => ?_
  obtain ⟨one, _, rfl⟩ := List.mem_map.1 member
  rwa [lead_symbolMacro]

theorem filter_slotValues_eq_nil {start name : String} (long : 4 ≤ start.toList.length)
    (apart : lead start ≠ lead name) (slots : NameTable UInt8) :
    (slotValues start slots).filter (fun pair => pair.1 = name) = [] :=
  filter_eq_nil_of_lead fun pair member => lead_slotValues long pair member ▸ apart

/-- **Among the macros of symbols, that of a symbol is defined once**, as its index. -/
theorem filter_symbolMacros {project : Project} {tables : Tables}
    (numbers : Tables.Numbers tables.symbols (project.declarations.map Declaration.symbol))
    {symbol : String} {index : UInt16} (found : tables.symbols.get? symbol = some index) :
    (symbolMacros tables).filter (fun pair => pair.1 = symbolMacro symbol)
      = [(symbolMacro symbol, toString index.toNat)] := by
  have names : (symbolMacros tables).map Prod.fst
      = (project.declarations.map Declaration.symbol).map symbolMacro := by
    rw [← numbers.keys, ← OrderedTable.map_fst_toList, symbolMacros, List.map_map, List.map_map]
    rfl
  have distinct : ((symbolMacros tables).map Prod.fst).Nodup := by
    rw [names]
    refine List.Nodup.map_on (fun first member second other same => ?_) numbers.nodup
    obtain ⟨one, _, rfl⟩ := List.mem_map.1 member
    obtain ⟨another, _, rfl⟩ := List.mem_map.1 other
    exact symbolMacro_injective same
  have listed := (OrderedTable.mem_toList_iff _ symbol index).2 found
  exact filter_eq_singleton distinct (List.mem_map.2 ⟨(symbol, index), listed, rfl⟩)

end Header

namespace Game

open Header

/-- All macros that the header of the tables defines, with those of the header that it includes. -/
def macros (game : Game) : List (String × String) :=
  Header.macros (ofBanks game.allocation) ++ Header.macros (ofData game)

/-- The macros before those of the symbols. -/
def earlierMacros (game : Game) : List (String × String) :=
  [("NUM_BANKS", toString game.allocation.banks.size),
    ("FIRST_DATA_BANK", toString game.allocation.firstBank.toNat),
    ("BANK_CAPACITY", toString game.allocation.capacity),
    ("NO_SYMBOL", "0x" ++ Hex.upper 4 noSymbol.toNat)]

/-- The macros behind those of the symbols. -/
def laterMacros (game : Game) : List (String × String) :=
  [("SYMBOL_COUNT", toString game.tables.symbols.size),
      ("START_SCENE_SYMBOL", startMacro game.tables)]
    ++ slotValues "VAR_" game.tables.gameVariables
    ++ [("NUM_VARIABLES", toString game.tables.gameVariables.size)]
    ++ slotValues "FLAG_" game.tables.flags
    ++ [("NUM_FLAGS", toString game.tables.flags.size)]
    ++ slotValues "ACTOR_" game.tables.actors
    ++ [("SCENE_COUNT", toString game.world.scenes.length),
      ("ACTOR_COUNT", toString game.world.actors.length),
      ("TRIGGER_COUNT", toString game.world.triggers.length)]

/-- **All macros**, in the order of the text. -/
theorem macros_eq (game : Game) :
    game.macros = game.earlierMacros ++ symbolMacros game.tables ++ game.laterMacros := by
  have slots : ∀ start table, Header.macros (slotMacros start table) = slotValues start table :=
    fun start table => macros_map_count _ _ _
  have symbols : Header.macros (game.tables.symbols.toList.map fun pair =>
      count (symbolMacro pair.1) pair.2.toNat) = symbolMacros game.tables := macros_map_count _ _ _
  simp only [macros, ofBanks, ofData, indexLines, operationLines, shapeLines, tableLines,
    macros_append, macros_texts, macros_cons_count, macros_cons_define, macros_cons_text,
    macros_nil, slots, List.append_nil, List.nil_append]
  simp only [earlierMacros, laterMacros, ← symbols, List.append_assoc, List.cons_append,
    List.nil_append]
  rfl

end Game
end Cartridge
