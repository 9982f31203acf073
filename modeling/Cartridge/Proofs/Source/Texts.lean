import Cartridge.Proofs.Source.BankArray
import Cartridge.Proofs.Source.Definitions
import Cartridge.Proofs.Source.TextLiteral

/-!
# The generated texts, line by line

The headers and the source of the tables are written line by line. No line has a line feed within,
whatever the names of a project are, so the lines are read from the texts as they were written.

* `Header.readDefinitions`: the definitions in a text. `Header.readDefinitions_ofBanks`,
  `Header.readDefinitions_ofData`: those in the texts of the headers.
* `Header.numbers`: the numbers that the definitions of a macro in a text stand for.
* `DataSource.pointerAt?`: the bank and the offset in a row of the pointer table in a text.
* `DataSource.pointerAt?_lines`: for the index of a symbol they are those of the symbol.
-/

namespace Cartridge

open BankArray (IsPlain isWhole_ofOffset isWhole_bankArrayName)

/-! ### Names -/

/-- The name under which something is stored is plain. -/
theorem PackedAsset.isPlain_symbol (asset : PackedAsset) : IsPlain asset.symbol := by
  have start : ∀ c ∈ "blob_".toList, Identifier.isPart c = true := by
    simp [Identifier.isPart, Char.isAlphanum]
  have digits : ∀ digit < 16, Identifier.isPart (Nat.digitChar digit) = true := by decide
  intro c member
  rw [symbol, String.toList_append, List.mem_append] at member
  rcases member with first | digit
  · exact start c first
  · rw [String.toList_ofList] at digit
    have listed := List.mem_of_mem_take digit
    rw [Digest.hex, Hex.ofBytes, String.toList_join, List.flatMap_map] at listed
    obtain ⟨byte, _, written⟩ := List.mem_flatMap.1 listed
    obtain ⟨value, small, rfl⟩ := Literal.exists_digit_of_mem_lower written
    exact digits value small

/-- The symbols of a project are plain. -/
theorem Project.isPlain_of_declared {project : Project} {symbol : String}
    (declared : symbol ∈ project.declarations.map Declaration.symbol) : IsPlain symbol := by
  obtain ⟨declaration, _, rfl⟩ := List.mem_map.1 declared
  exact fun c => declaration.isPart_of_mem_symbol

/-- What a symbol has in the banks is plain, if the symbol is. -/
theorem Game.isPlain_of_physicalSymbol? {game : Game} {symbol physical : String}
    (plain : IsPlain symbol) (found : game.physicalSymbol? symbol = some physical) :
    IsPlain physical := by
  unfold physicalSymbol? at found
  split at found
  · cases found
    exact plain
  · split at found
    · next asset _ =>
      split at found
      · cases found
        exact asset.isPlain_symbol
      · cases found
    · cases found

/-! ### The headers -/

namespace Header

/-- The definitions in a text. -/
def readDefinitions (text : String) : List (String × String) :=
  (Cartridge.lines text.toList).filterMap fun line => definition? (String.ofList line)

/-- The numbers that the definitions of a macro in a text stand for. -/
def numbers (text name : String) : List Nat :=
  ((readDefinitions text).filter fun pair => pair.1 = name).map fun pair =>
    Literal.numberOf 10 pair.2.toList

theorem render_eq (lines : List Line) : render lines = joinLines (lines.map Line.render) := by
  rw [render, joinLines, List.map_map]
  rfl

/-- **The definitions are read from a text as they are written.** -/
theorem readDefinitions_render {lines : List Line} (whole : ∀ line ∈ lines, IsWhole line.render) :
    readDefinitions (render lines) = definitions lines := by
  have each : ∀ text ∈ lines.map Line.render, IsWhole text := by
    intro text member
    obtain ⟨line, listed, rfl⟩ := List.mem_map.1 member
    exact whole line listed
  rw [readDefinitions, render_eq, lines_joinLines each, List.map_map, List.filterMap_map]
  refine List.filterMap_congr fun line _ => ?_
  show definition? (String.ofList line.render.toList) = _
  rw [String.ofList_toList]

theorem isWhole_render_define {name value : String} (whole : IsWhole name)
    (alsoWhole : IsWhole value) : IsWhole (Line.define name value).render := by
  refine isWhole_append_iff.2 ⟨isWhole_append_iff.2 ⟨isWhole_append_iff.2 ⟨?_, whole⟩, ?_⟩,
    alsoWhole⟩
  · decide
  · decide

theorem isWhole_render_count {name : String} (whole : IsWhole name) (value : Nat) :
    IsWhole (count name value).render :=
  isWhole_render_define whole (isWhole_toString value)

theorem isWhole_render_texts {lines : List String} (whole : ∀ line ∈ lines, IsWhole line) :
    ∀ line ∈ texts lines, IsWhole line.render := by
  intro line member
  obtain ⟨text, listed, rfl⟩ := List.mem_map.1 member
  exact whole text listed

theorem isWhole_of_mem_ofBanks (allocation : Allocation) :
    ∀ line ∈ ofBanks allocation, IsWhole line.render := by
  simp only [ofBanks, List.forall_mem_append, List.forall_mem_cons]
  refine ⟨⟨isWhole_render_texts (by decide), ?_, ?_, ?_, List.forall_mem_nil _⟩,
    isWhole_render_texts (by decide)⟩
  · exact isWhole_render_count (by decide) _
  · exact isWhole_render_count (by decide) _
  · exact isWhole_render_count (by decide) _

theorem isWhole_of_mem_slotMacros {start : String} (listed : start ∈ ["VAR_", "FLAG_", "ACTOR_"])
    (slots : NameTable UInt8) : ∀ line ∈ slotMacros start slots, IsWhole line.render := by
  intro line member
  obtain ⟨⟨name, slot⟩, _, rfl⟩ := List.mem_map.1 member
  have plain : IsPlain (slotMacro start name) :=
    isPart_of_mem_slotMacro (isPart_of_mem_start start listed) name
  exact isWhole_render_count plain.isWhole _

variable {project : Project} {tables : Tables}

theorem isPlain_symbolMacro {symbol : String}
    (declared : symbol ∈ project.declarations.map Declaration.symbol) :
    IsPlain (symbolMacro symbol) := by
  obtain ⟨declaration, _, rfl⟩ := List.mem_map.1 declared
  exact isPart_of_mem_symbolMacro declaration

/-- The macros of indices and slots, if the tables are those of a project. -/
theorem isWhole_of_mem_indexLines
    (numbers : Tables.Numbers tables.symbols (project.declarations.map Declaration.symbol))
    (start : ∀ symbol, tables.startScene = some symbol → IsWhole (symbolMacro symbol)) :
    ∀ line ∈ indexLines tables, IsWhole line.render := by
  have scene : IsWhole (startMacro tables) := by
    unfold startMacro
    split
    · next symbol found => exact start symbol found
    · decide
  simp only [indexLines, List.forall_mem_append, List.forall_mem_cons]
  refine ⟨⟨⟨⟨⟨⟨⟨⟨⟨?_, List.forall_mem_nil _⟩, ?_⟩, ?_, ?_, ?_, List.forall_mem_nil _⟩, ?_⟩, ?_, ?_,
    List.forall_mem_nil _⟩, ?_⟩, ?_, ?_, List.forall_mem_nil _⟩, ?_⟩, ?_, List.forall_mem_nil _⟩
  · have digits : IsWhole (Hex.upper 4 noSymbol.toNat) :=
      fun feed => absurd (Literal.isHexDigit_of_mem_upper feed) (by decide)
    exact isWhole_render_define (by decide) (isWhole_append_iff.2 ⟨by decide, digits⟩)
  · intro line member
    obtain ⟨⟨symbol, index⟩, listed, rfl⟩ := List.mem_map.1 member
    have declared : symbol ∈ project.declarations.map Declaration.symbol := by
      rw [← numbers.keys]
      exact OrderedTable.mem_keys_of_mem_toList listed
    exact isWhole_render_count (isPlain_symbolMacro declared).isWhole _
  · exact isWhole_render_count (by decide) _
  · exact isWhole_render_define (by decide) scene
  · decide
  · exact isWhole_of_mem_slotMacros (by simp) _
  · exact isWhole_render_count (by decide) _
  · decide
  · exact isWhole_of_mem_slotMacros (by simp) _
  · exact isWhole_render_count (by decide) _
  · decide
  · exact isWhole_of_mem_slotMacros (by simp) _
  · decide

theorem isWhole_of_mem_tableLines (world : World) (allocation : Allocation) :
    ∀ line ∈ tableLines world allocation, IsWhole line.render := by
  have arrays : ∀ line ∈ allocation.banks.toList.map fun bank =>
      s!"extern const unsigned char {bankArrayName bank.index}[];", IsWhole line := by
    intro line member
    obtain ⟨bank, _, rfl⟩ := List.mem_map.1 member
    exact isWhole_append_iff.2
      ⟨isWhole_append_iff.2 ⟨by decide, isWhole_bankArrayName bank.index⟩, by decide⟩
  simp only [tableLines, List.forall_mem_append, List.forall_mem_cons]
  refine ⟨⟨⟨?_, ?_, ?_, List.forall_mem_nil _⟩, isWhole_render_texts (by decide)⟩,
    isWhole_render_texts arrays⟩
  · exact isWhole_render_count (by decide) _
  · exact isWhole_render_count (by decide) _
  · exact isWhole_render_count (by decide) _

theorem isWhole_of_mem_ofData {game : Game}
    (numbers : Tables.Numbers game.tables.symbols (project.declarations.map Declaration.symbol))
    (start : ∀ symbol, game.tables.startScene = some symbol → IsWhole (symbolMacro symbol)) :
    ∀ line ∈ ofData game, IsWhole line.render := by
  simp only [ofData, List.forall_mem_append]
  refine ⟨⟨⟨⟨⟨isWhole_render_texts (by decide), isWhole_of_mem_indexLines numbers start⟩, ?_⟩, ?_⟩,
    isWhole_of_mem_tableLines _ _⟩, isWhole_render_texts (by decide)⟩
  · exact isWhole_render_texts (by decide)
  · exact isWhole_render_texts (by decide)

/-- **The definitions are read from the header of the tables** as they are written. -/
theorem readDefinitions_ofData {game : Game}
    (numbers : Tables.Numbers game.tables.symbols (project.declarations.map Declaration.symbol))
    (start : ∀ symbol, game.tables.startScene = some symbol → IsWhole (symbolMacro symbol)) :
    readDefinitions (render (ofData game)) = definitions (ofData game) :=
  readDefinitions_render (isWhole_of_mem_ofData numbers start)

/-- A macro with one definition only has one number. -/
theorem numbers_eq_singleton {text name : String} {value : Nat}
    (distinct : ((readDefinitions text).map Prod.fst).Nodup)
    (defined : (name, toString value) ∈ readDefinitions text) : numbers text name = [value] := by
  rw [numbers, filter_eq_singleton distinct defined, List.map_singleton,
    Literal.numberOf_toString]

theorem readDefinitions_ofBanks (allocation : Allocation) :
    readDefinitions (render (ofBanks allocation))
      = [("BANKS_H", ""), ("NUM_BANKS", toString allocation.banks.size),
        ("FIRST_DATA_BANK", toString allocation.firstBank.toNat),
        ("BANK_CAPACITY", toString allocation.capacity)] := by
  rw [readDefinitions_render (isWhole_of_mem_ofBanks allocation), Game.definitions_ofBanks]
  rfl

/-- **The header of the banks says how many banks there are, and how large they are.** -/
theorem numbers_ofBanks (allocation : Allocation) :
    numbers (render (ofBanks allocation)) "NUM_BANKS" = [allocation.banks.size]
      ∧ numbers (render (ofBanks allocation)) "BANK_CAPACITY" = [allocation.capacity] := by
  have distinct : ((readDefinitions (render (ofBanks allocation))).map Prod.fst).Nodup := by
    rw [readDefinitions_ofBanks]
    show ["BANKS_H", "NUM_BANKS", "FIRST_DATA_BANK", "BANK_CAPACITY"].Nodup
    decide
  constructor
  · refine numbers_eq_singleton distinct ?_
    rw [readDefinitions_ofBanks]
    simp
  · refine numbers_eq_singleton distinct ?_
    rw [readDefinitions_ofBanks]
    simp

end Header

/-! ### The source of the tables -/

namespace DataSource

theorem isWhole_row {entries : List String} (each : ∀ entry ∈ entries, IsWhole entry) :
    IsWhole (row entries) :=
  isWhole_append_iff.2
    ⟨isWhole_append_iff.2 ⟨by decide, isWhole_intercalate (by decide) each⟩, by decide⟩

theorem isWhole_symbolIndex (index : UInt16) : IsWhole (symbolIndex index) := by
  unfold symbolIndex
  split
  · decide
  · exact isWhole_toString _

theorem isWhole_pointerRow {game : Game} {symbol : String} (plain : IsPlain symbol) :
    IsWhole (pointerRow game symbol) := by
  have physical : IsPlain ((game.physicalSymbol? symbol).getD symbol) := by
    cases found : game.physicalSymbol? symbol with
    | none => exact plain
    | some name => exact Game.isPlain_of_physicalSymbol? plain found
  simp only [pointerRow, isWhole_append_iff]
  refine ⟨⟨⟨isWhole_row ?_, by decide⟩, plain.isWhole⟩, ?_⟩
  · simp only [List.forall_mem_cons]
    exact ⟨isWhole_toString _, isWhole_ofOffset _, List.forall_mem_nil _⟩
  · split
    · decide
    · exact isWhole_append_iff.2 ⟨by decide, physical.isWhole⟩

theorem isWhole_sceneRow (scene : SceneEntry) : IsWhole (sceneRow scene) := by
  refine isWhole_row ?_
  simp only [List.forall_mem_cons]
  exact ⟨isWhole_symbolIndex _, isWhole_symbolIndex _, List.forall_mem_nil _⟩

theorem isWhole_actorRow (actor : ActorEntry) : IsWhole (actorRow actor) := by
  refine isWhole_row ?_
  simp only [List.forall_mem_cons]
  exact ⟨isWhole_toString _, isWhole_toString _, isWhole_toString _, isWhole_toString _,
    isWhole_symbolIndex _, isWhole_symbolIndex _, List.forall_mem_nil _⟩

theorem isWhole_triggerRow (trigger : TriggerEntry) : IsWhole (triggerRow trigger) := by
  refine isWhole_row ?_
  simp only [List.forall_mem_cons]
  exact ⟨isWhole_toString _, isWhole_toString _, isWhole_toString _, isWhole_toString _,
    isWhole_toString _, isWhole_symbolIndex _, List.forall_mem_nil _⟩

theorem isWhole_of_mem_table {type name : String} {filler rows : List String}
    (typeWhole : IsWhole type) (nameWhole : IsWhole name)
    (fillers : ∀ entry ∈ filler, IsWhole entry) (each : ∀ line ∈ rows, IsWhole line) :
    ∀ line ∈ table type name filler rows, IsWhole line := by
  simp only [table, List.forall_mem_append, List.forall_mem_cons]
  refine ⟨⟨⟨?_, List.forall_mem_nil _⟩, ?_⟩, by decide, List.forall_mem_nil _⟩
  · refine isWhole_append_iff.2 ⟨isWhole_append_iff.2 ⟨isWhole_append_iff.2
      ⟨isWhole_append_iff.2 ⟨by decide, typeWhole⟩, by decide⟩, nameWhole⟩, by decide⟩
  · split
    · simp only [List.forall_mem_cons]
      exact ⟨isWhole_row fillers, List.forall_mem_nil _⟩
    · exact each

/-- Where the symbols are plain, the source of the tables is in lines. -/
theorem isWhole_of_mem_lines {game : Game}
    (plain : ∀ symbol ∈ game.tables.symbols.keys.toList, IsPlain symbol) :
    ∀ line ∈ lines game, IsWhole line := by
  have rows : ∀ {α : Type} (row : α → String) (items : List α),
      (∀ item ∈ items, IsWhole (row item)) → ∀ line ∈ items.map row, IsWhole line := by
    intro α row items each line member
    obtain ⟨item, listed, rfl⟩ := List.mem_map.1 member
    exact each item listed
  simp only [lines, List.forall_mem_append, List.forall_mem_cons]
  refine ⟨⟨⟨⟨⟨⟨⟨⟨by decide, by decide, by decide, ?_, by decide, List.forall_mem_nil _⟩, ?_⟩,
    by decide, List.forall_mem_nil _⟩, ?_⟩, by decide, List.forall_mem_nil _⟩, ?_⟩, by decide,
    List.forall_mem_nil _⟩, ?_⟩
  · exact isWhole_titleLine game.title
  · exact isWhole_of_mem_table (by decide) (by decide) (by decide)
      (rows _ _ fun symbol listed => isWhole_pointerRow (plain symbol listed))
  · exact isWhole_of_mem_table (by decide) (by decide) (by decide)
      (rows _ _ fun scene _ => isWhole_sceneRow scene)
  · exact isWhole_of_mem_table (by decide) (by decide) (by decide)
      (rows _ _ fun actor _ => isWhole_actorRow actor)
  · exact isWhole_of_mem_table (by decide) (by decide) (by decide)
      (rows _ _ fun trigger _ => isWhole_triggerRow trigger)

/-- The bank and the offset in a row of the pointer table in a text. -/
def pointerAt? (source : String) (row : Nat) : Option (Nat × Nat) :=
  (pointerLines ((Cartridge.lines source.toList).map String.ofList))[row]?.bind readPointer?

/-- **The row of a symbol is read from the text** as its bank and its offset. -/
theorem pointerAt?_lines {game : Game} {row : Nat} {symbol : String} {bank offset : UInt16}
    (plain : ∀ symbol ∈ game.tables.symbols.keys.toList, IsPlain symbol)
    (there : game.tables.symbols.keys.toList[row]? = some symbol)
    (pointer : game.farPointer? symbol = some (bank, offset)) :
    pointerAt? (joinLines (lines game)) row = some (bank.toNat, offset.toNat) := by
  have filled : game.tables.symbols.keys.toList ≠ [] := by
    intro none
    rw [none] at there
    cases there
  have same : ((lines game).map String.toList).map String.ofList = lines game := by
    rw [List.map_map]
    exact (List.map_congr_left fun line _ => String.ofList_toList).trans (List.map_id _)
  rw [pointerAt?, lines_joinLines (isWhole_of_mem_lines plain), same, pointerLines_lines filled,
    List.getElem?_map, there]
  exact readPointer?_pointerRow pointer

end DataSource
end Cartridge
