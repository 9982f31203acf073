import Cartridge.Proofs.Script.Mentions
import Cartridge.Proofs.Symbol.Indexing
import Cartridge.Proofs.Symbol.Naming

/-!
# Which projects have symbols

Declarations of different categories never have the same symbol, whatever they are called. So a
project has tables just if in no category two names have the same identifier, and if there are
indices for all symbols.

* `Project.namesOf`: the names that are declared in a category.
* `Project.nodup_symbols_iff`: when the symbols of a project are different.
* `Tables.Blames`: the first declaration whose symbol cannot be added, and why.
* `Tables.blames_of_foldlM`: declarations are refused for such reasons only.
* `Tables.Publishes`: the symbols in their order, and those of the compiled scripts.
* `Tables.ofProject_numbering`: which projects have tables, and why others do not.
-/

namespace Cartridge

/-! ### Categories -/

namespace Category

/-- The categories, in the order of the symbol table. -/
def inOrder : List Category := [.scene, .actor, .trigger, .script, .asset, .palette]

theorem mem_inOrder (category : Category) : category ∈ inOrder := by
  cases category <;> decide

theorem nodup_inOrder : inOrder.Nodup := by decide

/-- Symbols of one category differ where the identifiers do. -/
theorem wrap_injective (category : Category) :
    Function.Injective fun identifier => category.start ++ identifier ++ category.finish :=
  fun _ _ same => String.append_right_inj _ |>.1 (String.append_left_inj _ |>.1 same)

end Category

namespace Project

variable {project : Project}

/-- The names that a project declares in a category. -/
def namesOf (project : Project) : Category → List String
  | .scene => project.scenes.map Scene.name
  | .actor => project.actors.map Actor.name
  | .trigger => project.triggers.map Trigger.name
  | .script => project.scripts.map CustomScript.name
  | .asset => project.assets.map AssetSource.name
  | .palette => project.palettes.map Palette.name

/-- The symbols of the names that a project declares in a category. -/
def symbolsOf (project : Project) (category : Category) : List String :=
  (project.namesOf category).map fun name => Declaration.symbol ⟨category, name⟩

/-- **Whether in no category two names have the same identifier.** -/
def IdentifiersApart (project : Project) : Prop :=
  ∀ category, ((project.namesOf category).map Identifier.ofName).Nodup

theorem declarations_eq (project : Project) :
    project.declarations
      = Category.inOrder.flatMap fun category =>
          (project.namesOf category).map (Declaration.mk category) := by
  simp [declarations, Category.inOrder, namesOf, Function.comp_def]

theorem map_symbol_eq_flatMap (project : Project) :
    project.declarations.map Declaration.symbol = Category.inOrder.flatMap project.symbolsOf := by
  rw [declarations_eq, List.map_flatMap]
  simp only [List.map_map]
  rfl

theorem length_declarations (project : Project) :
    project.declarations.length = project.scenes.length + project.actors.length
      + project.triggers.length + project.scripts.length + project.assets.length
      + project.palettes.length := by
  simp only [declarations, List.length_append, List.length_map]

/-- The scripts are published under the symbols of the first four categories. -/
theorem map_symbol_scriptSources (project : Project) :
    project.scriptSources.map ScriptSource.symbol
      = [Category.scene, .actor, .trigger, .script].flatMap project.symbolsOf := by
  simp [scriptSources, symbolsOf, namesOf, Function.comp_def]

theorem nodup_symbolsOf_iff (category : Category) :
    (project.symbolsOf category).Nodup
      ↔ ((project.namesOf category).map Identifier.ofName).Nodup := by
  have wrapped : project.symbolsOf category
      = ((project.namesOf category).map Identifier.ofName).map
        fun identifier => category.start ++ identifier ++ category.finish := by
    rw [List.map_map]
    exact List.map_congr_left fun name _ => Declaration.symbol_eq ⟨category, name⟩
  rw [wrapped, List.nodup_map_iff category.wrap_injective]

/-- **Symbols of different categories are different.** -/
theorem disjoint_symbolsOf {first second : Category} (differ : first ≠ second) :
    (project.symbolsOf first).Disjoint (project.symbolsOf second) := by
  intro symbol member also
  obtain ⟨name, _, rfl⟩ := List.mem_map.1 member
  obtain ⟨other, _, same⟩ := List.mem_map.1 also
  exact differ ((Declaration.symbol_eq_iff _ _).1 same).1.symm

/-- **The symbols of a project are different** just if in no category two names have the same
identifier. -/
theorem nodup_symbols_iff :
    (project.declarations.map Declaration.symbol).Nodup ↔ project.IdentifiersApart := by
  rw [map_symbol_eq_flatMap, List.nodup_flatMap]
  constructor
  · exact fun apart category => (nodup_symbolsOf_iff category).1 (apart.1 category category.mem_inOrder)
  · exact fun apart => ⟨fun category _ => (nodup_symbolsOf_iff category).2 (apart category),
      Category.nodup_inOrder.imp disjoint_symbolsOf⟩

end Project

namespace Tables

variable {table : NameTable UInt16} {symbols : List String} {fault : ProjectError}

/-! ### Refused declarations -/

/-- **The first declaration whose symbol cannot be added**, and why: another one of its category has
the same identifier, or its symbol is new and there is no index left for it. -/
inductive Blames (declarations : List Declaration) : ProjectError → Prop where
  | duplicate {before after : List Declaration} {declaration other : Declaration}
    (whole : declarations = before ++ declaration :: after)
    (apart : (before.map Declaration.symbol).Nodup) (few : before.length ≤ 65536)
    (earlier : other ∈ before) (category : other.category = declaration.category)
    (identifier : Identifier.ofName other.name = Identifier.ofName declaration.name) :
    Blames declarations (.duplicateSymbol declaration.symbol)
  | crowded {before after : List Declaration} {declaration : Declaration}
    (whole : declarations = before ++ declaration :: after)
    (apart : ((before ++ [declaration]).map Declaration.symbol).Nodup)
    (many : before.length = 65536) : Blames declarations .tooManySymbols

/-- One symbol is refused if it is there already or if there is no index left. -/
theorem addSymbol_cases (numbers : Numbers table symbols) (symbol : String) :
    (∃ next, addSymbol table symbol = .ok next)
      ∨ symbol ∈ symbols ∧ addSymbol table symbol = .error (.duplicateSymbol symbol)
      ∨ symbol ∉ symbols ∧ symbols.length = 65536
        ∧ addSymbol table symbol = .error .tooManySymbols := by
  have known : table.contains symbol = true ↔ symbol ∈ symbols := by
    rw [table.contains_iff, ← Array.mem_toList_iff, numbers.keys]
  unfold addSymbol
  by_cases member : symbol ∈ symbols
  · rw [if_pos (known.2 member)]
    exact .inr (.inl ⟨member, rfl⟩)
  · rw [if_neg fun held => member (known.1 held)]
    by_cases room : table.size < 65536
    · rw [if_pos room]
      exact .inl ⟨_, rfl⟩
    · rw [if_neg room]
      have size := numbers.size_eq
      have few := numbers.length_le
      exact .inr (.inr ⟨member, by omega, rfl⟩)

/-- **Declarations are refused for the first one whose symbol cannot be added.** -/
theorem blames_of_foldlM (later : List Declaration) {table : NameTable UInt16}
    {earlier : List Declaration} (numbers : Numbers table (earlier.map Declaration.symbol))
    (refused : (later.map Declaration.symbol).foldlM addSymbol table = .error fault) :
    Blames (earlier ++ later) fault := by
  induction later generalizing table earlier with
  | nil => cases refused
  | cons declaration later ih =>
    have few : earlier.length ≤ 65536 := List.length_map Declaration.symbol ▸ numbers.length_le
    rw [List.map_cons, List.foldlM_cons] at refused
    rcases addSymbol_cases numbers declaration.symbol with ⟨next, added⟩ | ⟨known, faulty⟩
      | ⟨fresh, many, faulty⟩
    · rw [added] at refused
      have more := numbers.addSymbol added
      rw [← List.map_singleton, ← List.map_append] at more
      have run := ih more refused
      rwa [List.append_assoc] at run
    · rw [faulty] at refused
      cases refused
      obtain ⟨other, member, same⟩ := List.mem_map.1 known
      obtain ⟨category, identifier⟩ := (Declaration.symbol_eq_iff other declaration).1 same
      exact .duplicate rfl numbers.nodup few member category identifier
    · rw [faulty] at refused
      cases refused
      rw [List.length_map] at many
      refine .crowded rfl ?_ many
      rw [List.map_append, List.map_singleton]
      refine List.nodup_append.2 ⟨numbers.nodup, List.nodup_singleton _, ?_⟩
      intro other member last only
      rw [List.mem_singleton.1 only]
      exact fun same => fresh (same ▸ member)

/-! ### Published symbols -/

/-- The index of the symbol at a place is the place, which is a word. -/
theorem Numbers.exists_toNat_eq (numbers : Numbers table symbols) {place : Nat} {symbol : String}
    (there : symbols[place]? = some symbol) :
    ∃ index : UInt16, table.get? symbol = some index ∧ index.toNat = place := by
  obtain ⟨inside, _⟩ := List.getElem?_eq_some_iff.1 there
  have small : place < 65536 := Nat.lt_of_lt_of_le inside numbers.length_le
  exact ⟨_, numbers.get?_eq place symbol there, UInt16.toNat_ofNat_of_lt' small⟩

/-- **The symbols of a project in their order**: those of its scenes, actors, triggers, scripts, assets
and palettes. -/
structure Publishes (project : Project) (tables : Tables) : Prop where
  keys : tables.symbols.keys.toList = Category.inOrder.flatMap project.symbolsOf
  /-- Each symbol has its place as its index. -/
  index : ∀ (place : Nat) (symbol : String), tables.symbols.keys.toList[place]? = some symbol →
    ∃ index : UInt16, tables.symbols.get? symbol = some index ∧ index.toNat = place
  /-- The compiled scripts are published under the symbols of the first four categories. -/
  symbols : ∀ scripts, project.compileScripts tables = .ok scripts →
    scripts.map CompiledScript.symbol
      = [Category.scene, .actor, .trigger, .script].flatMap project.symbolsOf
  /-- So each of them has its place as its index, too. -/
  scripts : ∀ scripts, project.compileScripts tables = .ok scripts →
    ∀ (place : Nat) (script : CompiledScript), scripts[place]? = some script →
      ∃ index : UInt16, tables.symbols.get? script.symbol = some index ∧ index.toNat = place

variable {project : Project} {tables : Tables}

theorem publishes_of_ofProject (made : ofProject project = .ok tables) :
    Publishes project tables := by
  have numbers := (ofProject_eq_ok made).1
  have symbols : ∀ scripts, project.compileScripts tables = .ok scripts →
      scripts.map CompiledScript.symbol
        = [Category.scene, .actor, .trigger, .script].flatMap project.symbolsOf := by
    intro scripts compiled
    rw [← project.map_symbol_scriptSources]
    exact CompiledScript.map_symbol_of_forall₂ (CompiledScript.forall₂_of_compileScripts compiled)
  refine ⟨numbers.keys.trans project.map_symbol_eq_flatMap, fun place symbol there => ?_, symbols,
    fun scripts compiled place script there => ?_⟩
  · rw [numbers.keys] at there
    exact numbers.exists_toNat_eq there
  · have first : (scripts.map CompiledScript.symbol)[place]? = some script.symbol := by
      rw [List.getElem?_map, there]
      rfl
    have inside := (List.getElem?_eq_some_iff.1 first).1
    refine numbers.exists_toNat_eq ?_
    rw [project.map_symbol_eq_flatMap, show Category.inOrder
      = [Category.scene, .actor, .trigger, .script] ++ [.asset, .palette] from rfl,
      List.flatMap_append, ← symbols scripts compiled, List.getElem?_append_left inside, first]

/-- A scene, some actors and a script, all without events. -/
def village (scene : String) (actors : List String) (script : String) : Project where
  title := ""
  startScene := none
  gameVariables := []
  flags := []
  palettes := []
  assets := []
  scenes := [⟨scene, none, []⟩]
  actors := actors.map fun name => ⟨name, scene, none, 0, 0, []⟩
  triggers := []
  scripts := [⟨script, []⟩]

end Tables
end Cartridge
