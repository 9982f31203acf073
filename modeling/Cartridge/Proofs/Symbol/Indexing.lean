import Cartridge.Proofs.Success
import Cartridge.Proofs.Table.Lookup
import Cartridge.Symbol.Tables

/-!
# The indices of the symbols

The symbols are numbered in the order of the declarations, and no two declarations share one.

* `Tables.Numbers`: a table that numbers some symbols in their order.
* `Tables.Numbers.get?_eq_some_iff`: the index of a symbol is its place.
* `Tables.ofProject_eq_ok`: the tables of a project number the symbols of its declarations.
* `Tables.exists_ofProject`: a project has tables if no two declarations have the same symbol.
-/

namespace Cartridge.Tables

/-- **A table that numbers some symbols in their order**, all numbers being words. -/
structure Numbers (table : NameTable UInt16) (symbols : List String) : Prop where
  keys : table.keys.toList = symbols
  get?_eq : ∀ (place : Nat) (symbol : String), symbols[place]? = some symbol →
    table.get? symbol = some (UInt16.ofNat place)
  length_le : symbols.length ≤ 65536

variable {table next : NameTable UInt16} {symbols : List String} {symbol : String}

theorem numbers_empty : Numbers ∅ [] where
  keys := rfl
  get?_eq := fun place symbol found => by cases found
  length_le := Nat.zero_le _

/-- A symbol is given the next index if it is new and there is a number left. -/
theorem addSymbol_eq_ok (added : addSymbol table symbol = .ok next) :
    symbol ∉ table.keys ∧ table.size < 65536
      ∧ next = table.insert symbol (UInt16.ofNat table.size) := by
  unfold addSymbol at added
  split at added
  · cases added
  · rename_i fresh
    split at added
    · rename_i few
      cases added
      exact ⟨fun member => fresh ((table.contains_iff symbol).2 member), few, rfl⟩
    · cases added

/-- **One symbol more is numbered behind the others.** -/
theorem Numbers.addSymbol (numbers : Numbers table symbols)
    (added : Tables.addSymbol table symbol = .ok next) : Numbers next (symbols ++ [symbol]) := by
  obtain ⟨fresh, few, rfl⟩ := addSymbol_eq_ok added
  have size : table.size = symbols.length := by
    rw [OrderedTable.size, ← Array.length_toList, numbers.keys]
  refine ⟨?_, fun place other found => ?_, ?_⟩
  · rw [OrderedTable.keys_insert, if_neg fresh, Array.toList_push, numbers.keys]
  · rw [OrderedTable.get?_insert]
    rcases Nat.lt_or_ge place symbols.length with before | behind
    · rw [List.getElem?_append_left before] at found
      have differ : symbol ≠ other := by
        rintro rfl
        have listed := List.mem_of_getElem? found
        rw [← numbers.keys] at listed
        exact fresh (Array.mem_toList_iff.1 listed)
      rw [if_neg differ]
      exact numbers.get?_eq place other found
    · rw [List.getElem?_append_right behind, List.getElem?_singleton] at found
      split at found
      · rename_i last
        cases found
        rw [if_pos rfl, size, Nat.le_antisymm (Nat.sub_eq_zero_iff_le.1 last) behind]
      · cases found
  · rw [List.length_append, List.length_singleton, ← size]
    exact few

/-- **Symbols are numbered one after the other.** -/
theorem Numbers.foldlM (later : List String) {table : NameTable UInt16} {symbols : List String}
    (numbers : Numbers table symbols) (added : later.foldlM Tables.addSymbol table = .ok next) :
    Numbers next (symbols ++ later) :=
  foldlM_invariant (fun symbols table => Numbers table symbols) symbols later
    (fun _ _ _ _ _ numbers added => numbers.addSymbol added) numbers added

/-- **Symbols are numbered if no two are the same** and there are not too many. -/
theorem Numbers.exists_foldlM (later : List String) {table : NameTable UInt16} {symbols : List String}
    (numbers : Numbers table symbols) (distinct : (symbols ++ later).Nodup)
    (few : (symbols ++ later).length ≤ 65536) :
    ∃ next, later.foldlM Tables.addSymbol table = .ok next := by
  induction later generalizing table symbols with
  | nil => exact ⟨table, rfl⟩
  | cons symbol later ih =>
    have fresh : ¬ table.contains symbol = true := by
      rw [table.contains_iff, ← Array.mem_toList_iff, numbers.keys]
      exact fun listed => (List.nodup_append.1 distinct).2.2 _ listed _ List.mem_cons_self rfl
    have room : table.size < 65536 := by
      rw [OrderedTable.size, ← Array.length_toList, numbers.keys]
      rw [List.length_append, List.length_cons] at few
      omega
    have added : Tables.addSymbol table symbol
        = .ok (table.insert symbol (UInt16.ofNat table.size)) := by
      rw [Tables.addSymbol, if_neg fresh, if_pos room]
    rw [List.foldlM_cons, added]
    rw [List.append_cons] at distinct few
    exact ih (numbers.addSymbol added) distinct few

theorem Numbers.nodup (numbers : Numbers table symbols) : symbols.Nodup :=
  numbers.keys ▸ table.nodup_keys

theorem Numbers.size_eq (numbers : Numbers table symbols) : table.size = symbols.length := by
  rw [OrderedTable.size, ← Array.length_toList, numbers.keys]

/-- **The index of a symbol is its place.** -/
theorem Numbers.get?_eq_some_iff (numbers : Numbers table symbols) {index : UInt16} :
    table.get? symbol = some index ↔ symbols[index.toNat]? = some symbol := by
  constructor
  · intro found
    have listed := (table.isSome_get?_iff symbol).1 (Option.isSome_of_eq_some found)
    rw [← Array.mem_toList_iff, numbers.keys] at listed
    obtain ⟨place, there⟩ := List.getElem?_of_mem listed
    have small : place < 65536 := by
      obtain ⟨inside, _⟩ := List.getElem?_eq_some_iff.1 there
      exact Nat.lt_of_lt_of_le inside numbers.length_le
    rw [numbers.get?_eq place symbol there] at found
    cases found
    rwa [UInt16.toNat_ofNat_of_lt' small]
  · intro there
    rw [numbers.get?_eq _ _ there, UInt16.ofNat_toNat]

theorem Numbers.exists_index (numbers : Numbers table symbols) (member : symbol ∈ symbols) :
    ∃ index, table.get? symbol = some index := by
  obtain ⟨place, there⟩ := List.getElem?_of_mem member
  exact ⟨_, numbers.get?_eq place symbol there⟩

theorem Numbers.index_lt (numbers : Numbers table symbols) {index : UInt16}
    (found : table.get? symbol = some index) : index.toNat < table.size := by
  obtain ⟨inside, _⟩ := List.getElem?_eq_some_iff.1 (numbers.get?_eq_some_iff.1 found)
  rwa [numbers.size_eq]

variable {project : Project} {tables : Tables}

/-- **The tables of a project number the symbols of its declarations**, and know the kinds of its
assets and the symbol of the scene that it starts in. -/
theorem ofProject_eq_ok (made : ofProject project = .ok tables) :
    Numbers tables.symbols (project.declarations.map Declaration.symbol)
      ∧ tables.assets = OrderedTable.insertAll ∅
        (project.assets.map fun asset => (asset.name, asset.kind))
      ∧ tables.startScene
        = (project.startScene <|> project.scenes.head?.map (·.name)).map sceneSymbol := by
  obtain ⟨symbols, numbered, made⟩ := bind_eq_ok made
  cases made
  refine ⟨numbers_empty.foldlM _ numbered, ?_, rfl⟩
  rw [OrderedTable.insertAll, List.foldl_map]

/-- **A project has tables if no two of its declarations have the same symbol** and there are not too
many of them. -/
theorem exists_ofProject (distinct : (project.declarations.map Declaration.symbol).Nodup)
    (few : project.declarations.length ≤ 65536) : ∃ tables, ofProject project = .ok tables := by
  obtain ⟨symbols, numbered⟩ := numbers_empty.exists_foldlM
    (project.declarations.map Declaration.symbol) distinct (by rwa [List.nil_append, List.length_map])
  exact ⟨_, by rw [ofProject, numbered]; rfl⟩

theorem exists_asset_of_get? (made : ofProject project = .ok tables) {name : String}
    {kind : AssetKind} (found : tables.assets.get? name = some kind) :
    ∃ source ∈ project.assets, source.name = name ∧ source.kind = kind := by
  rw [(ofProject_eq_ok made).2.1] at found
  rcases OrderedTable.mem_of_get?_insertAll found with before | listed
  · rw [OrderedTable.get?_empty] at before
    cases before
  · obtain ⟨source, member, same⟩ := List.mem_map.1 listed
    cases same
    exact ⟨source, member, rfl, rfl⟩

end Cartridge.Tables
