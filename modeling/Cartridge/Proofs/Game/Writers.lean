import Cartridge.Proofs.Game.Pointers

/-!
# The banks in the generated files

The banks are written twice: each of them as an array in a source of its own, and all of them as one
image. Both say the same.

* `Game.WritesBank`: a bank is in its source and in the image.
* `Game.WritesBanks`: the files of a game with its banks.
* `Game.ofProject_writesBanks`: every game that is made has such files.
-/

namespace Cartridge

/-! ### The sources of the banks -/

namespace BankSource

/-- The symbols that stand for a name are among those of the tables. -/
theorem mem_of_mem_aliases {game : Game} {name other : String}
    (member : other ∈ (aliases game).getD name #[]) : other ∈ game.tables.symbols.keys := by
  have all : ∀ name, ∀ other ∈ (aliases game).getD name #[], other ∈ game.tables.symbols.keys := by
    refine Array.foldl_induction (fun _ (found : Std.HashMap String (Array String)) =>
      ∀ name, ∀ other ∈ found.getD name #[], other ∈ game.tables.symbols.keys) ?_ ?_
    · intro name other member
      simp at member
    · intro place found before name other member
      split at member
      · rename_i physical _
        split at member
        · exact before name other member
        · rw [Std.HashMap.getD_insert] at member
          split at member
          · rcases Array.mem_push.1 member with old | rfl
            · exact before physical other old
            · exact Array.getElem_mem _
          · exact before name other member
      · exact before name other member
  exact all name other member

end BankSource

namespace Game

variable {read : String → Except FileError ByteArray} {geometry : Geometry} {project : Project}
  {game : Game}

namespace IsMade

/-- **The names in the banks are plain.** -/
theorem isPlain_of_mem_symbols (isMade : IsMade read geometry project game) {bank : Bank}
    (listed : bank ∈ game.allocation.banks) {symbol : Placed} (member : symbol ∈ bank.symbols) :
    BankArray.IsPlain symbol.name := by
  have stands : symbol.name
      ∈ (Allocation.standing game.allocation.banks).map Placed.name :=
    List.mem_map_of_mem (List.mem_flatMap.2
      ⟨bank, Array.mem_toList_iff.2 listed, Array.mem_toList_iff.2 member⟩)
  rw [isMade.accepts.names_perm.mem_iff, map_name_blobs, isMade.map_symbol_scripts] at stands
  rcases List.mem_append.1 stands with script | stored
  · have declared : symbol.name ∈ project.declarations.map Declaration.symbol := by
      rw [Project.map_symbol_declarations]
      exact List.mem_append_left _ script
    exact Project.isPlain_of_declared declared
  · obtain ⟨asset, _, same⟩ := List.mem_map.1 stored
    rw [← same]
    exact asset.isPlain_symbol

/-- The symbols that stand for others are plain. -/
theorem isPlain_of_mem_aliases (isMade : IsMade read geometry project game) {name other : String}
    (member : other ∈ (BankSource.aliases game).getD name #[]) : BankArray.IsPlain other := by
  have declared : other ∈ project.declarations.map Declaration.symbol := by
    rw [← isMade.numbers.keys]
    exact Array.mem_toList_iff.2 (BankSource.mem_of_mem_aliases member)
  exact Project.isPlain_of_declared declared

end IsMade

/-! ### Both writers -/

/-- **A bank is written twice**: the numbers in the array of its source are its bytes, and so are
the first bytes of its part of the image. Behind them there are zeros only. -/
structure WritesBank (bank : Bank) (place capacity : Nat) (source : SourceFile)
    (image : Array UInt8) : Prop where
  path : source.path = BankSource.fileName bank.index
  array : ∃ text, source.contents = .text text
    ∧ BankArray.readArray? (bankArrayName bank.index) text
      = some (bank.image.toList.map UInt8.toNat)
  size_le : bank.image.size ≤ capacity
  segment : image.extract (place * capacity) ((place + 1) * capacity)
    = bank.image ++ Array.replicate (capacity - bank.image.size) 0

/-- **The files of a game with its banks**: the text of the header of the banks, the sources of the
banks, and the bytes of the image. -/
structure WritesBanks (game : Game) (header : String) (sources : List SourceFile)
    (image : Array UInt8) : Prop where
  header_mem : ⟨bankHeaderName, .text header⟩ ∈ game.sourceFiles
  sources_eq : game.sourceFiles.filter (fun file => BankSource.startsAsFileName file.path) = sources
  image_mem : ⟨bankImageName, .bytes image⟩ ∈ game.sourceFiles
  nodup_paths : (game.sourceFiles.map SourceFile.path).Nodup
  /-- The header says how many banks there are. -/
  count : Header.numbers header "NUM_BANKS" = [game.allocation.banks.size]
  /-- The header says how large a bank is. -/
  capacity : Header.numbers header "BANK_CAPACITY" = [game.allocation.capacity]
  size_image : image.size = game.allocation.banks.size * game.allocation.capacity
  length_sources : sources.length = game.allocation.banks.size
  banks : ∀ place bank source, game.allocation.banks[place]? = some bank →
    sources[place]? = some source →
      WritesBank bank place game.allocation.capacity source image

namespace IsMade

/-- **Both writers agree on a bank.** -/
theorem writesBank (isMade : IsMade read geometry project game) {place : Nat} {bank : Bank}
    (found : game.allocation.banks[place]? = some bank) :
    WritesBank bank place game.allocation.capacity (BankSource.ofBank game bank)
      (bankImage game.allocation) where
  path := rfl
  array := by
    have member := Array.mem_of_getElem? found
    exact ⟨_, rfl, BankArray.readArray?_joinLines
      (fun symbol => isMade.isPlain_of_mem_symbols member)
      fun name other => isMade.isPlain_of_mem_aliases⟩
  size_le := by
    rw [bank.size_image]
    exact (isMade.isSound_of_mem_banks bank (Array.mem_of_getElem? found)).used_le
  segment := by
    rw [extract_bankImage_segment isMade.isSound_of_mem_banks found, Bank.segment,
      bank.size_image]

end IsMade

/-- **Both writers agree on the banks** of every game that is made. -/
theorem ofProject_writesBanks (compiled : ofProject read geometry project = .ok game) :
    ∃ header sources image, game.WritesBanks header sources image := by
  have isMade := ofProject_eq_ok_iff.1 compiled
  obtain ⟨count, capacity⟩ := Header.numbers_ofBanks game.allocation
  refine ⟨_, _, bankImage game.allocation, List.mem_cons_self, game.filter_startsAsFileName,
    List.mem_append_right _ List.mem_cons_self, isMade.nodup_paths, count, capacity,
    size_bankImage isMade.isSound_of_mem_banks,
    by rw [List.length_map, Array.length_toList], fun place bank source found listed => ?_⟩
  rw [List.getElem?_map, Array.getElem?_toList, found] at listed
  cases listed
  exact isMade.writesBank found

/-- The writers agree on the bank of the project with one song. -/
theorem ofProject_writesBanks_chime : ∃ game, ofProject chimeFile ⟨16384, 4, 2⟩ chime = .ok game
    ∧ ∃ header sources image, game.WritesBanks header sources image := by
  obtain ⟨game, compiled, _⟩ := exists_chime
  exact ⟨game, compiled, ofProject_writesBanks compiled⟩

end Game
end Cartridge
