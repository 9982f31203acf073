import Mathlib.Data.List.Nodup
import Cartridge.Proofs.Game.Making
import Cartridge.Proofs.Source.Numeral
import Cartridge.Source.Files

/-!
# The generated files

A game has two headers, a source with its tables, a source for each bank, and one image of all banks.

* `Game.sourceFiles_eq`: the files, the sources of the banks between the others.
* `Game.filter_startsAsFileName`: the sources of the banks are told by their names.
* `Game.IsMade.nodup_paths`: no two files have the same path.
-/

namespace Cartridge

namespace BankSource

theorem fileName_eq (index : UInt16) : fileName index = "bank_" ++ (Literal.ofBank index ++ ".c") :=
  String.append_assoc

/-- **Different banks have different files.** -/
theorem fileName_injective {first second : UInt16} (same : fileName first = fileName second) :
    first = second := by
  rw [fileName_eq, fileName_eq, String.append_right_inj, String.append_left_inj] at same
  exact Literal.ofBank_injective same

/-- Whether a path starts as those of the sources of banks do. -/
def startsAsFileName (path : String) : Bool := "bank_".toList.isPrefixOf path.toList

theorem startsAsFileName_fileName (index : UInt16) : startsAsFileName (fileName index) = true := by
  rw [startsAsFileName, fileName_eq, String.toList_append, List.isPrefixOf_iff_prefix]
  exact List.prefix_append _ _

/-- The source of a bank. -/
def ofBank (game : Game) (bank : Bank) : SourceFile :=
  ⟨fileName bank.index, .text (joinLines (lines (aliases game) bank))⟩

end BankSource

namespace Game

variable {read : String → Except FileError ByteArray} {geometry : Geometry} {project : Project}
  {game : Game}

/-- The files before those of the banks. -/
def headFiles (game : Game) : List SourceFile :=
  [⟨bankHeaderName, .text (Header.render (Header.ofBanks game.allocation))⟩,
    ⟨dataHeaderName, .text (Header.render (Header.ofData game))⟩,
    ⟨dataSourceName, .text (joinLines (DataSource.lines game))⟩]

theorem sourceFiles_eq (game : Game) :
    game.sourceFiles = game.headFiles
      ++ game.allocation.banks.toList.map (BankSource.ofBank game)
      ++ [⟨bankImageName, .bytes (bankImage game.allocation)⟩] := rfl

/-- The files before those of the banks, and the image behind them. -/
theorem mem_sourceFiles {file : SourceFile} (member : file ∈ game.headFiles
    ∨ file = ⟨bankImageName, .bytes (bankImage game.allocation)⟩) : file ∈ game.sourceFiles := by
  rw [sourceFiles_eq, List.mem_append, List.mem_append, List.mem_singleton]
  exact member.imp_left .inl

theorem startsAsFileName_headFiles (game : Game) :
    ∀ file ∈ game.headFiles, BankSource.startsAsFileName file.path = false := by
  simp only [headFiles, List.forall_mem_cons]
  exact ⟨by decide, by decide, by decide, List.forall_mem_nil _⟩

/-- **The sources of the banks** are told by their names, one for each bank. -/
theorem filter_startsAsFileName (game : Game) :
    game.sourceFiles.filter (fun file => BankSource.startsAsFileName file.path)
      = game.allocation.banks.toList.map (BankSource.ofBank game) := by
  have head : game.headFiles.filter (fun file => BankSource.startsAsFileName file.path) = [] := by
    refine List.filter_eq_nil_iff.2 fun file member => ?_
    rw [game.startsAsFileName_headFiles file member]
    exact Bool.false_ne_true
  have banks : (game.allocation.banks.toList.map (BankSource.ofBank game)).filter
      (fun file => BankSource.startsAsFileName file.path)
        = game.allocation.banks.toList.map (BankSource.ofBank game) := by
    refine List.filter_eq_self.2 fun file member => ?_
    obtain ⟨bank, _, rfl⟩ := List.mem_map.1 member
    exact BankSource.startsAsFileName_fileName _
  have image : [(⟨bankImageName, .bytes (bankImage game.allocation)⟩ : SourceFile)].filter
      (fun file => BankSource.startsAsFileName file.path) = [] :=
    List.filter_cons_of_neg (by decide : ¬ BankSource.startsAsFileName bankImageName = true)
  rw [sourceFiles_eq, List.filter_append, List.filter_append, head, banks, image, List.nil_append,
    List.append_nil]

/-- **No two files have the same path.** -/
theorem IsMade.nodup_paths (isMade : IsMade read geometry project game) :
    (game.sourceFiles.map SourceFile.path).Nodup := by
  have indices := isMade.accepts.lays.nodup_indices isMade.accepts.numbers_le
  have paths : game.sourceFiles.map SourceFile.path
      = [bankHeaderName, dataHeaderName, dataSourceName]
        ++ (game.allocation.banks.toList.map Bank.index).map BankSource.fileName
        ++ [bankImageName] := by
    rw [sourceFiles_eq, List.map_append, List.map_append, List.map_map, List.map_map]
    rfl
  have apart : ∀ path ∈ [bankHeaderName, dataHeaderName, dataSourceName, bankImageName],
      ∀ index, path ≠ BankSource.fileName index := by
    have others : ∀ path ∈ [bankHeaderName, dataHeaderName, dataSourceName, bankImageName],
        BankSource.startsAsFileName path = false := by decide
    intro path member index same
    rw [same] at member
    exact absurd (others _ member) (by rw [BankSource.startsAsFileName_fileName]; decide)
  have banks := indices.map fun _ _ => BankSource.fileName_injective
  rw [paths, List.nodup_append, List.nodup_append]
  refine ⟨⟨by decide, banks, fun path fixed other listed => ?_⟩, by decide,
    fun path earlier other last => ?_⟩
  · obtain ⟨index, _, rfl⟩ := List.mem_map.1 listed
    exact apart path (List.mem_append_left [bankImageName] fixed) index
  · cases List.mem_singleton.1 last
    rcases List.mem_append.1 earlier with fixed | listed
    · have differ : ∀ path ∈ [bankHeaderName, dataHeaderName, dataSourceName],
          path ≠ bankImageName := by decide
      exact differ path fixed
    · obtain ⟨index, _, rfl⟩ := List.mem_map.1 listed
      exact (apart bankImageName (by decide) index).symm

end Game
end Cartridge
