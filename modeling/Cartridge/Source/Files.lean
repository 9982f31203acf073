import Cartridge.FileSystem.Action
import Cartridge.Source.Data

/-!
# Generated files

* `Game.sourceFiles` — the files that the toolchain compiles.
* `SourceFile.writeAll` — writes files into a directory.
-/

namespace Cartridge

/-- What a generated file holds. -/
inductive SourceContents where
  | text (value : String)
  | bytes (value : Array UInt8)

/-- The bytes of what a file holds. -/
def SourceContents.toBytes : SourceContents → ByteArray
  | text value => value.toUTF8
  | bytes value => ⟨value⟩

/-- A generated file. -/
structure SourceFile where
  /-- Its path from the output directory. -/
  path : String
  contents : SourceContents

/-- The name of the file with the data of all banks. -/
def bankImageName : String := "banks.bin"

/-- The name of the file with the tables. -/
def dataSourceName : String := "data_ptrs.c"

/-- The files of a game: the headers, the tables, the banks, and the data of all banks. -/
def Game.sourceFiles (game : Game) : List SourceFile :=
  let aliases := BankSource.aliases game
  [⟨bankHeaderName, .text (Header.render (Header.ofBanks game.allocation))⟩,
      ⟨dataHeaderName, .text (Header.render (Header.ofData game))⟩,
      ⟨dataSourceName, .text (joinLines (DataSource.lines game))⟩]
    ++ (game.allocation.banks.toList.map fun bank =>
      ⟨BankSource.fileName bank.index, .text (joinLines (BankSource.lines aliases bank))⟩)
    ++ [⟨bankImageName, .bytes (bankImage game.allocation)⟩]

namespace SourceFile

/-- The first file that a path stands for. -/
def find? (files : List SourceFile) (path : String) : Option SourceFile :=
  files.find? fun file => FilePath.isSame file.path path

/-- Writes files into a directory, which is created if it is missing. -/
def writeAll (here : Location) (directory : String) (sources : List SourceFile) :
    FileAction Unit := do
  FileAction.createDirectories here directory
  sources.forM fun source =>
    FileAction.change
      (·.write here (FilePath.join directory source.path) source.contents.toBytes)

end SourceFile
end Cartridge
