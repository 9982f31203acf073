import Cartridge.Bank.Geometry
import Cartridge.Text.FilePath

/-!
# Build configurations

The geometry of the cartridge, and where the toolchain and its sources are.
-/

namespace Cartridge

/-- What can be set for a build. -/
structure Config where
  geometry : Geometry
  /-- The directory that is searched first for the toolchain's programs. -/
  toolchainBin : String
  /-- The program that builds the cartridge; its argument is the build type. -/
  buildProgram : String
  /-- Error lines with this text make a build fail. -/
  fatalMarker : String
  /-- Where the engine's sources are, and where the build program runs. -/
  srcRoot : String
  /-- Where generated sources are staged. -/
  buildDir : String
  /-- The alias of the generated bank header, below the engine's sources. -/
  headerLink : String
  /-- The alias of the directory of generated sources, below the engine's sources. -/
  dataLink : String
  deriving DecidableEq, Repr

namespace Config

/-- The settings that hold where nothing else is said, given the directory for temporary files. -/
def standard (temporary : String) : Config where
  geometry := ⟨0x4000, 255, 1⟩
  toolchainBin := "/opt/gbdk/bin"
  buildProgram := "make"
  fatalMarker := "***"
  srcRoot := "gb"
  buildDir := FilePath.join temporary "cartforge-build"
  headerLink := "include/banks.h"
  dataLink := "src/data"

/-- Where the alias of the bank header is. -/
def headerLinkPath (config : Config) : String := FilePath.join config.srcRoot config.headerLink

/-- Where the alias of the directory of generated sources is. -/
def dataLinkPath (config : Config) : String := FilePath.join config.srcRoot config.dataLink

end Config
end Cartridge
