import Cartridge.Config.Basic
import Cartridge.Json.Record

/-!
# Reading build configurations

A configuration is a JSON record; every setting has a default.
-/

namespace Cartridge.Config

open Json

/-- The greatest count that a setting can give. -/
def greatestCount : Nat := 0xFFFFFFFFFFFFFFFF

/-- Reads a count. -/
def count : Reader Nat := Reader.ofNatural greatestCount

/-- Reads a configuration over default settings. -/
def reader (standard : Config) : Reader Config :=
  (Record.reader (.admits "bank_capacity" count standard.geometry.capacity
    (.admits "bank_ceiling" count standard.geometry.ceiling
      (.admits "first_bank" ((Reader.ofNatural 0xFFFF).map UInt16.ofNat) standard.geometry.firstBank
        (.admits "toolchain_bin" Reader.ofText standard.toolchainBin
          (.admits "build_program" Reader.ofText standard.buildProgram
            (.admits "fatal_marker" Reader.ofText standard.fatalMarker
              (.admits "src_root" Reader.ofText standard.srcRoot
                (.admits "build_dir" Reader.ofText standard.buildDir
                  (.admits "header_link" Reader.ofText standard.headerLink
                    (.admits "data_link" Reader.ofText standard.dataLink .done))))))))))).map
    fun (capacity, ceiling, firstBank, toolchainBin, buildProgram, fatalMarker, srcRoot, buildDir,
      headerLink, dataLink, _) =>
      { geometry := ⟨capacity, ceiling, firstBank⟩
        toolchainBin, buildProgram, fatalMarker, srcRoot, buildDir, headerLink, dataLink }

/-- The configuration that a text describes. -/
def ofJson (standard : Config) (text : String) : Except Fault Config :=
  (reader standard).whole text

end Cartridge.Config
