import Cartridge.FileSystem.Basic

/-!
# Failed builds

* `BuildError.message` — the message for a build that has failed.
-/

namespace Cartridge

/-- Why a program cannot be started. -/
inductive SpawnFault where
  | file (fault : FileError)
  /-- The directory to be searched first cannot be written into a search path. -/
  | separatorInPath
  /-- A name or a directory holds a character that none can. -/
  | badText
  deriving DecidableEq, Repr

/-- The message for a program that cannot be started. -/
def SpawnFault.message : SpawnFault → String
  | file fault => fault.message
  | separatorInPath => "path segment contains separator `:`"
  | badText => "nul byte found in provided data"

/-- Why a build fails. -/
inductive BuildError where
  /-- The generated sources cannot be put where they belong. -/
  | staging (path : String) (fault : FileError)
  /-- The build program cannot be started. -/
  | spawn (program : String) (fault : SpawnFault)
  /-- The build program has failed; the reason is a line of its own, or how it ended. -/
  | toolchain (reason : String)
  | cancelled
  deriving DecidableEq, Repr

/-- The message for a failed build. -/
def BuildError.message : BuildError → String
  | staging path fault => s!"staging failed at {path}: {fault.message}"
  | spawn program fault => s!"failed to spawn `{program}`: {fault.message}"
  | toolchain reason => s!"toolchain failed: {reason}"
  | cancelled => "build cancelled"

end Cartridge
