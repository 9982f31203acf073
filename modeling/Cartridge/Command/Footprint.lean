import Cartridge.Command.Run

/-!
# What a command looks at

* `CommandLine.paths` — the paths that a command line gives.
* `Config.paths` — the directories that a build works in.
-/

namespace Cartridge

/-- The paths that a command line gives. Of a project it is the directory that counts, since its
resources are there. -/
def CommandLine.paths (line : CommandLine) : List String :=
  line.config.toList ++
    match line.job with
    | .compile project directory => [resourceRoot project, directory]
    | .build project srcRoot buildDir _ =>
      resourceRoot project :: (srcRoot.toList ++ buildDir.toList)

/-- The directories that a build works in. -/
def Config.paths (config : Config) : List String :=
  [config.srcRoot, config.buildDir, config.toolchainBin]

end Cartridge
