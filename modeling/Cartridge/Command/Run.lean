import Cartridge.Build.Workshop
import Cartridge.Command.Line
import Cartridge.Command.Loading

/-!
# Carrying out commands

* `CommandLine.run` — what a command does to the files, what it prints, and how it ends.
-/

namespace Cartridge

/-- What a command has done. -/
structure Outcome where
  result : Except Failure Unit
  /-- The lines it has printed. -/
  out : Array String
  /-- The lines of errors it has printed. -/
  err : Array String
  files : FileSystem

namespace Outcome

/-- Nothing has been printed. -/
def silent (files : FileSystem) (result : Except Failure Unit) : Outcome :=
  ⟨result, #[], #[], files⟩

/-- Prints a line of a build program. -/
def print (outcome : Outcome) (channel : Channel) (text : String) : Outcome :=
  match channel with
  | .out => { outcome with out := outcome.out.push text }
  | .err => { outcome with err := outcome.err.push text }

end Outcome

namespace CommandLine

/-- Prints what a build reports until it is complete. -/
def follow (number : Nat) : (fuel : Nat) → Workshop → Outcome → Workshop × Outcome
  | 0, workshop, outcome => (workshop, outcome)
  | fuel + 1, workshop, outcome =>
    match workshop.nextEvent number with
    | (some (.line channel text), workshop) =>
      follow number fuel workshop (outcome.print channel text)
    | (some (.complete _), workshop) | (none, workshop) => (workshop, outcome)

/-- Writes the generated sources of a game into a directory. -/
def write (files : FileSystem) (here : Location) (game : Game) (directory : String) : Outcome :=
  let (result, files) := (SourceFile.writeAll here directory game.sourceFiles).run.run files
  .silent files (Failure.within s!"Writing {directory}"
    (result.mapError (Failure.of ∘ Cause.file)))

/-- Builds a game. -/
def build (files : FileSystem) (here : Location) (config : Config) (game : Game)
    (buildType : BuildType) : Outcome :=
  let workshop := Workshop.start config here files
  let (number, orchestrator) := workshop.orchestrator.start game.sourceFiles buildType
  let (workshop, outcome) := follow number Workshop.patience { workshop with orchestrator }
    (.silent files (.ok ()))
  let (result, workshop) := workshop.finish number
  { outcome with
    result := Failure.within "Building cartridge"
      ((result.getD (.error .cancelled)).mapError (Failure.of ∘ Cause.build))
    files := workshop.machine.files }

/-- The settings that a command line asks for, over default ones. -/
def configOf (standard : Config) (files : FileSystem) (here : Location) (line : CommandLine) :
    Except Failure Config :=
  match line.config with
  | some path => Config.load standard files here path
  | none => .ok standard

/-- Carries out a command. -/
def run (standard : Config) (files : FileSystem) (here : Location) (line : CommandLine) :
    Outcome :=
  match line.configOf standard files here with
  | .error failure => .silent files (.error failure)
  | .ok config =>
    match line.job with
    | .compile project directory =>
      match Game.load config.geometry files here project with
      | .error failure => .silent files (.error failure)
      | .ok game => write files here game directory
    | .build project srcRoot buildDir buildType =>
      match Game.load config.geometry files here project with
      | .error failure => .silent files (.error failure)
      | .ok game =>
        build files here
          { config with
            srcRoot := srcRoot.getD config.srcRoot
            buildDir := buildDir.getD config.buildDir }
          game buildType

end CommandLine
end Cartridge
