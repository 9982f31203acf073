import Cartridge.Build.Type

/-!
# Command lines

A command line names a subcommand and gives it arguments. Options may stand before or after the
subcommand; each level of the line has its own ones. A value is only looked at when the next
argument has been recognized, so that an argument that is not known comes before a bad value in
front of it.

* `CommandLine.parse` — what a command line asks for, or how it is misused.
-/

namespace Cartridge

/-- What can be asked for. -/
inductive Job where
  /-- Generate the sources of a project. -/
  | compile (project outputDirectory : String)
  /-- Generate the sources of a project and build them. -/
  | build (project : String) (srcRoot buildDir : Option String) (buildType : BuildType)
  deriving DecidableEq, Repr

/-- A job with what can be said of any job. -/
structure CommandLine where
  /-- How much is to be said about the progress. -/
  verbosity : Nat
  /-- The path of a configuration. -/
  config : Option String
  job : Job
  deriving DecidableEq, Repr

namespace CommandLine

/-- How a command line is misused, or what it asks for besides a command. -/
inductive Usage where
  | help
  | version
  /-- Nothing is asked for. -/
  | empty
  | missingArgument
  | missingSubcommand
  | unknownArgument
  | unknownSubcommand
  | invalidValue
  /-- An option is given twice on one level. -/
  | repeatedOption
  /-- A flag is given a value. -/
  | unwantedValue
  deriving DecidableEq, Repr

/-- Whether it was asked for, and is no misuse. -/
def Usage.isAnswer : Usage → Bool
  | help | version => true
  | empty | missingArgument | missingSubcommand | unknownArgument | unknownSubcommand
  | invalidValue | repeatedOption | unwantedValue => false

/-- How commands are given. -/
def Usage.summary : String :=
  "\n".intercalate [
    "Usage: [OPTIONS] compile PROJECT OUT_DIR",
    "       [OPTIONS] build PROJECT [--src-root DIR] [--build-dir DIR] [--build-type TYPE]",
    "Options: -v, --verbose; --config FILE; -h, --help; -V, --version"]

/-- What is said about the use of the program. -/
def Usage.message : Usage → String
  | help | empty => summary
  | version => "0.1.0"
  | missingArgument => s!"a required argument is missing\n{summary}"
  | missingSubcommand => s!"a subcommand is missing\n{summary}"
  | unknownArgument => s!"unexpected argument\n{summary}"
  | unknownSubcommand => s!"unrecognized subcommand\n{summary}"
  | invalidValue => s!"invalid value\n{summary}"
  | repeatedOption => s!"an option cannot be given twice\n{summary}"
  | unwantedValue => s!"a flag takes no value\n{summary}"

/-! ### What can be given -/

/-- What is given without a value. -/
inductive Flag where
  | help
  | version
  | verbose
  deriving DecidableEq, Repr

/-- What is given with a value. -/
inductive Setting where
  | config
  | srcRoot
  | buildDir
  | buildType
  | project
  | outputDirectory
  deriving DecidableEq, Repr

/-- What a value can belong to a setting: a build type has a name, and a path is not empty. -/
def Setting.accepts (setting : Setting) (value : String) : Bool :=
  match setting with
  | buildType => (BuildType.ofName? value).isSome
  | config | srcRoot | buildDir | project | outputDirectory => !value.isEmpty

/-- A part of a line with arguments of its own. -/
inductive Level where
  | top
  | compile
  | build
  deriving DecidableEq, Repr

namespace Level

/-- The flags of a level. -/
def flag? (level : Level) (name : String) : Option Flag :=
  match name with
  | "help" => some .help
  | "verbose" => some .verbose
  | "version" => if level = top then some .version else none
  | _ => none

/-- The flags of a level that a letter stands for. -/
def letter? (level : Level) (letter : Char) : Option Flag :=
  match letter with
  | 'h' => some .help
  | 'v' => some .verbose
  | 'V' => if level = top then some .version else none
  | _ => none

/-- The options of a level. -/
def option? (level : Level) (name : String) : Option Setting :=
  match level, name with
  | _, "config" => some .config
  | build, "src-root" => some .srcRoot
  | build, "build-dir" => some .buildDir
  | build, "build-type" => some .buildType
  | _, _ => none

/-- The arguments of a level that have a place and no name. -/
def places : Level → List Setting
  | top => []
  | compile => [.project, .outputDirectory]
  | build => [.project]

end Level

/-- What can follow the arguments of the top level. -/
inductive Subcommand where
  | help
  | compile
  | build
  deriving DecidableEq, Repr

/-- The subcommand of a name. -/
def Subcommand.ofName? : String → Option Subcommand
  | "help" => some .help
  | "compile" => some .compile
  | "build" => some .build
  | _ => none

/-! ### Reading a level -/

/-- What has been read of a level. -/
structure Progress where
  /-- How often more progress was asked for, if it was. -/
  verbosity : Option Nat
  /-- The settings with values that have been accepted. -/
  values : List (Setting × String)
  /-- The setting that was met last, and its value, neither of them looked at. -/
  pending : Option (Setting × Option String)
  /-- The settings that the next arguments without a name belong to. -/
  places : List Setting
  /-- Whether only arguments without a name follow. -/
  isPlain : Bool

/-- Nothing has been read of a level. -/
def Progress.start (level : Level) : Progress := ⟨none, [], none, level.places, false⟩

/-- The value of a setting. -/
def Progress.value? (progress : Progress) (setting : Setting) : Option String :=
  progress.values.lookup setting

/-- The greatest verbosity that is counted. -/
def verbosityLimit : Nat := 255

/-- Looks at the value that was met last. -/
def Progress.settle (progress : Progress) : Except Usage Progress :=
  match progress.pending with
  | none => .ok progress
  | some (_, none) => .error .invalidValue
  | some (setting, some value) =>
    if (progress.value? setting).isSome then .error .repeatedOption
    else if !setting.accepts value then .error .invalidValue
    else .ok { progress with
      values := (setting, value) :: progress.values
      pending := none }

/-- Takes in a flag. -/
def Progress.addFlag (progress : Progress) (flag : Flag) : Except Usage Progress := do
  let settled ← progress.settle
  match flag with
  | .help => throw .help
  | .version => throw .version
  | .verbose =>
    return { settled with
      verbosity := some (min verbosityLimit ((settled.verbosity.getD 0) + 1)) }

/-- Takes in an option, with the value that is attached to it. -/
def Progress.addOption (progress : Progress) (setting : Setting) (attached : Option String) :
    Except Usage Progress := do
  let settled ← progress.settle
  let added := { settled with pending := some (setting, attached) }
  if attached.isSome then added.settle else return added

/-- Takes in an argument without a name. -/
def Progress.addPlain (progress : Progress) (level : Level) (argument : String) :
    Except Usage Progress :=
  match progress.places with
  | setting :: places => do
    return { ← progress.settle with
      pending := some (setting, some argument)
      places }
  | [] =>
    if level = .top ∧ !(progress.isPlain && (Subcommand.ofName? argument).isSome) then
      .error .unknownSubcommand
    else .error .unknownArgument

/-- The name of a long option and the value attached to it. -/
def splitLong (argument : String) : Option (String × Option String) :=
  match argument.toList with
  | '-' :: '-' :: rest =>
    let name := String.ofList (rest.takeWhile (· != '='))
    match rest.dropWhile (· != '=') with
    | _ :: value => some (name, some (String.ofList value))
    | [] => some (name, none)
  | _ => none

/-- The letters of short flags. A single dash is no flag. -/
def splitShort (argument : String) : Option (List Char) :=
  match argument.toList with
  | '-' :: first :: rest => if first = '-' then none else some (first :: rest)
  | _ => none

/-- Takes in a long option. -/
def Progress.addLong (progress : Progress) (level : Level) (name : String)
    (attached : Option String) : Except Usage Progress :=
  match level.option? name, level.flag? name with
  | some setting, _ => progress.addOption setting attached
  | none, some flag =>
    if attached.isSome then .error .unwantedValue else progress.addFlag flag
  | none, none => .error .unknownArgument

/-- Takes in short flags. -/
def Progress.addShort (progress : Progress) (level : Level) (letters : List Char) :
    Except Usage Progress :=
  letters.foldlM (fun progress letter =>
    match level.letter? letter with
    | some flag => progress.addFlag flag
    | none => .error .unknownArgument) progress

/-- Takes in an argument that is no subcommand. -/
def Progress.add (progress : Progress) (level : Level) (argument : String) :
    Except Usage Progress :=
  if progress.isPlain then progress.addPlain level argument
  else if argument = "--" then .ok { progress with isPlain := true }
  else
    match splitLong argument, splitShort argument with
    | some (name, attached), _ => progress.addLong level name attached
    | none, some letters => progress.addShort level letters
    | none, none =>
      match progress.pending with
      | some (setting, none) => .ok { progress with pending := some (setting, some argument) }
      | some (_, some _) | none => progress.addPlain level argument

/-- Whether the next argument is the value of an option if it can be. -/
def Progress.awaitsValue (progress : Progress) : Bool :=
  match progress.pending with
  | some (_, none) => true
  | some (_, some _) | none => false

/-- Reads the arguments of a level, up to a subcommand if it can have one. -/
def readLevel (level : Level) (progress : Progress) :
    List String → Except Usage (Progress × Option (Subcommand × List String))
  | [] => .ok (progress, none)
  | argument :: rest =>
    let subcommand? := if level = .top && !progress.isPlain && !progress.awaitsValue then
      Subcommand.ofName? argument else none
    match subcommand? with
    | some subcommand => .ok (progress, some (subcommand, rest))
    | none => do readLevel level (← progress.add level argument) rest

/-! ### Reading a line -/

/-- The value of a setting that must be given. -/
def Progress.require (progress : Progress) (setting : Setting) : Except Usage String :=
  match progress.value? setting with
  | some value => .ok value
  | none => .error .missingArgument

/-- Reads the arguments of a subcommand. -/
def readInner (level : Level) (arguments : List String) : Except Usage Progress := do
  let (progress, _) ← readLevel level (.start level) arguments
  progress.settle

/-- The command line of a job. What is given behind the subcommand counts before what is given in
front of it. -/
def assemble (outer inner : Progress) (job : Job) : CommandLine where
  verbosity := (inner.verbosity <|> outer.verbosity).getD 0
  config := inner.value? .config <|> outer.value? .config
  job := job

/-- What an explanation is asked for: a subcommand that exists. -/
def readHelp (arguments : List String) : Usage :=
  match arguments with
  | [] => .help
  | [name] => if (Subcommand.ofName? name).isSome then .help else .unknownSubcommand
  | _ => .unknownSubcommand

/-- What a command line asks for. -/
def parse (arguments : List String) : Except Usage CommandLine := do
  let (outer, found) ← readLevel .top (.start .top) arguments
  match found with
  | none =>
    let settled ← outer.settle
    throw (if settled.verbosity.isNone && settled.values.isEmpty then .empty
      else .missingSubcommand)
  | some (.help, rest) => throw (readHelp rest)
  | some (.compile, rest) =>
    let inner ← readInner .compile rest
    let job := Job.compile (← inner.require .project) (← inner.require .outputDirectory)
    return assemble (← outer.settle) inner job
  | some (.build, rest) =>
    let inner ← readInner .build rest
    let buildType := (inner.value? .buildType).bind BuildType.ofName?
    let job := Job.build (← inner.require .project) (inner.value? .srcRoot)
      (inner.value? .buildDir) (buildType.getD .rom)
    return assemble (← outer.settle) inner job

end CommandLine
end Cartridge
