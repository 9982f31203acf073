import Cartridge.Shell.Machine

/-!
# Steps of processes

* `Process.step` — one step of a process.
* `Machine.run` — runs the processes until all of them wait or have ended.
* `Machine.spawn` — starts a program in a group of processes of its own.
-/

namespace Cartridge.Shell

/-- The names that stand for the shell. -/
def isShell (name : String) : Bool := ["sh", "dash", "bash"].contains name

/-- What becomes of a process in a step; none if it has ended. -/
abbrev Step : Type := StateM Machine (Option Process)

namespace Process

/-- The process goes on. -/
def goOn (process : Process) : Step := return some process

/-- Ends a process. -/
def finishWith (process : Process) (status : ExitStatus) : Step := do
  modify fun machine => { machine with ended := (process.id, status) :: machine.ended }
  return none

/-- Prints bytes to a descriptor. -/
def print (process : Process) (descriptor : Nat) (bytes : List UInt8) : StateM Machine Unit :=
  if bytes.isEmpty then pure ()
  else modify (·.write (process.session.descriptors.sinkOf descriptor) bytes)

/-- Complains, with the name of the script and the line. -/
def complain (process : Process) (line : Nat) (text : String) : StateM Machine Unit :=
  process.print 2 (encoded s!"{process.session.name}: {line}: {text}\n")

/-- Assigns values to variables. -/
def assign (process : Process) (assignments : List (String × Word)) : Process :=
  assignments.foldl (fun process (name, word) =>
    let (value, session) := oneField process.session word
    { process with session := { session with bindings := session.bindings.insert name value } })
    process

/-- Runs a text as a script would be. -/
def runText (process : Process) (line : Nat) (text : String) : Step := do
  match script text with
  | some command => (process.push [.run command false]).goOn
  | none =>
    process.complain line "Syntax error"
    (process.exit 2).goOn

/-! ### Commands of the shell itself -/

/-- The milliseconds of a text in seconds. -/
def milliseconds? (text : String) : Option Nat :=
  match text.splitOn "." with
  | [whole] => (whole.toNat?).map (· * 1000)
  | [whole, fraction] => do
    let seconds ← if whole.isEmpty then some 0 else whole.toNat?
    let part ← (String.ofList ((fraction.toList ++ ['0', '0', '0']).take 3)).toNat?
    return seconds * 1000 + part
  | _ => none

/-- The number of a signal that is given by its number or its name. The shell has no name for the
signal of a failed coprocessor. -/
def signal? (text : String) : Option Nat :=
  match text.toNat? with
  | some number => if number ≤ 64 then some number else none
  | none =>
    let name := text.map Char.toUpper
    if name = "STKFLT" then none else (ExitStatus.signalNames.idxOf? name).map (· + 1)

/-- The signal that a command is asked to send, and to which processes; or what is wrong with the
request. -/
def killRequest (arguments : List String) : Except String (Nat × List String) := do
  let (signal, targets) ← match arguments with
    | ["-s"] => .error "kill: No arg for -s option"
    | "-s" :: name :: rest =>
      match signal? name with
      | some number => .ok (number, rest)
      | none => .error s!"kill: invalid signal number or name: {name}"
    | "--" :: rest => .ok (15, rest)
    | first :: rest =>
      match first.toList with
      | '-' :: option :: name =>
        match signal? (String.ofList (option :: name)) with
        | some number => .ok (number, if rest.head? = some "--" then rest.tail else rest)
        | none => .error s!"kill: Illegal option -{option}"
      | _ => .ok (15, arguments)
    | [] => .ok (15, [])
  if targets.isEmpty then
    .error ("kill: Usage: kill [-s sigspec | -signum | -sigspec] [pid | job]... or\n"
      ++ "kill -l [exitstatus]")
  return (signal, targets)

/-- Whether processes are meant by a number: one, a group, or one's own group. -/
def isMeant (process : Process) (target : Int) (other : Process) : Bool :=
  if target = 0 then other.group == process.group
  else if target < 0 then (other.group : Int) == -target
  else (other.id : Int) == target

/-- Sends a signal to one process or group after the other. The signal zero only asks whether there
is a process. What a process does at a signal that it sends itself is done last. -/
def send (process : Process) (line signal : Nat) (status : Nat) (isHit : Bool) :
    (targets : List String) → Step
  | [] =>
    match if isHit then process.session.traps.lookup signal else none with
    | some action => (process.complete status).runText line action
    | none => (process.complete status).goOn
  | text :: targets => do
    match Condition.number? text with
    | none =>
      process.complain line s!"kill: Illegal number: {text}"
      (process.complete 2).goOn
    | some target =>
      let machine ← get
      if !(process :: machine.processes).any (process.isMeant target) then
        process.complain line "kill: No such process"
        process.send line signal 1 isHit targets
      else
        set (machine.killWhere (process.isMeant target) signal)
        let isHere := signal != 0 && process.isMeant target process
        let isCaught := (process.session.traps.lookup signal).isSome
          || ExitStatus.quietSignals.contains signal
        if isHere && !isCaught then process.finishWith (.signal signal)
        else process.send line signal status (isHit || isHere) targets

/-- Sends the signal that the arguments tell. -/
def kill (process : Process) (line : Nat) (arguments : List String) : Step := do
  match killRequest arguments with
  | .ok (signal, targets) => process.send line signal 0 false targets
  | .error complaint =>
    process.complain line complaint
    (process.complete 2).goOn

/-- Sets what is done at signals. -/
def setTraps (process : Process) (arguments : List String) : Process :=
  let number? (name : String) : Option Nat := if name = "EXIT" then some 0 else signal? name
  let (action, names) : Option String × List String := match arguments with
    | [name] => (none, [name])
    | "-" :: names => (none, names)
    | action :: names => (some action, names)
    | [] => (none, [])
  let numbers := names.filterMap number?
  process.withSession fun session =>
    { session with
      traps := (match action with
        | some action => numbers.map fun number => (number, action)
        | none => []) ++ session.traps.filter fun (number, _) => !numbers.contains number }

/-- The values of variables that a line is cut into. -/
def cutLine : (names : List String) → (text : List Char) → List (String × String)
  | [], _ => []
  | [name], text =>
    [(name, String.ofList ((text.dropWhile (· == ' ')).reverse.dropWhile (· == ' ')).reverse)]
  | name :: names, text =>
    let rest := text.dropWhile (· == ' ')
    (name, String.ofList (rest.takeWhile (· != ' '))) :: cutLine names (rest.dropWhile (· != ' '))

/-- Reads a line into variables. -/
def read (process : Process) (names : List String) : Step :=
  let source := process.session.descriptors.sourceOf 0
  let line := source.takeWhile (· != 0x0A)
  let rest := source.drop line.length
  let bindings := (cutLine names (Utf8.lossy line).toList).foldl
    (fun bindings (name, value) => bindings.insert name value) process.session.bindings
  ((process.withSession fun session =>
    { session with
      bindings
      descriptors := session.descriptors.set 0 (.source rest.tail) }).complete
    (if rest.isEmpty then 1 else 0)).goOn

/-- Changes the directory. -/
def changeDirectory (process : Process) (line : Nat) (path : String) : Step := do
  match (← get).files.directory process.session.directory path with
  | .ok directory => ((process.withSession ({ · with directory })).complete 0).goOn
  | .error _ =>
    process.complain line s!"cd: can't cd to {path}"
    (process.complete 2).goOn

/-- Sets options or arguments. -/
def setOptions (process : Process) (arguments : List String) : Process :=
  match arguments with
  | "--" :: rest => process.withSession ({ · with arguments := rest })
  | option :: rest =>
    if option.startsWith "-" then
      if option.contains 'e' then process.withSession ({ · with stopsOnFailure := true })
      else process
    else if option.startsWith "+" then
      if option.contains 'e' then process.withSession ({ · with stopsOnFailure := false })
      else process
    else process.withSession ({ · with arguments := option :: rest })
  | [] => process

/-- The name and the value that an argument assigns. -/
def assigned? (argument : String) : Option (String × String) :=
  match argument.splitOn "=" with
  | name :: value :: more => some (name, "=".intercalate (value :: more))
  | _ => none

/-- Lets variables have values of their own until the innermost function ends. -/
def keepLocals (process : Process) (arguments : List String) : Process :=
  let bindings := process.session.bindings
  let saved := arguments.map fun argument =>
    let name := ((assigned? argument).map Prod.fst).getD argument
    (name, bindings[name]?)
  let inside := process.frames.takeWhile fun frame => !isBoundary frame
  match process.frames.drop inside.length with
  | .finish outer locals :: behind =>
    let fresh := saved.filter fun (name, _) => (locals.lookup name).isNone
    { process with frames := inside ++ .finish outer (locals ++ fresh) :: behind }
  | _ => process

/-- Assigns what arguments say. -/
def assignAll (process : Process) (arguments : List String) : Process :=
  (arguments.filterMap assigned?).foldl (fun process (name, value) =>
    process.withSession fun session =>
      { session with bindings := session.bindings.insert name value }) process

/-- Lets scripts that are run see variables. -/
def markExported (process : Process) (arguments : List String) : Process :=
  let names := arguments.map fun argument => ((assigned? argument).map Prod.fst).getD argument
  process.withSession fun session => { session with exported := session.exported ++ names }

/-- The text of a location. -/
def locationText (place : Location) : String :=
  if place.isEmpty then "/" else String.join (place.reverse.map ("/" ++ ·))

/-- Whether there is a command of a name that is neither a function nor a program. -/
def isOwn (name : String) : Bool :=
  [":", ".", "break", "cd", "command", "continue", "eval", "exec", "exit", "export", "kill",
    "local", "pwd", "read", "readonly", "return", "set", "shift", "sleep", "test", "[", "trap",
    "umask", "unset", "wait"].contains name

/-- The commands after whose failed redirections a script ends. -/
def isSpecial (name : String) : Bool :=
  [":", ".", "break", "continue", "eval", "exec", "exit", "export", "readonly", "return", "set",
    "shift", "trap", "unset"].contains name

/-- Runs a command of the shell itself. -/
def runOwn (process : Process) (line : Nat) (name : String) (arguments : List String) : Step := do
  let session := process.session
  let number (default : Nat) : Nat := ((arguments.head?).bind String.toNat?).getD default
  match name with
  | "exit" =>
    let status := number session.status % 256
    (process.exit status).goOn
  | "return" => (process.leaveFunction (number session.status)).goOn
  | "break" =>
    (({ process with
      frames := (unwindLoops true (number 1) process.frames).getD process.frames }).withStatus
      0).goOn
  | "continue" =>
    (({ process with
      frames := (unwindLoops false (number 1) process.frames).getD process.frames }).withStatus
      0).goOn
  | "cd" => process.changeDirectory line (arguments.headD "/")
  | "pwd" =>
    process.print 1 (encoded (locationText session.directory ++ "\n"))
    (process.complete 0).goOn
  | "export" => (((process.assignAll arguments).markExported arguments).complete 0).goOn
  | "local" => (((process.keepLocals arguments).assignAll arguments).complete 0).goOn
  | "readonly" => ((process.assignAll arguments).complete 0).goOn
  | "trap" => ((process.setTraps arguments).complete 0).goOn
  | "unset" =>
    ((process.withSession fun session =>
      { session with
        bindings := arguments.foldl (fun bindings name => bindings.erase name)
          session.bindings }).complete 0).goOn
  | "set" => ((process.setOptions arguments).complete 0).goOn
  | "shift" =>
    ((process.withSession fun session =>
      { session with arguments := session.arguments.drop (number 1) }).complete 0).goOn
  | "wait" =>
    match (arguments.head?).bind String.toNat? with
    | some id => ({ process with waiting := .child id }).goOn
    | none => (({ process with waiting := .children }).withStatus 0).goOn
  | "sleep" =>
    match (arguments.head?).bind milliseconds? with
    | some duration =>
      (({ process with waiting := .time ((← get).clock + duration) }).withStatus 0).goOn
    | none =>
      process.print 2 (encoded "sleep: missing operand\n")
      (process.complete 1).goOn
  | "kill" => process.kill line arguments
  | "read" => process.read (arguments.filter fun argument => !argument.startsWith "-")
  | "eval" => process.runText line (" ".intercalate arguments)
  | "." =>
    let path := arguments.headD ""
    match ((← get).files.readText session.directory path).toOption.bind script with
    | some command => (process.push [.run command false]).goOn
    | none =>
      process.complain line s!".: {path}: not found"
      (process.exit 2).goOn
  | "test" | "[" =>
    let words := if name = "[" then arguments.dropLast else arguments
    match Condition.holds? (← get).files session.directory words with
    | some holds => (process.complete (if holds then 0 else 1)).goOn
    | none =>
      let first := words.headD ""
      process.complain line s!"{name}: {first}: unexpected operator"
      (process.complete 2).goOn
  | "command" =>
    match arguments with
    | "-v" :: name :: _ =>
      if isOwn name then
        process.print 1 (encoded (name ++ "\n"))
        (process.complete 0).goOn
      else if (Program.ofName? name).isSome then
        process.print 1 (encoded s!"/usr/bin/{name}\n")
        (process.complete 0).goOn
      else (process.complete 127).goOn
    | words =>
      let inner := Command.simple ⟨line, [], words.map fun word => [.text true word], []⟩
      (process.push [.run inner true]).goOn
  | _ => (process.complete 0).goOn

/-! ### Simple commands -/

/-- Runs a program on its arguments. -/
def runProgram (process : Process) (program : Program) (arguments : List String) :
    StateM Machine Nat := do
  let machine ← get
  let call : Call :=
    ⟨process.session.directory, arguments, process.session.descriptors.sourceOf 0⟩
  let (status, desk) := (program call).run ⟨machine.files, #[]⟩
  set { machine with files := desk.files }
  desk.printed.toList.forM fun (descriptor, bytes) => process.print descriptor bytes
  return status

/-- The script that the arguments of a shell name, and the name and the arguments that it gets. -/
def namedScript (process : Process) (files : FileSystem) (name : String) :
    (arguments : List String) → Except String (String × String × List String)
  | "-c" :: text :: rest => .ok (text, rest.headD name, rest.tail)
  | path :: rest =>
    match files.read process.session.directory path with
    | .ok bytes => .ok (Utf8.lossy bytes.toList, path, rest)
    | .error fault => .error s!"{name}: 0: {openComplaint false path fault}"
  | [] => .ok (Utf8.lossy (process.session.descriptors.sourceOf 0), name, [])

/-- Runs another script as a shell of its own would, which sees what is exported and changes nothing
here. -/
def runInner (process : Process) (before : Descriptors) (name : String)
    (assignments : List (String × Word)) (arguments : List String) : Step := do
  let outer := { process.session with descriptors := before }
  let given := (process.assign assignments).markExported (assignments.map Prod.fst)
  let failed (complaint : String) : Step := do
    process.print 2 (encoded (complaint ++ "\n"))
    (({ process with session := outer }).complete 2).goOn
  match process.namedScript (← get).files name arguments with
  | .error complaint => failed complaint
  | .ok (text, called, arguments) =>
    match script text with
    | none => failed s!"{called}: 1: Syntax error"
    | some command =>
      let session := { given.session.inSubshell with
        name := called
        arguments
        bindings := given.session.passedOn
        functions := ∅
        status := 0
        stopsOnFailure := false }
      ({ process with session }.push [.run command false, .leave outer]).goOn

/-- The name of a program, if it is called by that or by its path. -/
def calledName (name : String) : String :=
  let last := (FilePath.fileName? name).getD name
  if ["/bin/", "/usr/bin/"].any fun place => name == place ++ last then last else name

/-- Runs a command with its redirections done; `before` are the descriptors it had before. -/
def runNamed (process : Process) (before : Descriptors) (line : Nat) (name : String)
    (assignments : List (String × Word)) (arguments : List String) : Step := do
  let restored (process : Process) : Process :=
    process.withSession ({ · with descriptors := before })
  match process.session.functions[name]? with
  | some body =>
    let called := process.push
      [.run body false, .finish process.session.arguments [], .restore before]
    (called.withSession ({ · with arguments })).goOn
  | none =>
    if isOwn name then
      let behind := if name = "read" ∧ before.sourceOf 0 = process.session.descriptors.sourceOf 0
        then [] else [Frame.restore before]
      runOwn (process.push behind) line name arguments
    else if isShell (calledName name) then
      process.runInner before name assignments arguments
    else
      match Program.ofName? (calledName name) with
      | some program =>
        let status ← process.runProgram program arguments
        ((restored process).complete status).goOn
      | none =>
        if name.contains '/' && (← get).files.isPresent process.session.directory name then
          process.complain line s!"{name}: Permission denied"
          ((restored process).complete 126).goOn
        else
          process.complain line s!"{name}: not found"
          ((restored process).complete 127).goOn

/-- What is left of a process when a program takes the place of the script. -/
def replaced (process : Process) : Process :=
  { process with
    frames := process.frames.dropWhile fun frame =>
      match frame with
      | .leave _ => false
      | _ => true
    session := { process.session with traps := [] } }

/-- Runs a simple command. -/
def runSimple (process : Process) (isFilled : Bool) (command : Simple) : Step := do
  let machine ← get
  let before := process.session.descriptors
  let (words, session) := fields machine.files process.session command.words
  match redirectAll machine.files session command.redirects with
  | .error complaint =>
    process.complain command.line complaint
    if isSpecial (words.headD "") then (process.exit 2).goOn else (process.complete 2).goOn
  | .ok (files, session) =>
    set { machine with files }
    let ready := { process with session }
    match words with
    | [] =>
      let assigned := (ready.withSession ({ · with descriptors := before })).assign
        command.assignments
      (assigned.complete (if isFilled then process.session.status else 0)).goOn
    | "exec" :: [] => (ready.withStatus 0).goOn
    | "exec" :: words =>
      let inner := Command.simple ⟨command.line, [], words.map fun word => [.text true word], []⟩
      (ready.replaced.push [.run inner true]).goOn
    | name :: arguments =>
      let assigned := if isSpecial name then ready.assign command.assignments else ready
      runNamed assigned before command.line name
        (if isSpecial name then [] else command.assignments) arguments

/-! ### All commands -/

/-- Runs a command whose words hold no script any more. -/
def runFilled (process : Process) (isFilled : Bool) (command : Command) : Step := do
  match command with
  | .nothing => process.goOn
  | .simple inner => process.runSimple isFilled inner
  | .sequence first second => (process.push [.run first false, .run second false]).goOn
  | .both first second => (process.push [.run first false, .both second]).goOn
  | .either first second => (process.push [.run first false, .either second]).goOn
  | .negated inner => (process.push [.run inner false, .negate]).goOn
  | .piped source sink =>
    let (buffer, machine) := (← get).addBuffer
    set machine
    (process.capture buffer source (.feed buffer sink)).goOn
  | .background inner =>
    let machine ← get
    let id := machine.nextId
    let session := { process.session.inSubshell with
      descriptors := process.session.descriptors.set 0 (.source []) }
    let child : Process := ⟨id, process.id, process.group, [.run inner false], session, .nothing⟩
    set { machine with nextId := id + 1, processes := machine.processes ++ [child] }
    ((process.withSession ({ · with background := some id })).withStatus 0).goOn
  | .subshell body =>
    ((process.push [.run body false, .leave process.session]).withSession
      Session.inSubshell).goOn
  | .redirected line body redirects =>
    let machine ← get
    match redirectAll machine.files process.session redirects with
    | .error complaint =>
      process.complain line complaint
      (process.complete 2).goOn
    | .ok (files, session) =>
      set { machine with files }
      let ready := process.push [.run body false, .restore process.session.descriptors]
      ({ ready with session }).goOn
  | .choice condition yes no => (process.push [.run condition false, .choose yes no]).goOn
  | .loop isUntil condition body => (process.push [.again isUntil condition body]).goOn
  | .each name words body =>
    let files := (← get).files
    let (values, session) := match words with
      | some words => fields files process.session words
      | none => (process.session.arguments, process.session)
    (({ process with session }).push [.each name values body]).goOn
  | .cases word arms =>
    let (text, session) := oneField process.session word
    let isMatch (word : Word) : Bool :=
      (Pattern.ofMarked (marked (wordPieces session word).1)).matchesAll text.toList
    let body := ((arms.find? fun (patterns, _) => patterns.any isMatch).map Prod.snd).getD .nothing
    ((({ process with session }).withStatus 0).push [.run body false]).goOn
  | .definition name body =>
    ((process.withSession fun session =>
      { session with functions := session.functions.insert name body }).withStatus 0).goOn

/-- Runs a command. Scripts in its words are run before, one after the other. -/
def runCommand (process : Process) (isFilled : Bool) (command : Command) : Step := do
  match command.firstPrinted with
  | none => process.runFilled isFilled command
  | some text =>
    match script text with
    | some inner =>
      let (buffer, machine) := (← get).addBuffer
      set machine
      (process.capture buffer inner (.fill buffer command)).goOn
    | none =>
      process.complain 1 "Syntax error"
      (process.exit 2).goOn

/-- Does what is to be done at the end of a script, which keeps its status. -/
def depart (process : Process) (action : String) : Step :=
  let words := ["exit", toString process.session.status].map fun text => [Part.text true text]
  let left := process.withSession fun session =>
    { session with traps := session.traps.filter fun (number, _) => number != 0 }
  (left.push [.run (.simple ⟨0, [], words, []⟩) true]).runText 0 action

/-- Does what is to be done next. -/
def runFrame (process : Process) (frame : Frame) : Step := do
  let isSuccess := process.session.status == 0
  match frame with
  | .run command isFilled => process.runCommand isFilled command
  | .both second => (if isSuccess then process.push [.run second false] else process).goOn
  | .either second => (if isSuccess then process else process.push [.run second false]).goOn
  | .negate => (process.withStatus (if isSuccess then 1 else 0)).goOn
  | .choose yes no =>
    ((process.withStatus 0).push [.run (if isSuccess then yes else no) false]).goOn
  | .again isUntil condition body =>
    (process.push [.run condition false, .enter isUntil condition body]).goOn
  | .enter isUntil condition body =>
    if isSuccess != isUntil then
      (process.push [.run body false, .again isUntil condition body]).goOn
    else (process.withStatus 0).goOn
  | .each name values body =>
    match values with
    | [] => process.goOn
    | value :: values =>
      ((process.withSession fun session =>
        { session with bindings := session.bindings.insert name value }).push
          [.run body false, .each name values body]).goOn
  | .restore descriptors => (process.withSession ({ · with descriptors })).goOn
  | .leave session =>
    match process.session.traps.lookup 0 with
    | some action => (process.push [frame]).depart action
    | none => (({ process with session }).complete process.session.status).goOn
  | .finish arguments locals =>
    (process.withSession fun session =>
      { session with
        arguments
        bindings := locals.foldl (fun bindings (name, value) =>
          match value with
          | some value => bindings.insert name value
          | none => bindings.erase name) session.bindings }).goOn
  | .fill buffer command =>
    let text := filling ((← get).bufferOf buffer)
    (process.push [.run (command.fill text) true]).goOn
  | .feed buffer command =>
    let bytes := (← get).bufferOf buffer
    let session := process.session
    ((process.push [.run command false, .leave session]).withSession fun session =>
      { session.inSubshell with
        descriptors := session.descriptors.set 0 (.source bytes) }).goOn

/-- One step of a process. -/
def step (process : Process) : Step :=
  match process.frames with
  | [] =>
    match process.session.traps.lookup 0 with
    | some action => process.depart action
    | none => process.finishWith (.code process.session.status)
  | frame :: frames => ({ process with frames }).runFrame frame

end Process

namespace Machine

/-- How a process has ended. -/
def ending? (machine : Machine) (id : Nat) : Option ExitStatus := machine.ended.lookup id

/-- A process that waits no longer, if it need not. -/
def awake? (machine : Machine) (process : Process) : Option Process :=
  match process.waiting with
  | .nothing => some process
  | .time due =>
    if due ≤ machine.clock then some { process with waiting := .nothing } else none
  | .children =>
    if machine.processes.any (·.parent == process.id) then none
    else some { process with waiting := .nothing }
  | .child id =>
    if machine.isAlive id then none
    else
      let status := match machine.ending? id with
        | some (.code value) => value
        | some (.signal number) => 128 + number
        | none => 127
      some ({ process with waiting := .nothing }.withStatus status)

/-- Cuts the first process that need not wait out of a list. -/
def cutAwake (machine : Machine) : (before : List Process) → List Process →
    Option (List Process × Process × List Process)
  | _, [] => none
  | before, process :: rest =>
    match machine.awake? process with
    | some awake => some (before.reverse, awake, rest)
    | none => cutAwake machine (process :: before) rest

/-- One step of the first process that need not wait. -/
def step? (machine : Machine) : Option Machine := do
  let (before, process, rest) ← machine.cutAwake [] machine.processes
  let (result, stepped) := process.step.run { machine with processes := before ++ rest }
  match result with
  | none => return stepped
  | some process =>
    let isBefore (other : Process) : Bool := before.any (·.id == other.id)
    return { stepped with
      processes := stepped.processes.filter isBefore ++ process ::
        stepped.processes.filter fun other => !isBefore other }

/-- Runs the processes until all of them wait or have ended, for so many steps at most. -/
def runFor : (fuel : Nat) → Machine → Machine
  | 0, machine => machine
  | fuel + 1, machine =>
    match machine.step? with
    | some stepped => runFor fuel stepped
    | none => machine

/-- The greatest number of steps that take no time. -/
def stepLimit : Nat := 5000000

/-- Runs the processes until all of them wait or have ended. -/
def run (machine : Machine) : Machine := machine.runFor stepLimit

/-- The time at which the first sleeping process wakes up. -/
def nextWake? (machine : Machine) : Option Nat :=
  (machine.processes.filterMap fun process =>
    match process.waiting with
    | .time due => some due
    | .nothing | .children | .child _ => none).min?

/-- Lets time pass until a sleeping process wakes up. -/
def sleep? (machine : Machine) : Option Machine :=
  machine.nextWake?.map fun due => { machine with clock := max machine.clock due }

/-- Ends all processes of a group. -/
def killGroup (machine : Machine) (group : Nat) : Machine :=
  machine.killWhere (·.group == group) 9

/-- Whether more can be printed to a channel of a group. -/
def isOpen (machine : Machine) (group : Nat) (channel : Channel) : Bool :=
  machine.processes.any fun process => process.group == group && process.holds channel

/-- What has been printed to the channels of a group, and the machine without it. -/
def takePrinted (machine : Machine) (group : Nat) : List (Channel × List UInt8) × Machine :=
  let (own, others) := machine.printed.toList.partition fun (owner, _) => owner == group
  (own.map Prod.snd, { machine with printed := others.toArray })

/-! ### Programs -/

/-- Where a search for programs looks in the system. -/
def systemDirectories : List String :=
  ["/usr/local/sbin", "/usr/local/bin", "/usr/sbin", "/usr/bin", "/sbin", "/bin"]

/-- Where the programs of the system are. -/
def programDirectories : List (List String) := [["usr", "bin"], ["bin"]]

/-- Whether names lead from the root to a directory of the system, or to one that such a directory
is in. -/
def isSystemDirectory (names : List String) : Bool :=
  systemDirectories.any fun directory => names.isPrefixOf (FileSystem.pathNames directory)

/-- Whether a name stands for a program. -/
def isProgram (name : String) : Bool :=
  isShell name || ["sleep", "test", "[", "kill", "pwd"].contains name
    || (Program.ofName? name).isSome

/-- Goes from the root on by a name of a path. The way back from a directory of the system is
known. -/
def stepDown (names : List String) (name : String) : List String :=
  if name = "." then names
  else if name = ".." ∧ isSystemDirectory names then names.dropLast
  else names ++ [name]

/-- The program that a path from the root leads to, or why there is none; nothing if that is not
up to the system. -/
def systemProgram? (path : String) : Option (Except FileError String) :=
  let written := FileSystem.pathNames path
  let names := written.foldl stepDown []
  if !path.startsWith "/" then none
  else if isSystemDirectory names then some (.error .permissionDenied)
  else
    match programDirectories.find? (·.isPrefixOf names) with
    | none => none
    | some directory =>
      match names.drop directory.length with
      | [] => none
      | name :: others =>
        if !isProgram name then none
        else if others.isEmpty ∧ written.getLast? = some name then some (.ok name)
        else some (.error .notDirectory)

/-- The program that a path leads to. It must be where programs are; other files and directories
cannot be run. -/
def programAt (files : FileSystem) (here : Location) (path : String) : Except FileError String :=
  (systemProgram? path).getD <|
    match files.find true here path with
    | .ok _ => .error .permissionDenied
    | .error fault => .error fault

/-- The program of a name that is found first in directories, of which an empty one is where the
search is made, and so is one that no path is long enough for. A program that cannot be run is
passed over, and so is a directory that is none. -/
def searched (files : FileSystem) (here : Location) (name : String) (isRefused : Bool) :
    (directories : List String) → Except FileError String
  | [] => .error (if isRefused then .permissionDenied else .notFound)
  | directory :: others =>
    let isHere := directory.isEmpty || FileSystem.pathLimit ≤ directory.utf8ByteSize
    match programAt files here (if isHere then name else directory ++ "/" ++ name) with
    | .ok program => .ok program
    | .error .permissionDenied => searched files here name true others
    | .error .notFound | .error .notDirectory => searched files here name isRefused others
    | .error fault => .error fault

/-- The program that is to be started. One that is not given by a path is searched for. -/
def programNamed (files : FileSystem) (here : Location) (directories : List String)
    (program : String) : Except FileError String :=
  if program.isEmpty then .error .notFound
  else if program.contains '/' then programAt files here program
  else if FileSystem.nameLimit < program.utf8ByteSize then .error .nameTooLong
  else searched files here program false directories

/-- What a program is about to do. A shell that cannot read its script complains. -/
def programFrames (files : FileSystem) (here : Location) (name : String)
    (arguments : List String) : List Frame :=
  let words (texts : List String) : List Word := texts.map fun text => [.text true text]
  let simple (texts : List String) (redirects : List Redirect) : Frame :=
    .run (.simple ⟨0, [], words texts, redirects⟩) true
  let complaint (text : String) : List Frame :=
    [simple ["echo", text] [⟨1, .duplicate, [.text true "2"]⟩], simple ["exit", "2"] []]
  if isShell name then
    match arguments with
    | [] => []
    | path :: _ =>
      match files.read here path with
      | .error fault => complaint s!"{name}: 0: {openComplaint false path fault}"
      | .ok bytes =>
        match script (Utf8.lossy bytes.toList) with
        | some command => [.run command false]
        | none => complaint s!"{path}: 1: Syntax error"
  else [simple (name :: arguments) []]

/-- Starts a program in a directory, in a group of its own. It is searched for in directories. What
comes out is the number of the process and of the group. -/
def spawn (machine : Machine) (here : Location) (directory program : String)
    (arguments directories : List String) : Except FileError (Nat × Machine) := do
  let place ← machine.files.directory here directory
  let name ← programNamed machine.files place directories program
  let id := machine.nextId
  let channels : Descriptors :=
    [(0, .source []), (1, .sink (.channel id .out)), (2, .sink (.channel id .err))]
  let session : Session :=
    { name := if isShell name then arguments.headD name else name
      arguments := arguments.tail
      bindings := (∅ : Variables).insert "PATH" (":".intercalate directories)
      functions := ∅
      directory := place
      descriptors := channels
      id
      status := 0
      background := none
      stopsOnFailure := false
      exported := ["PATH"]
      traps := [] }
  let process : Process :=
    ⟨id, 0, id, programFrames machine.files place name arguments, session, .nothing⟩
  return (id, { machine with nextId := id + 1, processes := machine.processes ++ [process] })

end Machine
end Cartridge.Shell
