import Cartridge.Build.Supervision
import Cartridge.Shell.Condition
import Cartridge.Shell.Expansion
import Cartridge.Shell.Grammar
import Cartridge.Shell.Program

/-!
# Running scripts

A machine has files and processes. A process has a session and a stack of frames: what it is about
to do. Time passes only while all processes wait.

* `Process.step` — one step of a process.
* `Machine.run` — runs the processes until all of them wait or have ended.
* `Machine.spawn` — starts a program in a group of processes of its own.
-/

namespace Cartridge.Shell

/-- What a process is about to do. -/
inductive Frame where
  /-- Runs a command. It has been filled in, at least in part, if it says so. -/
  | run (command : Command) (isFilled : Bool)
  /-- Runs a command if the one before succeeded. -/
  | both (second : Command)
  /-- Runs a command if the one before failed. -/
  | either (second : Command)
  | negate
  | choose (yes no : Command)
  /-- Begins the next round of a loop. -/
  | again (isUntil : Bool) (condition body : Command)
  /-- Begins the body of a loop, or ends the loop. -/
  | enter (isUntil : Bool) (condition body : Command)
  | each (name : String) (values : List String) (body : Command)
  /-- Puts descriptors back. -/
  | restore (descriptors : Descriptors)
  /-- Leaves a subshell. -/
  | leave (session : Session)
  /-- Leaves a function. The variables of its own get the values back that they had. -/
  | finish (arguments : List String) (locals : List (String × Option String))
  /-- Fills the contents of a buffer into a command, and runs it. -/
  | fill (buffer : Nat) (command : Command)
  /-- Lets a command read the contents of a buffer. -/
  | feed (buffer : Nat) (command : Command)

/-- What a process waits for. -/
inductive Waiting where
  | nothing
  | time (due : Nat)
  | children
  | child (id : Nat)
  deriving DecidableEq, Repr

/-- A process. -/
structure Process where
  id : Nat
  parent : Nat
  /-- The processes that are watched, and killed, together. -/
  group : Nat
  frames : List Frame
  session : Session
  waiting : Waiting

/-- What scripts run on. -/
structure Machine where
  files : FileSystem
  /-- What commands have printed for other commands. -/
  buffers : Array ByteArray
  /-- What has been printed for those who watch groups of processes. -/
  printed : Array (Nat × Channel × List UInt8)
  /-- The time, in milliseconds. -/
  clock : Nat
  nextId : Nat
  processes : List Process
  /-- How processes have ended. -/
  ended : List (Nat × ExitStatus)

namespace Machine

/-- A machine without processes. -/
def start (files : FileSystem) : Machine := ⟨files, #[], #[], 0, 4242, [], []⟩

/-- Whether a process has not ended. -/
def isAlive (machine : Machine) (id : Nat) : Bool := machine.processes.any (·.id == id)

/-- Prints bytes. -/
def write (machine : Machine) (sink : Sink) (bytes : List UInt8) : Machine :=
  match sink with
  | .nowhere => machine
  | .channel group channel =>
    { machine with printed := machine.printed.push (group, channel, bytes) }
  | .buffer index =>
    { machine with buffers := machine.buffers.modify index fun before =>
        bytes.foldl ByteArray.push before }
  | .file place =>
    match machine.files.node? place with
    | some (.file before) =>
      { machine with files := machine.files.put place (.file (bytes.foldl ByteArray.push before)) }
    | _ => machine

/-- Adds an empty buffer. -/
def addBuffer (machine : Machine) : Nat × Machine :=
  (machine.buffers.size, { machine with buffers := machine.buffers.push ByteArray.empty })

/-- What is in a buffer. -/
def bufferOf (machine : Machine) (index : Nat) : List UInt8 :=
  (machine.buffers.getD index ByteArray.empty).toList

/-- Ends processes by a signal. -/
def killWhere (machine : Machine) (isMeant : Process → Bool) (signal : Nat) : Machine :=
  if ExitStatus.quietSignals.contains signal then machine
  else
    { machine with
      processes := machine.processes.filter fun process => !isMeant process
      ended := (machine.processes.filter isMeant).map (fun process => (process.id, .signal signal))
        ++ machine.ended }

end Machine

/-! ### Filling in commands -/

/-- The words of a command that are filled in when it is run. -/
def Command.ownWords : Command → List Word
  | .simple ⟨_, assignments, words, redirects⟩ =>
    words ++ assignments.map Prod.snd ++ redirects.map Redirect.word
  | .redirected _ _ redirects => redirects.map Redirect.word
  | .each _ (some words) _ => words
  | .cases word _ => [word]
  | _ => []

/-- The first script in the words of a command, whose print is to be filled in. -/
def Command.firstPrinted (command : Command) : Option String :=
  command.ownWords.flatten.findSome? fun part =>
    match part with
    | .printed _ script => some script
    | _ => none

/-- Fills a text into the first part of a word that is a script. What comes out tells whether the
text is still to be filled in elsewhere. -/
def fillWord (text : String) : (isWanted : Bool) → Word → Word × Bool
  | isWanted, [] => ([], isWanted)
  | true, .printed quoted _ :: rest => (.filled quoted text :: rest, false)
  | isWanted, part :: rest =>
    let (filled, isWanted) := fillWord text isWanted rest
    (part :: filled, isWanted)

/-- Fills a text into the first of some words that holds a script. -/
def fillAll {α : Type} (text : String) (word : α → Word) (put : α → Word → α) (isWanted : Bool)
    (items : List α) : List α × Bool :=
  let (filled, isWanted) := items.foldl (fun (done, isWanted) item =>
    let (filled, isWanted) := fillWord text isWanted (word item)
    (put item filled :: done, isWanted)) (([] : List α), isWanted)
  (filled.reverse, isWanted)

/-- Fills a text into a command in place of the first script in its words. -/
def Command.fill (text : String) : Command → Command
  | .simple ⟨line, assignments, words, redirects⟩ =>
    let (words, isWanted) := fillAll text id (fun _ word => word) true words
    let (assignments, isWanted) :=
      fillAll text Prod.snd (fun (name, _) word => (name, word)) isWanted assignments
    let (redirects, _) :=
      fillAll text Redirect.word (fun redirect word => { redirect with word }) isWanted redirects
    .simple ⟨line, assignments, words, redirects⟩
  | .redirected line body redirects =>
    .redirected line body
      (fillAll text Redirect.word (fun redirect word => { redirect with word }) true redirects).1
  | .each name (some words) body =>
    .each name (some (fillAll text id (fun _ word => word) true words).1) body
  | .cases word arms => .cases (fillWord text true word).1 arms
  | command => command

/-- What a script has printed, as it is filled into a command: without line ends at its end. -/
def filling (bytes : List UInt8) : String :=
  Utf8.lossy ((bytes.reverse.dropWhile (· == 0x0A)).reverse.filter (· != 0))

/-! ### Redirections -/

/-- The descriptor that a path of a device leads to. -/
def device? (descriptors : Descriptors) (path : String) : Option (Option Descriptor) :=
  match path with
  | "/dev/null" => some (some (.sink .nowhere))
  | "/dev/stdin" => some (descriptors.lookup 0)
  | "/dev/stdout" => some (descriptors.lookup 1)
  | "/dev/stderr" => some (descriptors.lookup 2)
  | _ => none

/-- The words for a file that cannot be opened. -/
def openComplaint (isCreated : Bool) (path : String) (fault : FileError) : String :=
  let reason := match fault with
    | .notFound => if isCreated then "Directory nonexistent" else "No such file"
    | fault => fault.description
  if isCreated then s!"cannot create {path}: {reason}" else s!"cannot open {path}: {reason}"

/-- Redirects a descriptor. -/
def redirectOne (files : FileSystem) (session : Session) (redirect : Redirect) :
    Except String (FileSystem × Session) :=
  let (text, session) := oneField session redirect.word
  let here := session.directory
  let descriptors := session.descriptors
  let done (files : FileSystem) (descriptor : Descriptor) :
      Except String (FileSystem × Session) :=
    .ok (files, { session with
      descriptors := descriptors.set redirect.descriptor descriptor })
  match redirect.redirection with
  | .document => done files (.source (encoded text))
  | .duplicate =>
    if text = "-" then
      .ok (files, { session with
        descriptors := descriptors.filter fun (number, _) => number != redirect.descriptor })
    else
      match (text.toNat?).bind fun number => descriptors.lookup number with
      | some descriptor => done files descriptor
      | none => .error s!"{text}: Bad file descriptor"
  | .read =>
    match device? descriptors text with
    | some (some (.source bytes)) => done files (.source bytes)
    | some _ => done files (.source [])
    | none =>
      match files.read here text with
      | .ok bytes => done files (.source bytes.toList)
      | .error fault => .error (openComplaint false text fault)
  | .write | .append =>
    match device? descriptors text with
    | some (some (.sink sink)) => done files (.sink sink)
    | some _ => done files (.sink .nowhere)
    | none =>
      let isKept := redirect.redirection = .append && files.isPresent here text
      let created : Except FileError (FileSystem × Location) := do
        let place ← files.locate true here text
        if isKept then
          let _ ← files.read here text
          return (files, place)
        return (← files.write here text ByteArray.empty, place)
      match created with
      | .ok (files, place) => done files (.sink (.file place))
      | .error fault => .error (openComplaint true text fault)

/-- Redirects descriptors one after the other. -/
def redirectAll (files : FileSystem) (session : Session) (redirects : List Redirect) :
    Except String (FileSystem × Session) :=
  redirects.foldlM (fun (files, session) redirect => redirectOne files session redirect)
    (files, session)

/-! ### Frames -/

namespace Process

/-- Gives a process a session. -/
def withSession (process : Process) (change : Session → Session) : Process :=
  { process with session := change process.session }

/-- Notes how a command has ended. -/
def withStatus (process : Process) (status : Nat) : Process :=
  process.withSession ({ · with status })

/-- Whether a failure is looked at by what is to be done next. -/
def isTested (process : Process) : Bool :=
  process.frames.any fun frame =>
    match frame with
    | .both _ | .either _ | .negate | .choose _ _ | .enter _ _ _ => true
    | _ => false

/-- Ends the script, or the innermost subshell, with a status. -/
def exit (process : Process) (status : Nat) : Process :=
  let rest := process.frames.dropWhile fun frame =>
    match frame with
    | .leave _ => false
    | _ => true
  ({ process with frames := rest }).withStatus status

/-- Notes how a command has ended, which may end the script. -/
def complete (process : Process) (status : Nat) : Process :=
  if status != 0 && process.session.stopsOnFailure && !process.isTested then process.exit status
  else process.withStatus status

/-- Runs a command next. -/
def push (process : Process) (frames : List Frame) : Process :=
  { process with frames := frames ++ process.frames }

/-- Runs a command in a subshell whose print goes into a buffer. -/
def capture (process : Process) (buffer : Nat) (command : Command) (next : Frame) : Process :=
  let session := process.session
  (process.push [.run command false, .leave session, next]).withSession fun session =>
    { session.inSubshell with
      descriptors := session.descriptors.set 1 (.sink (.buffer buffer)) }

/-- Whether a frame stands for a loop. -/
def isLoop : Frame → Bool
  | .again _ _ _ | .each _ _ _ => true
  | _ => false

/-- Whether a frame is the end of a subshell or a function. -/
def isBoundary : Frame → Bool
  | .leave _ | .finish _ _ => true
  | _ => false

/-- The frames from the innermost loops on, if there are so many. The loop itself is left, or else
gone on with. -/
def unwindLoops (leaves : Bool) : (count : Nat) → List Frame → Option (List Frame)
  | _, [] => none
  | count, frame :: rest =>
    if isBoundary frame then none
    else if isLoop frame then
      if count ≤ 1 then some (if leaves then rest else frame :: rest)
      else unwindLoops leaves (count - 1) rest
    else unwindLoops leaves count rest

/-- Returns from the innermost function, or ends the script. -/
def leaveFunction (process : Process) (status : Nat) : Process :=
  let rest := process.frames.dropWhile fun frame => !isBoundary frame
  match rest with
  | .finish _ _ :: _ => ({ process with frames := rest }).withStatus status
  | _ => process.exit status

/-- Whether something of a process leads to a channel. -/
def holds (process : Process) (channel : Channel) : Bool :=
  let leads (descriptors : Descriptors) : Bool :=
    descriptors.any fun (_, descriptor) => descriptor == .sink (.channel process.group channel)
  leads process.session.descriptors
    || process.frames.any fun frame =>
      match frame with
      | .restore descriptors => leads descriptors
      | .leave session => leads session.descriptors
      | _ => false

end Process
end Cartridge.Shell
