import Cartridge.Build.Error
import Cartridge.Build.Event

/-!
# Watching a build program

While the build program runs, its lines are reported, and the lines that could tell why it failed
are kept. When it has ended, they and its exit status decide.

* `Supervision.receive`, `Supervision.close` — what is reported when output comes or ends.
* `Supervision.verdict` — whether the build succeeded.
-/

namespace Cartridge

/-- How a program ended. -/
inductive ExitStatus where
  | code (value : Nat)
  | signal (number : Nat)
  deriving DecidableEq, Repr

namespace ExitStatus

/-- Whether a program ended as one does that has done its work. -/
def isSuccess (status : ExitStatus) : Bool := status = code 0

/-- The names of the signals, from the first one on. -/
def signalNames : List String :=
  ["HUP", "INT", "QUIT", "ILL", "TRAP", "ABRT", "BUS", "FPE", "KILL", "USR1", "SEGV", "USR2",
    "PIPE", "ALRM", "TERM", "STKFLT", "CHLD", "CONT", "STOP", "TSTP", "TTIN", "TTOU", "URG", "XCPU",
    "XFSZ", "VTALRM", "PROF", "WINCH", "IO", "PWR", "SYS"]

/-- The name of a signal, if it has one, as a remark on its number. -/
def signalRemark (number : Nat) : String :=
  match number with
  | 0 => ""
  | before + 1 =>
    match signalNames[before]? with
    | some name => s!" (SIG{name})"
    | none => ""

/-- The signals that a process does not notice unless it wants to. -/
def quietSignals : List Nat := [0, 17, 18, 23, 28]

/-- How a program ended, in words. -/
def description : ExitStatus → String
  | code value => s!"exit status: {value}"
  | signal number => s!"signal: {number}{signalRemark number}"

end ExitStatus

/-- What is known of a running build program. -/
structure Supervision where
  out : LineBuffer
  err : LineBuffer
  /-- The last line of errors. -/
  lastError : Option String
  /-- The last line of errors that holds the marker. -/
  lastFatal : Option String
  deriving DecidableEq, Repr

namespace Supervision

/-- Nothing is known. -/
def start : Supervision := ⟨.empty, .empty, none, none⟩

/-- Whether characters come somewhere in others. -/
def occursIn (marker : List Char) : List Char → Bool
  | [] => marker.isEmpty
  | first :: rest => marker.isPrefixOf (first :: rest) || occursIn marker rest

/-- They do exactly if they are an infix. -/
theorem occursIn_iff (marker text : List Char) :
    occursIn marker text = true ↔ marker <:+: text := by
  induction text with
  | nil => simp [occursIn]
  | cons first rest ih =>
    rw [occursIn, Bool.or_eq_true, ih, List.isPrefixOf_iff_prefix, List.infix_cons_iff]

/-- Whether a text holds a marker. -/
def holds (text marker : String) : Bool := occursIn marker.toList text.toList

/-- Keeps a line of errors. -/
def note (marker : String) (supervision : Supervision) (text : String) : Supervision :=
  { supervision with
    lastError := some text
    lastFatal := if holds text marker then some text else supervision.lastFatal }

/-- Reports lines of a channel. -/
def report (marker : String) (supervision : Supervision) (channel : Channel)
    (lines : List (List UInt8)) : Supervision × List BuildEvent :=
  let texts := lines.map lineText
  let noted := match channel with
    | .out => supervision
    | .err => texts.foldl (note marker) supervision
  (noted, texts.map (BuildEvent.line channel))

/-- Takes in what the program has printed. -/
def receive (marker : String) (supervision : Supervision) (channel : Channel)
    (bytes : List UInt8) : Supervision × List BuildEvent :=
  match channel with
  | .out =>
    let (out, lines) := supervision.out.feed bytes
    ({ supervision with out }).report marker .out lines
  | .err =>
    let (err, lines) := supervision.err.feed bytes
    ({ supervision with err }).report marker .err lines

/-- Takes in that nothing more is printed. -/
def close (marker : String) (supervision : Supervision) (channel : Channel) :
    Supervision × List BuildEvent :=
  match channel with
  | .out => ({ supervision with out := .empty }).report marker .out supervision.out.rest
  | .err => ({ supervision with err := .empty }).report marker .err supervision.err.rest

/-- Whether a build program that has ended has succeeded. A marked line tells why it has failed,
else the last line of errors, else how it ended. -/
def verdict (supervision : Supervision) (program : String) (status : ExitStatus) :
    Except BuildError Unit :=
  if status.isSuccess && supervision.lastFatal.isNone then .ok ()
  else
    let reason := (supervision.lastFatal <|> supervision.lastError).getD
      s!"{program} exited with {status.description}"
    .error (.toolchain reason)

end Supervision
end Cartridge
