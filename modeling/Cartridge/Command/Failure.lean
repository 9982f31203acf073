import Cartridge.Build.Error
import Cartridge.Game
import Cartridge.Json.Fault

/-!
# Failures of a command

* `Failure.message` — the message for a command that has failed: what was being done, from the
  outermost activity to the innermost, and then what went wrong.
* `Failure.report`, `Failure.code` — what the program says last, and the code that it ends with.
-/

namespace Cartridge

/-- What goes wrong when a command is carried out. -/
inductive Cause where
  | file (fault : FileError)
  | json (fault : Json.Fault)
  | game (error : GameError)
  | build (error : BuildError)

/-- The message for what went wrong. -/
def Cause.message : Cause → String
  | file fault => fault.message
  | json fault => fault.message
  | game error => error.message
  | build error => error.message

/-- The operation at which the program crashes, instead of saying what went wrong. -/
def Cause.crash? : Cause → Option Overflow
  | game (.assets (.crash operation)) => some operation
  | _ => none

/-- A command that has failed. -/
structure Failure where
  cause : Cause
  /-- What was being done, the outermost activity first. -/
  context : List String

namespace Failure

/-- Something that went wrong while nothing worth mentioning was being done. -/
def of (cause : Cause) : Failure := ⟨cause, []⟩

/-- A failure while something was being done. -/
def during (activity : String) (failure : Failure) : Failure :=
  { failure with context := activity :: failure.context }

/-- Names what is being done in case it fails. -/
def within {α : Type} (activity : String) (result : Except Failure α) : Except Failure α :=
  result.mapError (during activity)

/-- The message for a command that has failed. -/
def message (failure : Failure) : String :=
  ": ".intercalate (failure.context ++ [failure.cause.message])

/-- What the program says last. -/
def report (failure : Failure) : String :=
  match failure.cause.crash? with
  | some operation => operation.message
  | none => "error: " ++ failure.message

/-- The code that the program ends with. -/
def code (failure : Failure) : UInt32 := if failure.cause.crash?.isSome then 101 else 1

end Failure
end Cartridge
