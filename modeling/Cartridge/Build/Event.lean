import Cartridge.Text.Utf8

/-!
# What a build reports

A build reports the lines that its program prints, and at the end that it is complete. The program's
output comes in pieces that know nothing of lines.

* `LineBuffer.feed`, `LineBuffer.rest` — the lines of bytes that come in pieces.
* `lineText` — the text of a line.
-/

namespace Cartridge

/-- Where a program prints a line. -/
inductive Channel where
  | out
  | err
  deriving DecidableEq, Repr

/-- What a build reports. -/
inductive BuildEvent where
  | line (channel : Channel) (text : String)
  /-- The build is over; a message says why it failed. -/
  | complete (error : Option String)
  deriving DecidableEq, Repr

/-- Whether a build is over. -/
def BuildEvent.isComplete : BuildEvent → Bool
  | line _ _ => false
  | complete _ => true

/-- The beginning of a line whose end has not come, the last byte first. -/
structure LineBuffer where
  begun : List UInt8
  deriving DecidableEq, Repr

namespace LineBuffer

/-- No line has begun. -/
def empty : LineBuffer := ⟨[]⟩

/-- The byte that ends a line. -/
def lineFeed : UInt8 := 0x0A

/-- Takes in a byte, after the lines that have ended, the last one first. -/
def take (state : LineBuffer × List (List UInt8)) (byte : UInt8) : LineBuffer × List (List UInt8) :=
  if byte == lineFeed then (empty, state.1.begun.reverse :: state.2)
  else (⟨byte :: state.1.begun⟩, state.2)

/-- Takes in some bytes; what comes out are the lines that have ended. -/
def feed (buffer : LineBuffer) (bytes : List UInt8) : LineBuffer × List (List UInt8) :=
  let (buffer, ended) := bytes.foldl take (buffer, [])
  (buffer, ended.reverse)

/-- The line that ends because nothing more comes. -/
def rest (buffer : LineBuffer) : List (List UInt8) :=
  if buffer.begun.isEmpty then [] else [buffer.begun.reverse]

end LineBuffer

/-- A line without the carriage return at its end. -/
def withoutReturn (line : List UInt8) : List UInt8 :=
  if line.getLast? = some 0x0D then line.dropLast else line

/-- The text of a line. -/
def lineText (line : List UInt8) : String := Utf8.lossy (withoutReturn line)

end Cartridge
