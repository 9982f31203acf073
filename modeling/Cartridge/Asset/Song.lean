import Cartridge.Bytecode.Instruction
import Cartridge.Text.Fixed
import Cartridge.Text.Line
import Cartridge.Text.Utf8

/-!
# Songs

A song is a text of one note per line. Blank lines and lines that start with `#` do not count. A
note is a letter, then `-` or `#`, then an octave; three dashes are a rest. Its row is the register
that makes the sound channel play the note's frequency.

* `Note.register` — the register of a note, or why it has none.
* `Song.payload` — the payload of a song, or its first bad line.
-/

namespace Cartridge

/-- An operation on numbers of 32 bits whose result does not have 32 bits. The program crashes
there. -/
inductive Overflow where
  | add
  | multiply
  | subtract
  deriving DecidableEq, Repr

/-- What is said of the operation when the program crashes. -/
def Overflow.message : Overflow → String
  | add => "attempt to add with overflow"
  | multiply => "attempt to multiply with overflow"
  | subtract => "attempt to subtract with overflow"

namespace Note

/-- Why a line is no note of the channel. -/
inductive Fault where
  | badLetter
  | badAccidental
  | badOctave
  /-- The frequency is beyond the channel. -/
  | outOfRange (frequency : String)
  /-- The number of the note cannot be computed. The line is not just refused: the program
  crashes. -/
  | overflow (operation : Overflow)
  deriving DecidableEq, Repr

/-- What is wrong with a line. -/
def Fault.reason (note : String) : Fault → String
  | badLetter => s!"`{note}` is not a note"
  | badAccidental => s!"`{note}` needs `-` or `#` after the letter"
  | badOctave => s!"`{note}` has no valid octave"
  | outOfRange frequency => s!"`{note}` ({frequency} Hz) is outside the channel's range"
  | overflow operation => operation.message

/-- The semitone of a letter within its octave. -/
def semitone? (letter : Char) : Option Int32 :=
  match letter.toUpper with
  | 'C' => some 0
  | 'D' => some 2
  | 'E' => some 4
  | 'F' => some 5
  | 'G' => some 7
  | 'A' => some 9
  | 'B' => some 11
  | _ => none

/-- A whole number of 32 bits in decimal digits, with or without a sign. -/
def octave? (text : List Char) : Option Int32 :=
  let (isNegative, digits) := match text with
    | '-' :: rest => (true, rest)
    | '+' :: rest => (false, rest)
    | rest => (false, rest)
  if digits.isEmpty || !digits.all Char.isDigit then none
  else
    let size := digits.foldl (fun value digit =>
      if value < 0x10000000000 then value * 10 + (digit.toNat - '0'.toNat) else value) 0
    let value : Int := if isNegative then -size else size
    if -0x80000000 ≤ value ∧ value < 0x80000000 then some (Int32.ofInt value) else none

/-- The result of an operation, if it has 32 bits. -/
def checked (operation : Overflow) (result : Int) : Except Overflow Int32 :=
  if -0x80000000 ≤ result ∧ result < 0x80000000 then .ok (Int32.ofInt result)
  else .error operation

/-- The number of a semitone, counted from the concert pitch. It is computed in 32 bits, one
operation after the other. -/
def pitch (semitone octave : Int32) : Except Overflow Int32 := do
  let next ← checked .add (octave.toInt + 1)
  let scaled ← checked .multiply (next.toInt * 12)
  let raised ← checked .add (scaled.toInt + semitone.toInt)
  checked .subtract (raised.toInt - 69)

/-- The frequency of a pitch in Hertz. -/
def frequency (pitch : Int32) : Float :=
  440.0 * Float.pow 2.0 (Float.ofInt pitch.toInt / 12.0)

/-- The register that makes the channel play a frequency: a whole number below 2048. -/
def registerOf (frequency : Float) : Option UInt16 :=
  let exact := (2048.0 - 131072.0 / frequency).round
  if 0.0 ≤ exact && exact < 2048.0 then some exact.toUInt16 else none

/-- The register of a note. -/
def register (note : List Char) : Except Fault UInt16 :=
  if note = ['-', '-', '-'] then .ok 0
  else
    match (note.head?).bind semitone? with
    | none => .error .badLetter
    | some natural =>
      let semitone : Option Int32 := match note.tail with
        | '#' :: _ => some (natural + 1)
        | '-' :: _ => some natural
        | _ => none
      match semitone with
      | none => .error .badAccidental
      | some semitone =>
        match octave? (note.drop 2) with
        | none => .error .badOctave
        | some octave =>
          match pitch semitone octave with
          | .error operation => .error (.overflow operation)
          | .ok pitch =>
            let played := frequency pitch
            match registerOf played with
            | some register => .ok register
            | none => .error (.outOfRange (Fixed.oneDecimal played))

end Note

namespace Song

/-- Why a file is no song. -/
inductive Fault where
  | notText (fault : Utf8.Fault)
  /-- The line of that number, counted from one, is no note. -/
  | badLine (number : Nat) (note : String) (fault : Note.Fault)
  | tooManyRows (count : Nat)
  deriving DecidableEq, Repr

/-- Whether a line says nothing about the song. -/
def isRemark (line : List Char) : Bool :=
  match line with
  | [] => true
  | first :: _ => first == '#'

/-- The registers of the lines that hold notes; the lines are given with their numbers. -/
def rows (lines : List (List Char × Nat)) : Except Fault (List UInt16) :=
  (lines.filter fun (line, _) => !isRemark line).mapM fun (line, number) =>
    match Note.register line with
    | .ok register => .ok register
    | .error fault => .error (.badLine number (String.ofList line) fault)

/-- The payload of a song: the number of rows, then the rows. -/
def payload (bytes : List UInt8) : Except Fault (List UInt8) := do
  match Utf8.decode bytes with
  | .error fault => throw (.notText fault)
  | .ok text =>
    let rows ← rows (((lines text.toList).map trim).zipIdx 1)
    if 65535 < rows.length then throw (.tooManyRows rows.length)
    return littleEndian (UInt16.ofNat rows.length) ++ rows.flatMap littleEndian

end Song
end Cartridge
