/-!
# Reading UTF-8

Bytes are cut into pieces from left to right: characters, and runs of bytes that are none. A run
that is none is as long as it could still have become a character.

* `Utf8.pieces` — the pieces of a list of bytes.
* `Utf8.decode` — the text of bytes that hold characters only, or the first fault.
* `Utf8.lossy` — the text of any bytes, with U+FFFD in place of what is no character.
-/

namespace Cartridge.Utf8

/-- What stands at the head of some bytes. -/
inductive Piece where
  | char (value : Char)
  /-- Bytes that cannot belong to a character. -/
  | invalid (width : Nat)
  /-- The bytes end in the middle of a character. -/
  | incomplete
  deriving DecidableEq, Repr

/-- Whether a byte can follow the first one of a character. -/
def isContinuation (byte : UInt8) : Bool := byte &&& 0xC0 == 0x80

/-- The bits of a continuation byte that count. -/
def payload (byte : UInt8) : Nat := (byte &&& 0x3F).toNat

/-- Whether a second byte can follow a first one. -/
def isSecond (first second : UInt8) : Bool :=
  if first == 0xE0 then 0xA0 ≤ second && second ≤ 0xBF
  else if first == 0xED then 0x80 ≤ second && second ≤ 0x9F
  else if first == 0xF0 then 0x90 ≤ second && second ≤ 0xBF
  else if first == 0xF4 then 0x80 ≤ second && second ≤ 0x8F
  else isContinuation second

/-- How many bytes a character that starts with a byte has; zero if none does. -/
def widthOf (first : UInt8) : Nat :=
  if first < 0x80 then 1
  else if first < 0xC2 then 0
  else if first < 0xE0 then 2
  else if first < 0xF0 then 3
  else if first < 0xF5 then 4
  else 0

/-- The piece that starts with a byte, and how many of the bytes behind it belong to it. -/
def piece (first : UInt8) (rest : List UInt8) : Piece × Nat :=
  let lead := first.toNat
  match widthOf first, rest with
  | 1, _ => (.char (Char.ofNat lead), 0)
  | 0, _ => (.invalid 1, 0)
  | _, [] => (.incomplete, 0)
  | width, second :: rest =>
    if !isSecond first second then (.invalid 1, 0)
    else if width = 2 then (.char (Char.ofNat ((lead - 0xC0) * 64 + payload second)), 1)
    else
      match rest with
      | [] => (.incomplete, 1)
      | third :: rest =>
        if !isContinuation third then (.invalid 2, 1)
        else if width = 3 then
          (.char (Char.ofNat (((lead - 0xE0) * 64 + payload second) * 64 + payload third)), 2)
        else
          match rest with
          | [] => (.incomplete, 2)
          | fourth :: _ =>
            if !isContinuation fourth then (.invalid 3, 2)
            else (.char (Char.ofNat ((((lead - 0xF0) * 64 + payload second) * 64
              + payload third) * 64 + payload fourth)), 3)

/-- The pieces of some bytes, onto the pieces before them, the last one first. -/
def piecesOnto (before : List Piece) : List UInt8 → List Piece
  | [] => before.reverse
  | first :: rest =>
    let (found, taken) := piece first rest
    piecesOnto (found :: before) (rest.drop taken)
termination_by bytes => bytes.length
decreasing_by
  simp only [List.length_drop, List.length_cons]
  omega

/-- The pieces of some bytes. -/
def pieces (bytes : List UInt8) : List Piece := piecesOnto [] bytes

/-- Where some bytes stop to be UTF-8. -/
inductive Fault where
  /-- That many bytes from that place on cannot belong to a character. -/
  | invalid (width index : Nat)
  /-- The bytes end in a character that starts at that place. -/
  | incomplete (index : Nat)
  deriving DecidableEq, Repr

/-- The message for bytes that are not UTF-8. -/
def Fault.message : Fault → String
  | invalid width index => s!"invalid utf-8 sequence of {width} bytes from index {index}"
  | incomplete index => s!"incomplete utf-8 byte sequence from index {index}"

/-- The text of pieces that are characters, behind a text that ends at `index`. -/
def gather (before : String) (index : Nat) : List Piece → Except Fault String
  | [] => .ok before
  | .char value :: rest => gather (before.push value) (index + value.utf8Size) rest
  | .invalid width :: _ => .error (.invalid width index)
  | .incomplete :: _ => .error (.incomplete index)

/-- The text of bytes that hold characters only. -/
def decode (bytes : List UInt8) : Except Fault String := gather "" 0 (pieces bytes)

/-- The character that a piece is shown as. -/
def Piece.shown : Piece → Char
  | char value => value
  | invalid _ | incomplete => '\uFFFD'

/-- The text of any bytes. -/
def lossy (bytes : List UInt8) : String := String.ofList ((pieces bytes).map Piece.shown)

end Cartridge.Utf8
