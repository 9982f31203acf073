import Cartridge.Text.Encoded
import Cartridge.Text.Hex

/-!
# Numbers and strings in generated sources

* `Literal.ofText` — the inside of a string literal: printable ASCII, with an escape for every other
  byte. An escape has three octal digits, so that a digit behind it never belongs to it.
* `Literal.ofByte`, `Literal.ofOffset` — hexadecimal numbers.
-/

namespace Cartridge.Literal

/-- An octal digit of a number, the lowest one having the place zero. -/
def octalDigit (value place : Nat) : Char := Char.ofNat ('0'.toNat + value >>> (3 * place) % 8)

/-- How a byte is written in a string literal. -/
def escaped (byte : UInt8) : List Char :=
  if byte == 0x22 then ['\\', '"']
  else if byte == 0x5C then ['\\', '\\']
  else if 0x20 ≤ byte && byte ≤ 0x7E then [Char.ofNat byte.toNat]
  else ['\\', octalDigit byte.toNat 2, octalDigit byte.toNat 1, octalDigit byte.toNat 0]

/-- The inside of the string literal of a text. -/
def ofText (text : String) : String :=
  String.ofList ((encoded text).flatMap escaped)

/-- A byte in a list of data. -/
def ofByte (byte : UInt8) : String := "0x" ++ Hex.upper 2 byte.toNat

/-- An offset into a bank. -/
def ofOffset (offset : Nat) : String := "0x" ++ Hex.lower 4 offset

/-- A number with at least three decimal digits. -/
def ofBank (index : UInt16) : String :=
  let digits := (Nat.toDigits 10 index.toNat)
  String.ofList (List.replicate (3 - digits.length) '0' ++ digits)

end Cartridge.Literal
