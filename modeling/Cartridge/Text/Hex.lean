/-!
# Hexadecimal text

* `Hex.lower`, `Hex.upper` — a number with hexadecimal digits and at least so many of them.
-/

namespace Cartridge.Hex

/-- A number in hexadecimal digits, small letters for the digits from ten on, filled up with zeros
to `width` digits. -/
def lower (width value : Nat) : String :=
  let digits := Nat.toDigits 16 value
  String.ofList (List.replicate (width - digits.length) '0' ++ digits)

/-- The same with capital letters. -/
def upper (width value : Nat) : String := (lower width value).map Char.toUpper

/-- Bytes in hexadecimal digits, two for each. -/
def ofBytes (bytes : List UInt8) : String :=
  String.join (bytes.map fun byte => lower 2 byte.toNat)

end Cartridge.Hex
