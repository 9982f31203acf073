/-!
# Decimal text of a double

* `Fixed.oneDecimal` — a number that is not negative, rounded to one decimal place. It is rounded
  once, from its exact value, and halfway cases go to the even digit.
-/

namespace Cartridge.Fixed

/-- A quotient rounded to the nearest whole number, a tie going to the even one. -/
def roundedQuotient (numerator denominator : Nat) : Nat :=
  let whole := numerator / denominator
  let twice := 2 * (numerator % denominator)
  if twice < denominator then whole
  else if denominator < twice then whole + 1
  else whole + whole % 2

/-- The exact value of a finite double that is not negative, as `mantissa * 2 ^ exponent`. -/
def parts (value : Float) : Nat × Int :=
  let bits := value.toBits.toNat
  let exponent : Nat := bits >>> 52 % 0x800
  let fraction : Nat := bits % 0x10000000000000
  if exponent = 0 then (fraction, -1074) else (fraction + 0x10000000000000, (exponent : Int) - 1075)

/-- The tenths of a finite double that is not negative, rounded. -/
def tenths (value : Float) : Nat :=
  let (mantissa, exponent) := parts value
  if 0 ≤ exponent then mantissa <<< exponent.toNat * 10
  else roundedQuotient (mantissa * 10) (1 <<< (-exponent).toNat)

/-- A number that is not negative, with one decimal place. -/
def oneDecimal (value : Float) : String :=
  if value.isInf then "inf"
  else if value.isNaN then "NaN"
  else
    let rounded := tenths value
    s!"{rounded / 10}.{rounded % 10}"

end Cartridge.Fixed
