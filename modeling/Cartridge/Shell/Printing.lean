import Cartridge.Text.Encoded
import Cartridge.Text.Hex

/-!
# Printing in scripts

* `Printing.echo` — arguments on a line.
* `Printing.printf` — arguments in the places that a format gives them.
-/

namespace Cartridge.Shell.Printing

/-- The byte of up to three octal digits, and what follows them. -/
def octal (chars : List Char) : UInt8 × List Char :=
  let digits := (chars.take 3).takeWhile fun c => '0' ≤ c && c ≤ '7'
  (UInt8.ofNat (digits.foldl (fun value c => value * 8 + (c.toNat - '0'.toNat)) 0),
    chars.drop digits.length)

/-- The byte that a letter behind a backslash stands for. -/
def control? : Char → Option UInt8
  | 'a' => some 0x07
  | 'b' => some 0x08
  | 'f' => some 0x0C
  | 'n' => some 0x0A
  | 'r' => some 0x0D
  | 't' => some 0x09
  | 'v' => some 0x0B
  | '\\' => some 0x5C
  | _ => none

/-- The bytes of characters in which backslashes begin control characters, and whether they ask for
the end of all printing. An octal number begins with a zero, if `zero` says so. -/
def escaped (zero : Bool) : (fuel : Nat) → (before : List UInt8) → List Char → List UInt8 × Bool
  | 0, before, _ => (before.reverse, false)
  | fuel + 1, before, chars =>
    match chars with
    | [] => (before.reverse, false)
    | '\\' :: 'c' :: _ => (before.reverse, true)
    | '\\' :: c :: rest =>
      match control? c with
      | some byte => escaped zero fuel (byte :: before) rest
      | none =>
        if zero ∧ c = '0' then
          let (byte, rest) := octal rest
          escaped zero fuel (byte :: before) rest
        else if !zero ∧ '0' ≤ c ∧ c ≤ '7' then
          let (byte, rest) := octal (c :: rest)
          escaped zero fuel (byte :: before) rest
        else escaped zero fuel ((encoded (String.singleton c)).reverse ++ 0x5C :: before) rest
    | c :: rest => escaped zero fuel ((encoded (String.singleton c)).reverse ++ before) rest

/-- What is printed for arguments on a line. -/
def echo (arguments : List String) : List UInt8 :=
  let (isOpen, shown) := match arguments with
    | "-n" :: rest => (true, rest)
    | rest => (false, rest)
  let text := " ".intercalate shown
  let (bytes, stops) := escaped true (text.length + 1) [] text.toList
  if isOpen || stops then bytes else bytes ++ [0x0A]

/-- A place in a format. -/
structure Field where
  isLeft : Bool
  filler : Char
  width : Nat
  precision : Option Nat
  form : Char

/-- The number at the head of characters. -/
def leadingNumber (chars : List Char) : Nat × List Char :=
  ((chars.takeWhile Char.isDigit).foldl (fun value c => value * 10 + (c.toNat - '0'.toNat)) 0,
    chars.dropWhile Char.isDigit)

/-- The place that characters behind a percent sign describe. -/
def field? (chars : List Char) : Option (Field × List Char) :=
  let flags := chars.takeWhile fun c => ['-', '0', '+', ' ', '#'].contains c
  let (width, rest) := leadingNumber (chars.drop flags.length)
  let (precision, rest) := match rest with
    | '.' :: rest =>
      let (value, rest) := leadingNumber rest
      (some value, rest)
    | rest => (none, rest)
  match rest with
  | form :: rest =>
    let filler := if flags.contains '0' then '0' else ' '
    some (⟨flags.contains '-', filler, width, precision, form⟩, rest)
  | [] => none

/-- Fills a text up to the width of its place. -/
def Field.fill (field : Field) (bytes : List UInt8) : List UInt8 :=
  let missing := field.width - bytes.length
  if field.isLeft then bytes ++ List.replicate missing 0x20
  else List.replicate missing (UInt8.ofNat field.filler.toNat) ++ bytes

/-- The number that an argument gives. -/
def argumentNumber (text : String) : Int :=
  match text.toList with
  | ['\'', c] | ['"', c] => c.toNat
  | '-' :: rest => -((leadingNumber rest).1 : Int)
  | '+' :: rest => (leadingNumber rest).1
  | rest => (leadingNumber rest).1

/-- What is printed for an argument in its place, and whether that is the end. -/
def Field.render (field : Field) (argument : String) : List UInt8 × Bool :=
  let number := argumentNumber argument
  match field.form with
  | 'd' | 'i' => (field.fill (encoded (toString number)), false)
  | 'u' => (field.fill (encoded (toString number.toNat)), false)
  | 'x' => (field.fill (encoded (Hex.lower 1 number.toNat)), false)
  | 'X' => (field.fill (encoded (Hex.upper 1 number.toNat)), false)
  | 'o' => (field.fill (encoded (String.ofList (Nat.toDigits 8 number.toNat))), false)
  | 'c' => (field.fill ((encoded argument).take 1), false)
  | 'b' =>
    let (bytes, stops) := escaped true (argument.length + 1) [] argument.toList
    (field.fill bytes, stops)
  | _ =>
    let bytes := encoded argument
    (field.fill (match field.precision with
      | some length => bytes.take length
      | none => bytes), false)

/-- One pass over a format. What comes out are the bytes, the arguments that are left, and whether
that is the end. -/
def pass : (fuel : Nat) → (before : List UInt8) → (arguments : List String) → List Char →
    List UInt8 × List String × Bool
  | 0, before, arguments, _ => (before.reverse, arguments, true)
  | fuel + 1, before, arguments, chars =>
    match chars with
    | [] => (before.reverse, arguments, false)
    | '%' :: '%' :: rest => pass fuel (0x25 :: before) arguments rest
    | '%' :: rest =>
      match field? rest with
      | none => (before.reverse, arguments, true)
      | some (field, rest) =>
        let (bytes, stops) := field.render (arguments.headD "")
        if stops then (bytes.reverse ++ before |>.reverse, arguments, true)
        else pass fuel (bytes.reverse ++ before) arguments.tail rest
    | _ =>
      let plain := chars.takeWhile (· != '%')
      let (bytes, stops) := escaped false (plain.length + 1) [] plain
      if stops then ((bytes.reverse ++ before).reverse, arguments, true)
      else pass fuel (bytes.reverse ++ before) arguments (chars.dropWhile (· != '%'))

/-- Passes over a format until no argument is left. Each one takes an argument at least, or there is
only one. -/
def passes : (fuel : Nat) → (before : List UInt8) → (arguments : List String) → List Char →
    List UInt8
  | 0, before, _, _ => before
  | fuel + 1, before, arguments, format =>
    let (bytes, left, stops) := pass (format.length + 1) [] arguments format
    if stops || left.isEmpty || left.length = arguments.length then before ++ bytes
    else passes fuel (before ++ bytes) left format

/-- What is printed for arguments in a format. -/
def printf (arguments : List String) : List UInt8 :=
  match arguments with
  | format :: rest => passes (rest.length + 1) [] rest format.toList
  | [] => []

end Cartridge.Shell.Printing
