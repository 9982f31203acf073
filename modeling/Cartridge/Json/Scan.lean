import Cartridge.Json.Fault

/-!
# Scanning JSON text

The tokens of JSON, read off the head of a list of characters. A step that has read something hands
on what is left as a `Rest` of the text it started from, so that every loop over a text ends because
the text gets shorter.

* `Scan.text` — a string past its opening quote, with its escapes resolved.
* `Scan.numeral` — a number: a natural number, a negative one or a floating one.
* `Scan.word` — what must follow literally, as the `ull` of `null`.
* `Scan.skipText`, `Scan.skipNumeral` — the same tokens where nobody asks for their value: a lone
  surrogate and a number of any size are let through there.
-/

namespace Cartridge.Json

/-- A text is no longer than itself. -/
theorem length_le_self (text : List Char) : text.length ≤ text.length := Nat.le_refl _

/-- A text is no longer than one with a character in front of it. -/
theorem length_le_cons (first : Char) (rest : List Char) :
    rest.length ≤ (first :: rest).length := Nat.le_succ _

/-- What is left of `origin` once something at its head has been read. -/
structure Rest (origin : List Char) where
  /-- The characters that are left. -/
  chars : List Char
  /-- Something has been read. -/
  shorter : chars.length < origin.length

namespace Rest

/-- What is left of a rest is left of the whole. -/
def within {origin : List Char} (outer : Rest origin) (inner : Rest outer.chars) : Rest origin :=
  ⟨inner.chars, Nat.lt_trans inner.shorter outer.shorter⟩

/-- The rest of a text, seen from a longer text. -/
def widen {origin text : List Char} (rest : Rest text) (within : text.length ≤ origin.length) :
    Rest origin :=
  ⟨rest.chars, Nat.lt_of_lt_of_le rest.shorter within⟩

/-- What follows the first character. -/
def tail (first : Char) (chars : List Char) : Rest (first :: chars) :=
  ⟨chars, Nat.lt_succ_self _⟩

/-- What follows the first character and, maybe, more. -/
def beyond (first : Char) {chars : List Char}
    (left : { left : List Char // left.length ≤ chars.length }) : Rest (first :: chars) :=
  ⟨left.val, Nat.lt_succ_of_le left.property⟩

end Rest

/-- The blanks that may stand between the tokens. -/
def isBlank (c : Char) : Bool :=
  c = ' ' || c = '\t' || c = '\n' || c = '\r'

/-- The text from its first character that is no blank. -/
def dropBlanks (text : List Char) : List Char :=
  text.dropWhile isBlank

theorem length_dropWhile_le (keep : Char → Bool) (text : List Char) :
    (text.dropWhile keep).length ≤ text.length :=
  (List.dropWhile_sublist keep).length_le

theorem length_dropBlanks_le (text : List Char) : (dropBlanks text).length ≤ text.length :=
  length_dropWhile_le isBlank text

namespace Scan

/-! ### Words -/

/-- Reads the letters of `expected` one by one. -/
def word : (expected : List Char) → (text : List Char) → Except Fault { rest : List Char //
    rest.length ≤ text.length }
  | [], text => .ok ⟨text, Nat.le_refl _⟩
  | _ :: _, [] => .error .ended
  | letter :: letters, first :: rest =>
    if letter = first then do
      let left ← word letters rest
      return ⟨left.val, Nat.le_succ_of_le left.property⟩
    else .error .malformed

/-! ### Strings -/

/-- The value of a hexadecimal digit. -/
def hexDigit? (c : Char) : Option Nat :=
  if '0' ≤ c ∧ c ≤ '9' then some (c.toNat - '0'.toNat)
  else if 'a' ≤ c ∧ c ≤ 'f' then some (c.toNat - 'a'.toNat + 10)
  else if 'A' ≤ c ∧ c ≤ 'F' then some (c.toNat - 'A'.toNat + 10)
  else none

/-- Reads four hexadecimal digits. Where fewer than four bytes are left the text has ended, whatever
they are. -/
def hexWord : (text : List Char) → Except Fault (Nat × Rest text)
  | a :: b :: c :: d :: rest =>
    match hexDigit? a, hexDigit? b, hexDigit? c, hexDigit? d with
    | some a', some b', some c', some d' =>
      .ok (((a' * 16 + b') * 16 + c') * 16 + d', ⟨rest, by simp only [List.length_cons]; omega⟩)
    | _, _, _, _ => .error .malformed
  | short => .error (if 4 ≤ (String.ofList short).utf8ByteSize then .malformed else .ended)

/-- What an escape letter stands for. -/
def plainEscape? : Char → Option Char
  | '"' => some '"'
  | '\\' => some '\\'
  | '/' => some '/'
  | 'b' => some '\x08'
  | 'f' => some '\x0c'
  | 'n' => some '\n'
  | 'r' => some '\r'
  | 't' => some '\t'
  | _ => none

/-- The two halves of the surrogates. -/
def isLeadingSurrogate (code : Nat) : Bool := 0xD800 ≤ code && code ≤ 0xDBFF

@[inherit_doc isLeadingSurrogate]
def isTrailingSurrogate (code : Nat) : Bool := 0xDC00 ≤ code && code ≤ 0xDFFF

/-- Reads the digits of a Unicode escape. A leading surrogate needs the escape of a trailing one
behind it, and a trailing one may not stand alone. -/
def codePoint (text : List Char) : Except Fault (Char × Rest text) := do
  let (code, rest) ← hexWord text
  if isTrailingSurrogate code then throw .malformed
  if !isLeadingSurrogate code then return (Char.ofNat code, rest)
  match held : rest.chars with
  | [] => throw .ended
  | ['\\'] => throw .ended
  | '\\' :: 'u' :: more =>
    let (second, left) ← hexWord more
    if isTrailingSurrogate second then
      let char := Char.ofNat (0x10000 + (code - 0xD800) * 0x400 + (second - 0xDC00))
      return (char, ⟨left.chars, by
        have first := rest.shorter
        have next := left.shorter
        rw [held] at first
        simp only [List.length_cons] at first
        omega⟩)
    else throw .malformed
  | _ => throw .malformed

/-- Reads a string past its opening quote, onto the characters `before` of it that have been read
already, the last one first. -/
def textFrom {origin : List Char} (before : List Char) (text : List Char)
    (within : text.length ≤ origin.length) : Except Fault (String × Rest origin) :=
  match text, within with
  | [], _ => .error .ended
  | char :: rest, within =>
    if char = '"' then .ok (String.ofList before.reverse, ⟨rest, within⟩)
    else if char = '\\' then
      match rest, within with
      | [], _ => .error .ended
      | letter :: rest, within =>
        have inside := Nat.le_trans (length_le_cons letter rest) (Nat.le_of_succ_le within)
        if letter = 'u' then
          match codePoint rest with
          | .error fault => .error fault
          | .ok (char, left) =>
            textFrom (char :: before) left.chars
              (Nat.le_of_lt (Nat.lt_of_lt_of_le left.shorter inside))
        else
          match plainEscape? letter with
          | none => .error .malformed
          | some char => textFrom (char :: before) rest inside
    else if char.toNat < 0x20 then .error .malformed
    else textFrom (char :: before) rest (Nat.le_of_succ_le within)
termination_by text.length
decreasing_by
  · exact Nat.lt_of_lt_of_le left.shorter
      (Nat.le_trans (length_le_cons letter rest) (length_le_cons char _))
  · exact length_le_cons char (letter :: rest)
  · exact Nat.lt_succ_self _

/-- Reads a string past its opening quote. -/
def text (text : List Char) : Except Fault (String × Rest text) :=
  textFrom [] text (Nat.le_refl _)

/-- Passes over a string past its opening quote. Its escapes need digits and known letters, and that
is all. -/
def skipText {origin : List Char} (text : List Char) (within : text.length ≤ origin.length) :
    Except Fault (Rest origin) :=
  match text, within with
  | [], _ => .error .ended
  | char :: rest, within =>
    if char = '"' then .ok ⟨rest, within⟩
    else if char = '\\' then
      match rest, within with
      | [], _ => .error .ended
      | letter :: rest, within =>
        have inside := Nat.le_trans (length_le_cons letter rest) (Nat.le_of_succ_le within)
        if letter = 'u' then
          match hexWord rest with
          | .error fault => .error fault
          | .ok (_, left) =>
            skipText left.chars (Nat.le_of_lt (Nat.lt_of_lt_of_le left.shorter inside))
        else if (plainEscape? letter).isNone then .error .malformed
        else skipText rest inside
    else if char.toNat < 0x20 then .error .malformed
    else skipText rest (Nat.le_of_succ_le within)
termination_by text.length
decreasing_by
  · exact Nat.lt_of_lt_of_le left.shorter
      (Nat.le_trans (length_le_cons letter rest) (length_le_cons char _))
  · exact length_le_cons char (letter :: rest)
  · exact Nat.lt_succ_self _

/-! ### Numbers -/

/-- A number as its readers see it. -/
inductive Numeral where
  /-- A natural number of at most 64 bits. -/
  | natural (value : Nat)
  /-- A negative number of at most 64 bits. -/
  | negative (value : Int)
  /-- Any other number: with a point or an exponent, minus zero, or too large for 64 bits. -/
  | floating
  deriving DecidableEq, Repr

/-- The digits at the head of a text. -/
def digits (text : List Char) : List Char :=
  text.takeWhile Char.isDigit

/-- What follows the digits at the head of a text. -/
def dropDigits (text : List Char) : List Char :=
  text.dropWhile Char.isDigit

theorem length_dropDigits_le (text : List Char) : (dropDigits text).length ≤ text.length :=
  length_dropWhile_le Char.isDigit text

/-- Whether a digit stands at the head of a text. -/
def startsWithDigit : List Char → Bool
  | first :: _ => first.isDigit
  | [] => false

/-- The number that a list of decimal digits writes. -/
def decimal (digits : List Char) : Nat :=
  digits.foldl (fun value digit => value * 10 + (digit.toNat - '0'.toNat)) 0

/-- The double that is nearest to a natural number, of two as near the one with an even last
place. -/
def nearestDouble (number : Nat) : Nat :=
  let places := number.log2 - 52
  let kept := number >>> places
  let twiceDropped := 2 * (number - kept <<< places)
  let isUp := 1 <<< places < twiceDropped ∨ 1 <<< places = twiceDropped ∧ kept % 2 = 1
  (if isUp then kept + 1 else kept) <<< places

/-- The least number that is rounded to infinity: it lies halfway between the largest double and
the power of two that comes next. -/
def doubleLimit : Nat := 0x3FFFFFFFFFFFFF <<< 970

/-- Whether `value · 10 ^ scale` becomes infinite when both factors are rounded before they are
multiplied. -/
def exceedsDouble (value : Nat) (scale : Int) : Bool :=
  if value = 0 ∨ scale < 0 then false
  else if scale > 308 then true
  else doubleLimit ≤ nearestDouble value * nearestDouble (Nat.pow 10 scale.toNat)

/-- Appends digits to a value as long as it fits in 64 bits; with the digits that do not. -/
def gather (value : Nat) : List Char → Nat × List Char
  | [] => (value, [])
  | digit :: rest =>
    let next := value * 10 + (digit.toNat - '0'.toNat)
    if next < 0x10000000000000000 then gather next rest else (value, digit :: rest)

/-- The number with the digits `whole`, then the digits `places` past the point, times ten to the
power `exponent`: it is floating, if a double holds it. Only the digits that fit in 64 bits tell. -/
def floatingOf (whole places : List Char) (exponent : Int) : Except Fault Numeral :=
  let (value, wholeLeft) := gather 0 whole
  let (value, placesLeft) := gather value places
  let scale := exponent + wholeLeft.length + placesLeft.length - places.length
  if exceedsDouble value scale then .error .malformed else .ok .floating

/-- The value of a number written with digits alone. -/
def integerOf (isNegative : Bool) (whole : List Char) : Except Fault Numeral :=
  if whole.length > 20 then floatingOf whole [] 0
  else
    let value := decimal whole
    if isNegative then
      .ok (if 0 < value ∧ value ≤ 0x8000000000000000 then .negative (-value) else .floating)
    else .ok (if value < 0x10000000000000000 then .natural value else .floating)

/-- Reads an exponent past its letter. -/
def exponent (text : List Char) : Except Fault (Int × { rest : List Char //
    rest.length ≤ text.length }) :=
  let (isNegative, body) : Bool × { body : List Char // body.length ≤ text.length } :=
    match text with
    | '+' :: rest => (false, ⟨rest, Nat.le_succ _⟩)
    | '-' :: rest => (true, ⟨rest, Nat.le_succ _⟩)
    | other => (false, ⟨other, Nat.le_refl _⟩)
  match digits body.val with
  | [] => .error (if body.val.isEmpty then .ended else .malformed)
  | power =>
    -- An exponent of more than ten digits is as good as one of eleven.
    let size : Int := if (power.dropWhile (· = '0')).length > 10 then 10000000000 else decimal power
    .ok (if isNegative then -size else size,
      ⟨dropDigits body.val, Nat.le_trans (length_dropDigits_le _) body.property⟩)

/-- Reads the exponent that may follow the digits `whole` and the digits `places` past the point. -/
def scaled (whole places : List Char) (text : List Char) :
    Except Fault (Numeral × { rest : List Char // rest.length ≤ text.length }) :=
  match text with
  | mark :: rest =>
    if mark = 'e' ∨ mark = 'E' then do
      let (power, left) ← exponent rest
      return (← floatingOf whole places power, ⟨left.val, Nat.le_succ_of_le left.property⟩)
    else do return (← floatingOf whole places 0, ⟨mark :: rest, Nat.le_refl _⟩)
  | [] => do return (← floatingOf whole places 0, ⟨[], Nat.le_refl _⟩)

/-- Reads what may follow the whole part of a number. -/
def fraction (isNegative : Bool) (whole : List Char) (text : List Char) :
    Except Fault (Numeral × { rest : List Char // rest.length ≤ text.length }) :=
  match text with
  | '.' :: rest =>
    match digits rest with
    | [] => .error (if rest.isEmpty then .ended else .malformed)
    | places => do
      let (numeral, left) ← scaled whole places (dropDigits rest)
      return (numeral, ⟨left.val, Nat.le_succ_of_le
        (Nat.le_trans left.property (length_dropDigits_le rest))⟩)
  | 'e' :: rest => scaled whole [] ('e' :: rest)
  | 'E' :: rest => scaled whole [] ('E' :: rest)
  | other => do return (← integerOf isNegative whole, ⟨other, Nat.le_refl _⟩)

/-- Reads a number past its sign. Nothing but a fraction follows a leading zero. -/
def unsigned (isNegative : Bool) (text : List Char) : Except Fault (Numeral × Rest text) :=
  match text with
  | [] => .error .ended
  | first :: rest =>
    if first = '0' ∧ startsWithDigit rest then .error .malformed
    else if first.isDigit then do
      let (numeral, left) ← fraction isNegative (first :: digits rest) (dropDigits rest)
      return (numeral, ⟨left.val,
        Nat.lt_succ_of_le (Nat.le_trans left.property (length_dropDigits_le rest))⟩)
    else .error .malformed

/-- Reads a number. -/
def numeral (text : List Char) : Except Fault (Numeral × Rest text) :=
  match text with
  | '-' :: rest => do
    let (numeral, left) ← unsigned true rest
    return (numeral, left.widen (Nat.le_succ _))
  | other => unsigned false other

/-- Passes over the digits that must stand at the head of the text. -/
def skipDigits (text : List Char) : Except Fault (Rest text) :=
  match text with
  | [] => .error .malformed
  | first :: rest =>
    if first.isDigit then
      .ok ⟨dropDigits rest, Nat.lt_succ_of_le (length_dropDigits_le rest)⟩
    else .error .malformed

/-- Passes over an exponent past its letter. -/
def skipExponent (text : List Char) : Except Fault (Rest text) :=
  match text with
  | '+' :: rest => do return (← skipDigits rest).widen (Nat.le_succ _)
  | '-' :: rest => do return (← skipDigits rest).widen (Nat.le_succ _)
  | other => skipDigits other

/-- Passes over an exponent, if there is one. -/
def skipScale {text : List Char} (rest : Rest text) : Except Fault (Rest text) :=
  match held : rest.chars with
  | mark :: more =>
    if mark = 'e' ∨ mark = 'E' then do
      return (← skipExponent more).widen (by
        have := rest.shorter
        rw [held, List.length_cons] at this
        omega)
    else .ok rest
  | [] => .ok rest

/-- Passes over a number past its sign. It may have any size, and its end is not told from a
fault. -/
def skipUnsigned (text : List Char) : Except Fault (Rest text) := do
  if text.head? = some '0' ∧ startsWithDigit text.tail then throw .malformed
  let whole ← skipDigits text
  match held : whole.chars with
  | '.' :: rest =>
    let places ← skipDigits rest
    skipScale (places.widen (by
      have := whole.shorter
      rw [held, List.length_cons] at this
      omega))
  | _ => skipScale whole

end Scan
end Cartridge.Json
