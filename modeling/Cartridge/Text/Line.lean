/-!
# Lines and blanks

* `lines` — the lines of a text. A line feed ends a line; what follows the last one is a line if it
  holds something.
* `trim` — a line without the blanks at its ends.
-/

namespace Cartridge

/-- The characters that Unicode counts as white space. -/
def isWhiteSpace (c : Char) : Bool :=
  let code := c.toNat
  (0x09 ≤ code && code ≤ 0x0D) || code == 0x20 || code == 0x85 || code == 0xA0
    || code == 0x1680 || (0x2000 ≤ code && code ≤ 0x200A) || code == 0x2028 || code == 0x2029
    || code == 0x202F || code == 0x205F || code == 0x3000

/-- The lines of a text behind the beginning `current` of a line, whose last character comes first,
onto the lines before, the last one first. -/
def linesOnto (before : List (List Char)) (current : List Char) : List Char → List (List Char)
  | [] => (if current.isEmpty then before else current.reverse :: before).reverse
  | '\n' :: rest => linesOnto (current.reverse :: before) [] rest
  | first :: rest => linesOnto before (first :: current) rest

/-- The lines of a text. -/
def lines (text : List Char) : List (List Char) := linesOnto [] [] text

/-- A line without the blanks at its ends. -/
def trim (line : List Char) : List Char :=
  ((line.dropWhile isWhiteSpace).reverse.dropWhile isWhiteSpace).reverse

end Cartridge
