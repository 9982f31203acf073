/-!
# Patterns of names

* `Pattern.matchesAll` — whether a pattern stands for a text.
-/

namespace Cartridge.Shell

/-- A step of a pattern. -/
inductive Glob where
  | char (value : Char)
  /-- Any one character. -/
  | one
  /-- Any characters. -/
  | many
  /-- One character within, or outside of, some ranges. -/
  | within (isNegated : Bool) (ranges : List (Char × Char))
  deriving DecidableEq, Repr

/-- A pattern. -/
abbrev Pattern : Type := List Glob

namespace Pattern

/-- The ranges of a set, up to its end. -/
def ranges : (before : List (Char × Char)) → List (Char × Bool) →
    Option (List (Char × Char) × List (Char × Bool))
  | _, [] => none
  | before, (']', false) :: rest => if before.isEmpty then none else some (before.reverse, rest)
  | before, (low, _) :: ('-', false) :: (high, _) :: rest => ranges ((low, high) :: before) rest
  | before, (c, _) :: rest => ranges ((c, c) :: before) rest

/-- The pattern of characters, the quoted ones of which stand for themselves. One unit of fuel for
each of them is enough. -/
def ofChars : (fuel : Nat) → List (Char × Bool) → Pattern
  | 0, _ | _, [] => []
  | fuel + 1, ('*', false) :: rest => .many :: ofChars fuel rest
  | fuel + 1, ('?', false) :: rest => .one :: ofChars fuel rest
  | fuel + 1, ('[', false) :: ('!', false) :: rest =>
    match ranges [] rest with
    | some (found, rest) => .within true found :: ofChars fuel rest
    | none => .char '[' :: .char '!' :: ofChars fuel rest
  | fuel + 1, ('[', false) :: rest =>
    match ranges [] rest with
    | some (found, rest) => .within false found :: ofChars fuel rest
    | none => .char '[' :: ofChars fuel rest
  | fuel + 1, (c, _) :: rest => .char c :: ofChars fuel rest

/-- The pattern of marked characters. -/
def ofMarked (chars : List (Char × Bool)) : Pattern := ofChars chars.length chars

/-- Whether a pattern may stand for something else than itself. -/
def isOpen (pattern : Pattern) : Bool :=
  pattern.any fun glob =>
    match glob with
    | .char _ => false
    | .one | .many | .within _ _ => true

/-- The ends of a list, the list itself first. -/
def ends : List Char → List (List Char)
  | [] => [[]]
  | first :: rest => (first :: rest) :: ends rest

/-- Whether a pattern stands for a text. -/
def matchesAll : Pattern → List Char → Bool
  | [], text => text.isEmpty
  | .many :: rest, text => (ends text).any (matchesAll rest)
  | .char c :: rest, first :: text => c == first && matchesAll rest text
  | .one :: rest, _ :: text => matchesAll rest text
  | .within isNegated ranges :: rest, first :: text =>
    (ranges.any fun (low, high) => low ≤ first && first ≤ high) != isNegated
      && matchesAll rest text
  | _ :: _, [] => false

/-- A text without what a pattern stands for at one of its ends: the shortest such part, or the
longest one. -/
def strip (pattern : Pattern) (fromEnd longest : Bool) (text : List Char) : List Char :=
  let cuts := (List.range (text.length + 1)).map fun place => (text.take place, text.drop place)
  let fits := cuts.filter fun (front, back) =>
    pattern.matchesAll (if fromEnd then back else front)
  let chosen := if fromEnd == longest then fits.head? else fits.getLast?
  match chosen with
  | some (front, back) => if fromEnd then front else back
  | none => text

end Pattern
end Cartridge.Shell
