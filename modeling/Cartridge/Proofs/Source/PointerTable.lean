import Cartridge.Proofs.Source.Numeral
import Cartridge.Source.Data

/-!
# Reading the pointer table

The pointer table of the generated source, as the engine's compiler takes it: its rows are the lines
between the one that opens it and the one that closes it, and a row is a pair of numbers.

* `DataSource.readPointer?`: the two numbers of a row.
* `DataSource.pointerLines`: the rows of the table.
* `DataSource.pointerLines_lines`: they are those of the symbols, in the order of their indices.
* `DataSource.readPointer?_pointerRow`: the row of a symbol is read as its bank and its offset.
-/

namespace Cartridge.DataSource

/-- The two numbers of a row, the second one being hexadecimal. -/
def readPointer? (line : String) : Option (Nat × Nat) :=
  match line.toList with
  | ' ' :: ' ' :: ' ' :: ' ' :: '\x7b' :: rest =>
    match rest.dropWhile Char.isDigit with
    | ',' :: ' ' :: '0' :: 'x' :: behind =>
      match behind.dropWhile Literal.isHexDigit with
      | '\x7d' :: ',' :: _ =>
        some (Literal.numberOf 10 (rest.takeWhile Char.isDigit),
          Literal.numberOf 16 (behind.takeWhile Literal.isHexDigit))
      | _ => none
    | _ => none
  | _ => none

/-- The line that opens the pointer table. -/
def openingLine : String := "const far_ptr_t symbol_table[] = \x7b"

/-- The line that closes a table. -/
def closingLine : String := "\x7d;"

/-- The rows of the pointer table in some lines. -/
def pointerLines (lines : List String) : List String :=
  ((lines.dropWhile (· ≠ openingLine)).drop 1).takeWhile (· ≠ closingLine)

/-- What has a property up to a first item without it ends there. -/
theorem takeWhile_append_cons {α : Type} {p : α → Bool} {before after : List α} {item : α}
    (all : ∀ other ∈ before, p other = true) (last : p item = false) :
    (before ++ item :: after).takeWhile p = before := by
  rw [List.takeWhile_append_of_pos all, List.takeWhile_cons, last]
  exact List.append_nil before

theorem dropWhile_append_cons {α : Type} {p : α → Bool} {before after : List α} {item : α}
    (all : ∀ other ∈ before, p other = true) (last : p item = false) :
    (before ++ item :: after).dropWhile p = item :: after := by
  rw [List.dropWhile_append_of_pos all, List.dropWhile_cons, last]
  rfl

theorem row_pair (first second : String) :
    row [first, second] = "    \x7b" ++ (first ++ ", " ++ second) ++ "\x7d," := rfl

/-- **A row of two numbers is read as these**, whatever stands behind it. -/
theorem readPointer?_row (bank offset : Nat) (remark : String) :
    readPointer? (row [toString bank, Literal.ofOffset offset] ++ remark)
      = some (bank, offset) := by
  have written : (row [toString bank, Literal.ofOffset offset] ++ remark).toList
      = ' ' :: ' ' :: ' ' :: ' ' :: '\x7b' :: (Nat.toDigits 10 bank
        ++ ',' :: ' ' :: '0' :: 'x' :: ((Hex.lower 4 offset).toList
          ++ '\x7d' :: ',' :: remark.toList)) := by
    rw [row_pair]
    simp [Literal.ofOffset]
  have decimal : ∀ c ∈ Nat.toDigits 10 bank, c.isDigit = true := fun c member =>
    Nat.isDigit_of_mem_toDigits (by decide) (by decide) member
  have hexadecimal : ∀ c ∈ (Hex.lower 4 offset).toList, Literal.isHexDigit c = true :=
    fun c member => Literal.isHexDigit_of_mem_lower member
  have comma : Char.isDigit ',' = false := rfl
  have brace : Literal.isHexDigit '\x7d' = false := rfl
  rw [readPointer?, written]
  simp only [dropWhile_append_cons decimal comma, takeWhile_append_cons decimal comma,
    dropWhile_append_cons hexadecimal brace, takeWhile_append_cons hexadecimal brace]
  rw [Literal.numberOf_toDigits (by decide) (by decide), Literal.numberOf_lower]

/-- **The row of a symbol is read as its bank and its offset.** -/
theorem readPointer?_pointerRow {game : Game} {symbol : String} {bank offset : UInt16}
    (pointer : game.farPointer? symbol = some (bank, offset)) :
    readPointer? (pointerRow game symbol) = some (bank.toNat, offset.toNat) := by
  rw [pointerRow, pointer]
  show readPointer? (row _ ++ " // " ++ symbol ++ _) = _
  rw [String.append_assoc, String.append_assoc]
  exact readPointer?_row _ _ _

theorem pointerRow_ne_closingLine (game : Game) (symbol : String) :
    pointerRow game symbol ≠ closingLine := by
  intro same
  have first := congrArg (fun line => line.toList.head?) same
  simp [pointerRow, row, closingLine] at first

/-- The lines before the pointer table. -/
def headLines (game : Game) : List String :=
  [banner, s!"#include \"{dataHeaderName}\"", "",
    s!"const char GAME_TITLE[] = \"{Literal.ofText game.title}\";", ""]

/-- The pointer table is opened, has a row for each symbol, and is closed. -/
theorem lines_eq {game : Game} (some : game.tables.symbols.keys.toList ≠ []) :
    ∃ rest, lines game = headLines game
      ++ openingLine :: (game.tables.symbols.keys.toList.map (pointerRow game)
        ++ closingLine :: rest) := by
  have opening : "const " ++ "far_ptr_t" ++ " " ++ "symbol_table" ++ "[] = \x7b" = openingLine := by
    simp [openingLine]
  have rows : (game.tables.symbols.keys.toList.map (pointerRow game)).isEmpty = false := by
    rw [List.isEmpty_eq_false_iff]
    exact fun none => some (List.map_eq_nil_iff.1 none)
  have pointers : table "far_ptr_t" "symbol_table" ["0", "0"]
      (game.tables.symbols.keys.toList.map (pointerRow game))
        = openingLine :: (game.tables.symbols.keys.toList.map (pointerRow game)
          ++ [closingLine]) := by
    rw [← opening, table, rows]
    rfl
  have whole : ∃ rest, lines game = headLines game ++ (table "far_ptr_t" "symbol_table" ["0", "0"]
      (game.tables.symbols.keys.toList.map (pointerRow game)) ++ rest) := by
    unfold lines
    simp only [List.append_assoc]
    exact ⟨_, rfl⟩
  obtain ⟨rest, whole⟩ := whole
  refine ⟨rest, ?_⟩
  rw [whole, pointers, List.cons_append, List.append_assoc]
  rfl

/-- **The rows of the table are those of the symbols**, in the order of their indices. -/
theorem pointerLines_lines {game : Game} (some : game.tables.symbols.keys.toList ≠ []) :
    pointerLines (lines game) = game.tables.symbols.keys.toList.map (pointerRow game) := by
  obtain ⟨rest, opened⟩ := lines_eq some
  have earlier : ∀ line ∈ headLines game, decide (line ≠ openingLine) = true := by
    have title : ∀ text : String, "const char GAME_TITLE[] = \"" ++ text ++ "\";" ≠ openingLine := by
      intro text same
      have start := congrArg (fun line => line.toList.take 7) same
      simp [openingLine] at start
    have included : "#include \"" ++ dataHeaderName ++ "\"" ≠ openingLine := by
      simp [openingLine, dataHeaderName]
    intro line member
    simp only [headLines, List.mem_cons, List.not_mem_nil, or_false] at member
    rcases member with rfl | rfl | rfl | rfl | rfl
    · decide
    · exact decide_eq_true included
    · decide
    · exact decide_eq_true (title _)
    · decide
  have rows : ∀ line ∈ game.tables.symbols.keys.toList.map (pointerRow game),
      decide (line ≠ closingLine) = true := by
    intro line member
    obtain ⟨symbol, _, rfl⟩ := List.mem_map.1 member
    exact decide_eq_true (pointerRow_ne_closingLine game symbol)
  rw [pointerLines, opened, dropWhile_append_cons earlier (by simp), List.drop_one, List.tail_cons,
    takeWhile_append_cons rows (by simp)]

end Cartridge.DataSource
