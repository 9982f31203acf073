import Cartridge.Proofs.Bank.Image
import Cartridge.Proofs.Source.PointerTable
import Cartridge.Proofs.Symbol.Naming
import Cartridge.Proofs.Text.Line

/-!
# Reading the array of a bank

The array of a bank, as the engine's compiler takes it from the text of its source: the numbers
between the line that opens the array and the one that closes it, with a comma behind each of them.

* `BankArray.readArray?`: the numbers of an array in a text.
* `BankArray.readLines?_dataLines`: the lines of some bytes are read as these bytes.
* `BankArray.readArray?_joinLines`: so the array of a bank is read as its contents.
-/

namespace Cartridge.BankArray

/-! ### Reading -/

/-- The number in a piece of a line, in hexadecimal digits behind blanks. -/
def readByte? (piece : List Char) : Option Nat :=
  match piece.dropWhile (· = ' ') with
  | '0' :: 'x' :: first :: digits =>
    if (first :: digits).all Literal.isHexDigit then some (Literal.numberOf 16 (first :: digits))
    else none
  | _ => none

/-- The numbers in the pieces between commas. Behind the last comma there is nothing. -/
def readPieces? : List (List Char) → Option (List Nat)
  | [] => none
  | [last] => if last.all (· = ' ') then some [] else none
  | piece :: rest => do return (← readByte? piece) :: (← readPieces? rest)

/-- The numbers on some lines. -/
def readLines? : List (List Char) → Option (List Nat)
  | [] => some []
  | line :: rest => do return (← readPieces? (line.splitOn ',')) ++ (← readLines? rest)

/-- The line that opens an array. -/
def openingLine (name : String) : String := s!"const unsigned char {name}[] = \x7b"

/-- **The numbers of the array with a name**, if its lines are closed and hold nothing else. -/
def readArray? (name : String) (text : String) : Option (List Nat) :=
  match (lines text.toList).dropWhile (· ≠ (openingLine name).toList) with
  | [] => none
  | _ :: rest =>
    if DataSource.closingLine.toList ∈ rest then
      readLines? (rest.takeWhile (· ≠ DataSource.closingLine.toList))
    else none

/-! ### What is written is read -/

/-- A byte is read as it is written, whatever blanks stand before it. -/
theorem readByte?_ofByte {blanks : List Char} (blank : ∀ c ∈ blanks, c = ' ') (byte : UInt8) :
    readByte? (blanks ++ (Literal.ofByte byte).toList) = some byte.toNat := by
  have written : (Literal.ofByte byte).toList = '0' :: 'x' :: (Hex.upper 2 byte.toNat).toList := by
    simp [Literal.ofByte]
  obtain ⟨first, digits, upper⟩ :=
    List.exists_cons_of_ne_nil (Literal.toList_upper_ne_nil (by decide : 0 < 2) byte.toNat)
  have hexadecimal : (first :: digits).all Literal.isHexDigit = true := by
    rw [← upper, List.all_eq_true]
    exact fun c => Literal.isHexDigit_of_mem_upper
  have value : Literal.numberOf 16 (first :: digits) = byte.toNat := by
    rw [← upper, Literal.numberOf_upper]
  have start : (blanks ++ '0' :: 'x' :: first :: digits).dropWhile (· = ' ')
      = '0' :: 'x' :: first :: digits :=
    DataSource.dropWhile_append_cons (fun c member => decide_eq_true (blank c member)) rfl
  rw [written, upper, readByte?, start]
  show (if _ then some (Literal.numberOf 16 (first :: digits)) else none) = _
  rw [if_pos hexadecimal, value]

theorem comma_not_mem_ofByte (byte : UInt8) : ',' ∉ (Literal.ofByte byte).toList := by
  intro comma
  rw [Literal.ofByte, String.toList_append, List.mem_append] at comma
  rcases comma with start | digit
  · revert start
    decide
  · exact absurd (Literal.isHexDigit_of_mem_upper digit) (by decide)

theorem readPieces?_cons {piece : List Char} {rest : List (List Char)} (more : rest ≠ []) :
    readPieces? (piece :: rest)
      = (readByte? piece).bind fun byte => (readPieces? rest).map (byte :: ·) := by
  obtain ⟨next, others, rfl⟩ := List.exists_cons_of_ne_nil more
  show readByte? piece >>= (fun byte => readPieces? (next :: others) >>= _) = _
  cases readByte? piece with
  | none => rfl
  | some byte => cases readPieces? (next :: others) <;> rfl

theorem splitOn_append_cons {piece : List Char} (whole : ',' ∉ piece) (rest : List Char) :
    (piece ++ ',' :: rest).splitOn ',' = piece :: rest.splitOn ',' := by
  have cut : (piece ++ ',' :: rest).splitOn ',' = piece.splitOn ',' ++ rest.splitOn ',' :=
    List.splitOnP_append_cons piece rest (beq_self_eq_true _)
  rw [cut, List.splitOn_eq_singleton whole, List.singleton_append]

/-- **Bytes with a blank before and a comma behind each are read as these bytes.** -/
theorem readPieces?_splitOn {blanks : List Char} (blank : ∀ c ∈ blanks, c = ' ')
    (bytes : List UInt8) :
    readPieces? ((blanks ++ bytes.flatMap fun byte =>
        ' ' :: ((Literal.ofByte byte).toList ++ [','])).splitOn ',')
      = some (bytes.map UInt8.toNat) := by
  have clear : ∀ {blanks : List Char}, (∀ c ∈ blanks, c = ' ') → ',' ∉ blanks :=
    fun blank comma => absurd (blank _ comma) (by decide)
  induction bytes generalizing blanks with
  | nil =>
    rw [List.flatMap_nil, List.append_nil, List.splitOn_eq_singleton (clear blank), readPieces?,
      if_pos (List.all_eq_true.2 fun c member => decide_eq_true (blank c member))]
    rfl
  | cons byte bytes ih =>
    have longer : ∀ c ∈ blanks ++ [' '], c = ' ' := by
      intro c member
      rcases List.mem_append.1 member with before | last
      · exact blank c before
      · exact List.mem_singleton.1 last
    have whole : ',' ∉ (blanks ++ [' ']) ++ (Literal.ofByte byte).toList := by
      rw [List.mem_append, not_or]
      exact ⟨clear longer, comma_not_mem_ofByte byte⟩
    have rest := ih (fun c member => absurd member List.not_mem_nil : ∀ c ∈ [], c = ' ')
    rw [List.nil_append] at rest
    rw [List.flatMap_cons, List.cons_append, List.append_assoc, List.singleton_append,
      List.append_cons, ← List.append_assoc, splitOn_append_cons whole,
      readPieces?_cons (List.splitOn_ne_nil _ _), readByte?_ofByte longer, rest]
    rfl

/-- The line of some bytes. -/
def line (bytes : List UInt8) : String :=
  "    " ++ ", ".intercalate (bytes.map Literal.ofByte) ++ ","

theorem toList_line {bytes : List UInt8} (filled : bytes ≠ []) :
    (line bytes).toList = [' ', ' ', ' '] ++ bytes.flatMap fun byte =>
      ' ' :: ((Literal.ofByte byte).toList ++ [',']) := by
  have joined : ' ' :: ((", ".intercalate (bytes.map Literal.ofByte)).toList ++ [','])
      = bytes.flatMap fun byte => ' ' :: ((Literal.ofByte byte).toList ++ [',']) := by
    induction bytes with
    | nil => exact absurd rfl filled
    | cons byte bytes ih =>
      cases bytes with
      | nil => simp
      | cons next bytes =>
        rw [List.flatMap_cons, ← ih (List.cons_ne_nil _ _), List.map_cons, List.map_cons,
          String.intercalate_cons_cons]
        simp
  rw [← joined, line]
  simp

theorem readPieces?_line {bytes : List UInt8} (filled : bytes ≠ []) :
    readPieces? ((line bytes).toList.splitOn ',') = some (bytes.map UInt8.toNat) := by
  rw [toList_line filled]
  exact readPieces?_splitOn (by simp) bytes

/-- **The lines of some bytes are read as these bytes**, from any place on. -/
theorem readLines?_dataLines (bytes : Array UInt8) (fuel start : Nat)
    (enough : bytes.size ≤ start + fuel) :
    readLines? ((BankSource.dataLines bytes fuel start).map String.toList)
      = some ((bytes.toList.drop start).map UInt8.toNat) := by
  induction fuel generalizing start with
  | zero =>
    rw [BankSource.dataLines, List.drop_eq_nil_of_le (by rw [Array.length_toList]; exact enough)]
    rfl
  | succ fuel ih =>
    rw [BankSource.dataLines]
    split
    case isTrue past =>
      rw [List.drop_eq_nil_of_le (by rw [Array.length_toList]; exact past)]
      rfl
    case isFalse within =>
      have chunk : (bytes.extract start (start + BankSource.bytesPerLine)).toList
          = (bytes.toList.drop start).take BankSource.bytesPerLine := by
        rw [Array.toList_extract, List.extract_eq_take_drop, Nat.add_sub_cancel_left]
      have filled : (bytes.toList.drop start).take BankSource.bytesPerLine ≠ [] := by
        refine List.ne_nil_of_length_pos ?_
        rw [List.length_take, List.length_drop, Array.length_toList, BankSource.bytesPerLine]
        omega
      have rest := ih (start + BankSource.bytesPerLine) (by rw [BankSource.bytesPerLine]; omega)
      have first := readPieces?_line filled
      rw [chunk, List.map_cons, readLines?]
      show (readPieces? ((line ((bytes.toList.drop start).take _)).toList.splitOn ',') >>= _) = _
      rw [first, rest]
      show some (_ ++ _) = _
      rw [← List.map_append, ← List.drop_drop, List.take_append_drop]

/-! ### The text of a bank -/

/-- A name that is made of such characters as an identifier is. -/
def IsPlain (name : String) : Prop := ∀ c ∈ name.toList, Identifier.isPart c = true

theorem IsPlain.isWhole {name : String} (plain : IsPlain name) : IsWhole name :=
  fun feed => absurd (plain _ feed) (by decide)

theorem isWhole_ofOffset (offset : Nat) : IsWhole (Literal.ofOffset offset) := by
  rw [Literal.ofOffset, isWhole_append_iff]
  exact ⟨by decide, fun feed => absurd (Literal.isHexDigit_of_mem_lower feed) (by decide)⟩

theorem isWhole_ofByte (byte : UInt8) : IsWhole (Literal.ofByte byte) := by
  rw [Literal.ofByte, isWhole_append_iff]
  exact ⟨by decide, fun feed => absurd (Literal.isHexDigit_of_mem_upper feed) (by decide)⟩

theorem isWhole_ofBank (index : UInt16) : IsWhole (Literal.ofBank index) := by
  intro feed
  rw [Literal.ofBank, String.toList_ofList] at feed
  rcases List.mem_append.1 feed with zero | digit
  · cases List.eq_of_mem_replicate zero
  · exact absurd (Nat.isDigit_of_mem_toDigits (by decide) (by decide) digit) (by decide)

theorem isWhole_remark {aliases : Std.HashMap String (Array String)} {symbol : Placed}
    (plain : IsPlain symbol.name)
    (others : ∀ other ∈ aliases.getD symbol.name #[], IsPlain other) :
    IsWhole (BankSource.remark aliases symbol) := by
  have listed : IsWhole (", ".intercalate (aliases.getD symbol.name #[]).toList) :=
    isWhole_intercalate (by decide) fun other member =>
      (others other (Array.mem_toList_iff.1 member)).isWhole
  unfold BankSource.remark
  simp only [isWhole_append_iff]
  refine ⟨⟨⟨⟨⟨⟨⟨⟨by decide, isWhole_ofOffset _⟩, by decide⟩, isWhole_ofOffset _⟩, by decide⟩,
    plain.isWhole⟩, by decide⟩, ⟨by decide, isWhole_toString _⟩, by decide⟩, ?_⟩
  split
  · decide
  · exact isWhole_append_iff.2 ⟨by decide, listed⟩

theorem isWhole_line (bytes : List UInt8) : IsWhole (line bytes) := by
  have listed : IsWhole (", ".intercalate (bytes.map Literal.ofByte)) := by
    refine isWhole_intercalate (by decide) fun text member => ?_
    obtain ⟨byte, _, rfl⟩ := List.mem_map.1 member
    exact isWhole_ofByte byte
  exact isWhole_append_iff.2 ⟨isWhole_append_iff.2 ⟨by decide, listed⟩, by decide⟩

theorem exists_line_of_mem_dataLines {bytes : Array UInt8} {fuel start : Nat} {text : String}
    (member : text ∈ BankSource.dataLines bytes fuel start) : ∃ shown, text = line shown := by
  induction fuel generalizing start with
  | zero => cases member
  | succ fuel ih =>
    rw [BankSource.dataLines] at member
    split at member
    · cases member
    · rcases List.mem_cons.1 member with rfl | later
      · exact ⟨_, rfl⟩
      · exact ih later

/-- The lines before the array of a bank. -/
def headLines (aliases : Std.HashMap String (Array String)) (bank : Bank) : List String :=
  [s!"#pragma bank {bank.index.toNat}", banner, ""]
    ++ bank.symbols.toList.map (BankSource.remark aliases)

/-- The array is opened, has its data, and is closed. -/
theorem lines_eq (aliases : Std.HashMap String (Array String)) (bank : Bank) :
    BankSource.lines aliases bank = headLines aliases bank
      ++ openingLine (bankArrayName bank.index)
        :: (BankSource.dataLines bank.image bank.used 0 ++ [DataSource.closingLine]) := by
  simp only [BankSource.lines, headLines, List.append_assoc]
  rfl

variable {aliases : Std.HashMap String (Array String)} {bank : Bank}

theorem isWhole_openingLine {name : String} (whole : IsWhole name) : IsWhole (openingLine name) :=
  isWhole_append_iff.2 ⟨isWhole_append_iff.2 ⟨by decide, whole⟩, by decide⟩

theorem isWhole_bankArrayName (index : UInt16) : IsWhole (bankArrayName index) :=
  isWhole_append_iff.2 ⟨isWhole_append_iff.2 ⟨by decide, isWhole_ofBank index⟩, by decide⟩

/-- Where names are plain, the text of a bank is in lines. -/
theorem isWhole_of_mem_lines (plain : ∀ symbol ∈ bank.symbols, IsPlain symbol.name)
    (others : ∀ name, ∀ other ∈ aliases.getD name #[], IsPlain other) :
    ∀ text ∈ BankSource.lines aliases bank, IsWhole text := by
  rw [lines_eq, headLines]
  simp only [List.forall_mem_append, List.forall_mem_cons, List.mem_map, forall_exists_index,
    and_imp]
  refine ⟨⟨⟨?_, by decide, by decide, List.forall_mem_nil _⟩, fun text symbol member same => ?_⟩,
    isWhole_openingLine (isWhole_bankArrayName _), fun text member => ?_, by decide,
    List.forall_mem_nil _⟩
  · exact isWhole_append_iff.2 ⟨by decide, isWhole_toString _⟩
  · rw [← same]
    exact isWhole_remark (plain symbol (Array.mem_toList_iff.1 member)) (others _)
  · obtain ⟨shown, rfl⟩ := exists_line_of_mem_dataLines member
    exact isWhole_line shown

theorem head?_toList_append {start : String} {first : Char}
    (starts : start.toList.head? = some first) (rest : String) :
    (start ++ rest).toList.head? = some first := by
  rw [String.toList_append, List.head?_append, starts, Option.some_or]

theorem head?_toList_openingLine (name : String) :
    (openingLine name).toList.head? = some 'c' := by
  have first : "const unsigned char ".toList.head? = some 'c' := by decide
  unfold openingLine
  rw [String.append_assoc]
  exact head?_toList_append first _

theorem head?_toList_remark (symbol : Placed) :
    (BankSource.remark aliases symbol).toList.head? = some '/' := by
  unfold BankSource.remark
  simp only [String.append_assoc]
  exact head?_toList_append (by decide) _

/-- The lines before the array start otherwise than the line that opens it. -/
theorem ne_openingLine_of_mem_headLines {name text : String}
    (member : text ∈ headLines aliases bank) : text ≠ openingLine name := by
  rintro rfl
  have starts := head?_toList_openingLine name
  rw [headLines, List.mem_append, List.mem_cons, List.mem_cons, List.mem_singleton] at member
  rcases member with (pragma | same | empty) | remark
  · have other : (s!"#pragma bank {bank.index.toNat}").toList.head? = some '#' :=
      head?_toList_append (by decide) _
    rw [pragma, other] at starts
    exact absurd starts (by decide)
  · rw [same] at starts
    exact absurd starts (by decide)
  · rw [empty] at starts
    exact absurd starts nofun
  · obtain ⟨symbol, _, same⟩ := List.mem_map.1 remark
    rw [← same, head?_toList_remark] at starts
    exact absurd starts (by decide)

theorem line_ne_closingLine (bytes : List UInt8) : line bytes ≠ DataSource.closingLine := by
  intro same
  have first := congrArg (fun text => text.toList.head?) same
  simp [line, DataSource.closingLine] at first

/-- **The array of a bank is read as its contents**, if the names in it are plain. -/
theorem readArray?_joinLines (plain : ∀ symbol ∈ bank.symbols, IsPlain symbol.name)
    (others : ∀ name, ∀ other ∈ aliases.getD name #[], IsPlain other) :
    readArray? (bankArrayName bank.index) (joinLines (BankSource.lines aliases bank))
      = some (bank.image.toList.map UInt8.toNat) := by
  have before : ∀ text ∈ (headLines aliases bank).map String.toList,
      decide (text ≠ (openingLine (bankArrayName bank.index)).toList) = true := by
    intro text member
    obtain ⟨written, listed, rfl⟩ := List.mem_map.1 member
    exact decide_eq_true fun same =>
      ne_openingLine_of_mem_headLines listed (String.toList_injective same)
  have within : ∀ text ∈ (BankSource.dataLines bank.image bank.used 0).map String.toList,
      decide (text ≠ DataSource.closingLine.toList) = true := by
    intro text member
    obtain ⟨written, listed, rfl⟩ := List.mem_map.1 member
    obtain ⟨bytes, rfl⟩ := exists_line_of_mem_dataLines listed
    exact decide_eq_true fun same => line_ne_closingLine bytes (String.toList_injective same)
  have read : readLines? ((BankSource.dataLines bank.image bank.used 0).map String.toList)
      = some (bank.image.toList.map UInt8.toNat) := by
    refine readLines?_dataLines bank.image bank.used 0 ?_
    rw [bank.size_image, Nat.zero_add]
  rw [readArray?, lines_joinLines (isWhole_of_mem_lines plain others), lines_eq, List.map_append,
    List.map_cons, DataSource.dropWhile_append_cons before (by simp)]
  dsimp only
  rw [List.map_append, List.map_singleton, if_pos (List.mem_append_right _ List.mem_cons_self),
    DataSource.takeWhile_append_cons within (by simp), read]

end Cartridge.BankArray
