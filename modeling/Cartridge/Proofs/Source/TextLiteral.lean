import Cartridge.Proofs.Source.Numeral
import Cartridge.Proofs.Text.Line

/-!
# Reading string literals

A string literal as the engine's compiler takes it from the text of a source: an escape is a quote, a
backslash, or as many octal digits as there are up to three, and any other character stands for
itself. A line feed ends no literal, and no trigraphs are known.

* `Literal.readText?`: the bytes of a literal, and what stands behind its closing quote.
* `Literal.readText?_escaped`: each byte is read back, whatever stands behind it.
* `DataSource.readTitle?`: the bytes of the title in the text of a source.
* `Literal.ofText_isFaithful`: **a text is read back from its literal**, which stays on its line.
-/

namespace Cartridge

namespace Literal

/-! ### Reading -/

/-- Whether a character is an octal digit. -/
def isOctalDigit (c : Char) : Bool := '0' ≤ c && c ≤ '7'

/-- The byte that is meant behind a backslash, and how many characters belong to it. A number that
is no byte is refused. -/
def readEscape? (rest : List Char) : Option (UInt8 × Nat) :=
  match rest with
  | '"' :: _ => some (0x22, 1)
  | '\\' :: _ => some (0x5C, 1)
  | _ =>
    let digits := (rest.takeWhile isOctalDigit).take 3
    if digits.isEmpty || 255 < numberOf 8 digits then none
    else some (UInt8.ofNat (numberOf 8 digits), digits.length)

/-- **The bytes of a literal up to its closing quote**, and what stands behind the quote. -/
def readText? : List Char → Option (List UInt8 × List Char)
  | [] => none
  | '"' :: rest => some ([], rest)
  | '\n' :: _ => none
  | '\\' :: rest =>
    match readEscape? rest with
    | none => none
    | some (byte, taken) =>
      (readText? (rest.drop taken)).map fun (bytes, behind) => (byte :: bytes, behind)
  | first :: rest =>
    (readText? rest).map fun (bytes, behind) => (String.utf8EncodeChar first ++ bytes, behind)
termination_by text => text.length
decreasing_by
  · simp only [List.length_drop, List.length_cons]
    omega
  · simp

/-! ### What is written is read -/

theorem isOctalDigit_octalDigit (value place : Nat) : isOctalDigit (octalDigit value place) = true := by
  have small : ∀ digit < 8, isOctalDigit (Char.ofNat (48 + digit)) = true := by decide
  exact small _ (Nat.mod_lt _ (by decide))

theorem digitValue_octalDigit (value place : Nat) :
    digitValue (octalDigit value place) = value >>> (3 * place) % 8 := by
  have small : ∀ digit < 8, digitValue (Char.ofNat (48 + digit)) = digit := by decide
  exact small _ (Nat.mod_lt _ (by decide))

/-- Three octal digits of a byte stand for it. -/
theorem numberOf_octalDigits {value : Nat} (small : value < 256) :
    numberOf 8 [octalDigit value 2, octalDigit value 1, octalDigit value 0] = value := by
  simp only [numberOf, List.foldl_cons, List.foldl_nil, digitValue_octalDigit,
    Nat.shiftRight_eq_div_pow]
  omega

/-- **Three octal digits are an escape**, and a digit behind them does not belong to it. -/
theorem readEscape?_octalDigits (byte : UInt8) (rest : List Char) :
    readEscape? (octalDigit byte.toNat 2 :: octalDigit byte.toNat 1 :: octalDigit byte.toNat 0
      :: rest) = some (byte, 3) := by
  have number := numberOf_octalDigits byte.toNat_lt
  have octal := isOctalDigit_octalDigit byte.toNat
  unfold readEscape?
  split
  · next whole =>
    have quote := octal 2
    rw [(List.cons.inj whole).1] at quote
    cases quote
  · next whole =>
    have backslash := octal 2
    rw [(List.cons.inj whole).1] at backslash
    cases backslash
  · have digits : ((octalDigit byte.toNat 2 :: octalDigit byte.toNat 1 :: octalDigit byte.toNat 0
        :: rest).takeWhile isOctalDigit).take 3
          = [octalDigit byte.toNat 2, octalDigit byte.toNat 1, octalDigit byte.toNat 0] := by
      simp [octal]
    have small : ¬ 255 < byte.toNat := Nat.not_lt.2 (Nat.le_of_lt_succ byte.toNat_lt)
    simp [digits, number, small]

/-- A character that is neither closing nor an escape stands for itself. -/
theorem readText?_cons {first : Char} (quote : first ≠ '"') (feed : first ≠ '\n')
    (backslash : first ≠ '\\') (rest : List Char) :
    readText? (first :: rest)
      = (readText? rest).map fun (bytes, behind) => (String.utf8EncodeChar first ++ bytes, behind) := by
  rw [readText?]
  · exact quote
  · exact feed
  · exact backslash

theorem toNat_ofNat_of_ascii : ∀ value < 128, (Char.ofNat value).toNat = value := by
  decide

theorem utf8EncodeChar_ofNat_of_ascii :
    ∀ value < 128, String.utf8EncodeChar (Char.ofNat value) = [UInt8.ofNat value] := by
  decide

/-- **Each byte is read back**, whatever stands behind it. -/
theorem readText?_escaped (byte : UInt8) (rest : List Char) :
    readText? (escaped byte ++ rest)
      = (readText? rest).map fun (bytes, behind) => (byte :: bytes, behind) := by
  by_cases quote : byte = 0x22
  · subst quote
    show readText? ('\\' :: '"' :: rest) = _
    rw [readText?]
    rfl
  by_cases backslash : byte = 0x5C
  · subst backslash
    show readText? ('\\' :: '\\' :: rest) = _
    rw [readText?]
    rfl
  by_cases plain : (0x20 ≤ byte && byte ≤ 0x7E) = true
  · obtain ⟨least, greatest⟩ : 0x20 ≤ byte.toNat ∧ byte.toNat ≤ 0x7E := by
      simpa [UInt8.le_iff_toNat_le] using plain
    have value := toNat_ofNat_of_ascii byte.toNat (by omega)
    have other {c : Char} (different : byte.toNat ≠ c.toNat) : Char.ofNat byte.toNat ≠ c := by
      rintro rfl
      exact different value.symm
    have written : escaped byte = [Char.ofNat byte.toNat] := by
      simp only [escaped, beq_iff_eq, quote, backslash, plain, if_true, if_false]
    rw [written, List.singleton_append, readText?_cons, utf8EncodeChar_ofNat_of_ascii _ (by omega),
      UInt8.ofNat_toNat]
    · rfl
    · exact other fun same => quote (UInt8.toNat_inj.1 same)
    · exact other (by show byte.toNat ≠ 10; omega)
    · exact other fun same => backslash (UInt8.toNat_inj.1 same)
  · have written : escaped byte = ['\\', octalDigit byte.toNat 2, octalDigit byte.toNat 1,
        octalDigit byte.toNat 0] := by
      simp only [escaped, beq_iff_eq, quote, backslash, plain, if_false]
      rfl
    rw [written, List.cons_append, readText?]
    simp [readEscape?_octalDigits]

/-- **Bytes are read back from their literal**, up to the quote that closes it. -/
theorem readText?_flatMap_escaped (bytes : List UInt8) (behind : List Char) :
    readText? (bytes.flatMap escaped ++ '"' :: behind) = some (bytes, behind) := by
  induction bytes with
  | nil => rw [List.flatMap_nil, List.nil_append, readText?]
  | cons byte bytes ih =>
    rw [List.flatMap_cons, List.append_assoc, readText?_escaped, ih]
    rfl

/-- **A literal is printable.** -/
theorem printable_of_mem_escaped {byte : UInt8} {c : Char} (member : c ∈ escaped byte) :
    0x20 ≤ c.toNat ∧ c.toNat ≤ 0x7E := by
  have digit (value place : Nat) :
      0x20 ≤ (octalDigit value place).toNat ∧ (octalDigit value place).toNat ≤ 0x7E := by
    have small : ∀ digit < 8,
        0x20 ≤ (Char.ofNat (48 + digit)).toNat ∧ (Char.ofNat (48 + digit)).toNat ≤ 0x7E := by
      decide
    exact small _ (Nat.mod_lt _ (by decide))
  unfold escaped at member
  split at member
  · revert c
    simp
  split at member
  · revert c
    simp
  split at member
  · next plain =>
    obtain ⟨least, greatest⟩ : 0x20 ≤ byte.toNat ∧ byte.toNat ≤ 0x7E := by
      simpa [UInt8.le_iff_toNat_le] using plain
    obtain rfl := List.mem_singleton.1 member
    rw [toNat_ofNat_of_ascii _ (by omega)]
    exact ⟨least, greatest⟩
  · simp only [List.mem_cons, List.not_mem_nil, or_false] at member
    rcases member with rfl | rfl | rfl | rfl
    · decide
    · exact digit _ _
    · exact digit _ _
    · exact digit _ _

theorem mem_toList_ofText {text : String} {c : Char} (member : c ∈ (ofText text).toList) :
    ∃ byte ∈ encoded text, c ∈ escaped byte := by
  rw [ofText, String.toList_ofList] at member
  exact List.mem_flatMap.1 member

theorem isWhole_ofText (text : String) : IsWhole (ofText text) := by
  intro feed
  obtain ⟨byte, _, inside⟩ := mem_toList_ofText feed
  exact absurd (printable_of_mem_escaped inside).1 (by decide)

theorem readText?_ofText (text : String) (behind : List Char) :
    readText? ((ofText text).toList ++ '"' :: behind) = some (encoded text, behind) := by
  rw [ofText, String.toList_ofList]
  exact readText?_flatMap_escaped (encoded text) behind

end Literal

namespace DataSource

/-! ### The title of a game -/

/-- What stands before the literal of the title. -/
def titleStart : String := "const char GAME_TITLE[] = \""

/-- **The bytes of the title that a source declares**: one line holds its literal, and only a
semicolon stands behind that. -/
def readTitle? (source : String) : Option (List UInt8) :=
  match (Cartridge.lines source.toList).find? (titleStart.toList.isPrefixOf ·) with
  | none => none
  | some line =>
    match Literal.readText? (line.drop titleStart.length) with
    | some (title, [';']) => some title
    | some _ | none => none

/-- The line that declares a title. -/
def titleLine (title : String) : String := titleStart ++ Literal.ofText title ++ "\";"

theorem isWhole_titleLine (title : String) : IsWhole (titleLine title) := by
  rw [titleLine, isWhole_append_iff, isWhole_append_iff]
  exact ⟨⟨by decide, Literal.isWhole_ofText title⟩, by decide⟩

/-- The title is declared on the fourth line. -/
theorem lines_joinLines_lines (game : Game) : ∃ rest,
    Cartridge.lines (joinLines (lines game)).toList
      = banner.toList :: (s!"#include \"{dataHeaderName}\"").toList :: []
        :: (titleLine game.title).toList :: rest := by
  obtain ⟨rest, written⟩ : ∃ rest, lines game
      = banner :: s!"#include \"{dataHeaderName}\"" :: "" :: titleLine game.title :: rest :=
    ⟨_, rfl⟩
  refine ⟨Cartridge.lines (joinLines rest).toList, ?_⟩
  rw [written, lines_joinLines_cons (by decide), lines_joinLines_cons (by decide),
    lines_joinLines_cons (by decide), lines_joinLines_cons (isWhole_titleLine _)]
  rfl

/-- **The title is read from the source** as it is. -/
theorem readTitle?_lines (game : Game) :
    readTitle? (joinLines (lines game)) = some (encoded game.title) := by
  have found : (Cartridge.lines (joinLines (lines game)).toList).find?
      (titleStart.toList.isPrefixOf ·) = some (titleLine game.title).toList := by
    have start : titleStart.toList.isPrefixOf (titleLine game.title).toList = true := by
      rw [titleLine, String.append_assoc, String.toList_append, List.isPrefixOf_iff_prefix]
      exact List.prefix_append _ _
    obtain ⟨rest, source⟩ := lines_joinLines_lines game
    rw [source, List.find?_cons_of_neg (by decide), List.find?_cons_of_neg (by decide),
      List.find?_cons_of_neg (by decide), List.find?_cons_of_pos start]
  have literal : (titleLine game.title).toList.drop titleStart.length
      = (Literal.ofText game.title).toList ++ '"' :: [';'] := by
    rw [titleLine, String.append_assoc, String.toList_append, ← String.length_toList,
      List.drop_left, String.toList_append]
    rfl
  rw [readTitle?, found]
  dsimp only
  rw [literal, Literal.readText?_ofText]
  rfl

end DataSource

namespace Literal

/-- **A text survives its literal.** -/
structure IsFaithful (text : String) : Prop where
  /-- The literal ends at the quote behind it and nowhere before, and it holds the bytes of the
  text. -/
  read : ∀ behind, readText? ((ofText text).toList ++ '"' :: behind) = some (encoded text, behind)
  /-- It is printable, -/
  printable : ∀ c ∈ (ofText text).toList, 0x20 ≤ c.toNat ∧ c.toNat ≤ 0x7E
  /-- and that of no other text. -/
  injective : ∀ other, ofText other = ofText text → other = text
  /-- A game with that title declares it on one line of its source. -/
  declared : ∀ game : Game, game.title = text →
    (DataSource.titleLine text).toList ∈ lines (joinLines (DataSource.lines game)).toList
      ∧ DataSource.readTitle? (joinLines (DataSource.lines game)) = some (encoded text)

/-- **A text is read back from its literal**, whatever characters it holds. -/
theorem ofText_isFaithful (text : String) : IsFaithful text where
  read := readText?_ofText text
  printable := by
    intro c member
    obtain ⟨byte, _, inside⟩ := mem_toList_ofText member
    exact printable_of_mem_escaped inside
  injective := by
    intro other same
    have read := readText?_ofText other []
    rw [same, readText?_ofText] at read
    exact (encoded_injective (Prod.mk.inj (Option.some.inj read)).1).symm
  declared := by
    rintro game rfl
    obtain ⟨rest, source⟩ := DataSource.lines_joinLines_lines game
    refine ⟨?_, DataSource.readTitle?_lines game⟩
    rw [source]
    simp

/-- A digit behind an escape stays a digit, and a quote does not end the literal. -/
example : readText? "\\0121\\\"\";".toList = some ([0x0A, 0x31, 0x22], [';']) := by
  decide +kernel

end Literal

end Cartridge
