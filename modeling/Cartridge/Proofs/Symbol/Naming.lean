import Mathlib
import Cartridge.Asset.Packing
import Cartridge.Source.Header

/-!
# Names and symbols

A symbol tells what kind of thing it stands for and the identifier of its name, and nothing more. It
has no capital letters, so that its macro tells the symbol.

* `Identifier.isPart`: the characters that identifiers, symbols and the names of what is stored are
  made of.
* `Declaration.symbol_eq_iff`: when two declarations have the same symbol.
* `Declaration.symbol_ne_blob`: the names of what is stored are not among the symbols.
* `Header.symbolMacro_injective`: different symbols have different macros.
-/

namespace Cartridge

namespace Identifier

theorem isUpper_character (c : Char) : (character c).isUpper = false := by
  unfold character
  split
  · exact Char.isUpper_toLower_eq_false c
  · rfl

theorem mem_guard {c : Char} {characters : List Char} (member : c ∈ guard characters) :
    c = '_' ∨ c ∈ characters := by
  unfold guard at member
  split at member
  · exact .inl (List.mem_singleton.1 member)
  · split at member
    · exact List.mem_cons.1 member
    · exact .inr member

/-- Whether a character is an ASCII letter, a digit or an underscore. -/
def isPart (c : Char) : Bool := c.isAlphanum || c == '_'

theorem isPart_character (c : Char) : isPart (character c) = true := by
  unfold character
  split
  · rename_i letterOrDigit
    rcases Bool.or_eq_true_iff.1 letterOrDigit with letter | digit
    · have small : c.toLower.isAlpha = true := by rwa [Char.isAlpha_toLower_eq_isAlpha]
      simp [isPart, Char.isAlphanum, small]
    · have small : ¬ c.isUpper = true := by
        simp only [Char.isDigit, Char.isUpper, Bool.and_eq_true, decide_eq_true_eq] at digit ⊢
        intro capital
        exact absurd (UInt32.le_trans capital.1 digit.2) (by decide)
      rw [Char.toLower_eq_of_not_isUpper small]
      simp [isPart, Char.isAlphanum, digit]
  · rfl

/-- **An identifier is made of such characters.** -/
theorem isPart_of_mem_ofName {name : String} {c : Char} (member : c ∈ (ofName name).toList) :
    isPart c = true := by
  rw [ofName, String.toList_ofList] at member
  rcases mem_guard member with rfl | original
  · rfl
  · obtain ⟨other, _, rfl⟩ := List.mem_map.1 original
    exact isPart_character other

/-- **An identifier has no capital letters.** -/
theorem isUpper_of_mem_ofName {name : String} {c : Char} (member : c ∈ (ofName name).toList) :
    c.isUpper = false := by
  rw [ofName, String.toList_ofList] at member
  rcases mem_guard member with rfl | original
  · rfl
  · obtain ⟨other, _, rfl⟩ := List.mem_map.1 original
    exact isUpper_character other

/-- Where there are no capital letters, the spelling for constants can be undone. -/
theorem map_toLower_upper {identifier : String}
    (small : ∀ c ∈ identifier.toList, c.isUpper = false) :
    (upper identifier).map Char.toLower = identifier := by
  apply String.ext
  rw [String.toList_map, upper, String.toList_map, List.map_map]
  refine (List.map_congr_left fun c member => ?_).trans (List.map_id _)
  show c.toUpper.toLower = c
  rw [Char.toLower_toUpper_eq_toLower, Char.toLower_eq_of_not_isUpper]
  rw [small c member]
  exact Bool.false_ne_true

end Identifier

/-- What all symbols of a category start with. -/
def Category.start : Category → String
  | .scene => "scene_"
  | .actor => "actor_"
  | .trigger => "trigger_"
  | .script => "script_"
  | .asset => "asset_"
  | .palette => "palette_"

/-- What all symbols of a category end with. -/
def Category.finish : Category → String
  | .scene => "_init"
  | .actor => "_interact"
  | .trigger => "_enter"
  | .script | .asset | .palette => ""

theorem Category.start_injective {first second : Category}
    (same : first.start.toList.take 3 = second.start.toList.take 3) : first = second := by
  cases first <;> cases second <;> first | rfl | exact absurd same (by decide)

namespace Declaration

theorem symbol_eq (declaration : Declaration) :
    declaration.symbol = declaration.category.start ++ Identifier.ofName declaration.name
      ++ declaration.category.finish := by
  obtain ⟨category, name⟩ := declaration
  cases category <;> first | rfl | exact String.append_empty.symm

theorem take_symbol (declaration : Declaration) :
    declaration.symbol.toList.take 3 = declaration.category.start.toList.take 3 := by
  have long : 3 ≤ declaration.category.start.toList.length := by
    cases declaration.category <;> decide
  rw [symbol_eq, String.toList_append, String.toList_append, List.append_assoc,
    List.take_append_of_le_length long]

/-- **When two declarations have the same symbol**: if they are of one category and their names have
the same identifier. -/
theorem symbol_eq_iff (first second : Declaration) :
    first.symbol = second.symbol ↔ first.category = second.category
      ∧ Identifier.ofName first.name = Identifier.ofName second.name := by
  obtain ⟨category, name⟩ := first
  obtain ⟨other, another⟩ := second
  constructor
  · intro same
    have starts : category.start.toList.take 3 = other.start.toList.take 3 := by
      rw [← take_symbol ⟨category, name⟩, ← take_symbol ⟨other, another⟩, same]
    cases Category.start_injective starts
    rw [symbol_eq, symbol_eq] at same
    exact ⟨rfl, String.append_right_inj _ |>.1 (String.append_left_inj _ |>.1 same)⟩
  · rintro ⟨rfl, same⟩
    rw [symbol_eq, symbol_eq]
    show _ ++ Identifier.ofName name ++ _ = _
    rw [show Identifier.ofName name = _ from same]

/-- **A symbol has no capital letters.** -/
theorem isUpper_of_mem_symbol (declaration : Declaration) {c : Char}
    (member : c ∈ declaration.symbol.toList) : c.isUpper = false := by
  have startSmall : ∀ c ∈ declaration.category.start.toList, c.isUpper = false := by
    cases declaration.category <;> simp [Category.start]
  have finishSmall : ∀ c ∈ declaration.category.finish.toList, c.isUpper = false := by
    cases declaration.category <;> simp [Category.finish]
  rw [symbol_eq, String.toList_append, String.toList_append, List.mem_append,
    List.mem_append] at member
  rcases member with (start | name) | finish
  · exact startSmall c start
  · exact Identifier.isUpper_of_mem_ofName name
  · exact finishSmall c finish

/-- A symbol is made of such characters as an identifier is. -/
theorem isPart_of_mem_symbol (declaration : Declaration) {c : Char}
    (member : c ∈ declaration.symbol.toList) : Identifier.isPart c = true := by
  have startPart : ∀ c ∈ declaration.category.start.toList, Identifier.isPart c = true := by
    cases declaration.category <;> simp [Category.start, Identifier.isPart, Char.isAlphanum]
  have finishPart : ∀ c ∈ declaration.category.finish.toList, Identifier.isPart c = true := by
    cases declaration.category <;> simp [Category.finish, Identifier.isPart, Char.isAlphanum]
  rw [symbol_eq, String.toList_append, String.toList_append, List.mem_append,
    List.mem_append] at member
  rcases member with (start | name) | finish
  · exact startPart c start
  · exact Identifier.isPart_of_mem_ofName name
  · exact finishPart c finish

theorem symbol_ne_blob (declaration : Declaration) (asset : PackedAsset) :
    declaration.symbol ≠ asset.symbol := by
  intro same
  have starts := take_symbol declaration
  rw [same, PackedAsset.symbol, String.toList_append,
    List.take_append_of_le_length (by decide)] at starts
  cases category : declaration.category <;> rw [category] at starts <;>
    exact absurd starts (by decide)

end Declaration

/-- **Different symbols have different macros.** -/
theorem Header.symbolMacro_injective {first second : Declaration}
    (same : symbolMacro first.symbol = symbolMacro second.symbol) :
    first.symbol = second.symbol := by
  have spelled : Identifier.upper first.symbol = Identifier.upper second.symbol :=
    String.append_right_inj _ |>.1 same
  rw [← Identifier.map_toLower_upper fun _ => first.isUpper_of_mem_symbol, spelled,
    Identifier.map_toLower_upper fun _ => second.isUpper_of_mem_symbol]

end Cartridge
