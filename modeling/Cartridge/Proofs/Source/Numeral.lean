import Mathlib.Data.List.Basic
import Cartridge.Source.Literal

/-!
# Reading numbers

* `Literal.numberOf`: the number that some digits stand for.
* `Literal.numberOf_toDigits`: the digits of a number stand for it.
* `Literal.numberOf_lower`, `Literal.numberOf_upper`: so does the hexadecimal text of a number, with
  zeros before it, in small or in capital letters.
* `Literal.ofBank_injective`: so the text for a bank tells the bank.
-/

namespace Cartridge.Literal

/-- Whether a character is a hexadecimal digit. -/
def isHexDigit (c : Char) : Bool := c.isDigit || ('a' ≤ c && c ≤ 'f') || ('A' ≤ c && c ≤ 'F')

/-- The number that a digit stands for. -/
def digitValue (c : Char) : Nat :=
  if c.isDigit then c.toNat - '0'.toNat
  else if c.isLower then c.toNat - 'a'.toNat + 10
  else c.toNat - 'A'.toNat + 10

/-- **The number that some digits stand for**, the highest one first. -/
def numberOf (base : Nat) (digits : List Char) : Nat :=
  digits.foldl (fun value c => base * value + digitValue c) 0

theorem digitValue_digitChar : ∀ digit < 16, digitValue (Nat.digitChar digit) = digit := by
  decide

theorem isHexDigit_digitChar : ∀ digit < 16, isHexDigit (Nat.digitChar digit) = true := by
  decide

variable {base : Nat}

/-- What a number is written with are digits. -/
theorem mem_toDigits (large : 1 < base) {number : Nat} {c : Char}
    (member : c ∈ Nat.toDigits base number) : ∃ digit < base, c = Nat.digitChar digit := by
  induction number using Nat.strongRecOn with
  | ind number ih =>
    rw [Nat.toDigits_eq_if large] at member
    split at member
    · rename_i small
      exact ⟨number, small, List.mem_singleton.1 member⟩
    · rename_i many
      rcases List.mem_append.1 member with high | low
      · exact ih (number / base) (Nat.div_lt_self (by omega) large) high
      · exact ⟨number % base, Nat.mod_lt _ (by omega), List.mem_singleton.1 low⟩

/-- **The digits of a number stand for it.** -/
theorem numberOf_toDigits (large : 1 < base) (small : base ≤ 16) (number : Nat) :
    numberOf base (Nat.toDigits base number) = number := by
  induction number using Nat.strongRecOn with
  | ind number ih =>
    have last : digitValue (Nat.digitChar (number % base)) = number % base :=
      digitValue_digitChar _ (Nat.lt_of_lt_of_le (Nat.mod_lt _ (by omega)) small)
    rw [Nat.toDigits_eq_if large]
    split
    · rename_i single
      rw [Nat.mod_eq_of_lt single] at last
      show base * 0 + digitValue _ = number
      rw [last, Nat.mul_zero, Nat.zero_add]
    · rename_i many
      have before := ih (number / base) (Nat.div_lt_self (by omega) large)
      rw [numberOf, List.foldl_append]
      show base * numberOf base (Nat.toDigits base (number / base)) + digitValue _ = number
      rw [before, last, Nat.div_add_mod]

/-- The text of a number stands for it. -/
theorem numberOf_toString (number : Nat) : numberOf 10 (toString number).toList = number := by
  rw [Nat.toString_eq_repr, Nat.toList_repr, numberOf_toDigits (by decide) (by decide)]

theorem numberOf_zeros (zeros : Nat) (digits : List Char) :
    numberOf base (List.replicate zeros '0' ++ digits) = numberOf base digits := by
  induction zeros with
  | zero => rfl
  | succ zeros ih =>
    have first : base * 0 + digitValue '0' = 0 := Nat.zero_add _ |>.trans (by decide)
    rw [List.replicate_succ, List.cons_append, ← ih]
    show List.foldl _ (base * 0 + digitValue '0') _ = _
    rw [first]
    rfl

/-- The text for a bank tells the bank. -/
theorem ofBank_injective {first second : UInt16} (same : ofBank first = ofBank second) :
    first = second := by
  have value : ∀ index : UInt16, numberOf 10 (ofBank index).toList = index.toNat := by
    intro index
    rw [ofBank, String.toList_ofList, numberOf_zeros, numberOf_toDigits (by decide) (by decide)]
  exact UInt16.toNat_inj.1 (by rw [← value first, same, value])

theorem toList_lower (width value : Nat) :
    (Hex.lower width value).toList
      = List.replicate (width - (Nat.toDigits 16 value).length) '0' ++ Nat.toDigits 16 value := by
  rw [Hex.lower, String.toList_ofList]

/-- **The hexadecimal text of a number stands for it.** -/
theorem numberOf_lower (width value : Nat) :
    numberOf 16 (Hex.lower width value).toList = value := by
  rw [toList_lower, numberOf_zeros, numberOf_toDigits (by decide) (by decide)]

theorem exists_digit_of_mem_lower {width value : Nat} {c : Char}
    (member : c ∈ (Hex.lower width value).toList) : ∃ digit < 16, c = Nat.digitChar digit := by
  rw [toList_lower] at member
  rcases List.mem_append.1 member with zero | digit
  · exact ⟨0, by decide, List.eq_of_mem_replicate zero⟩
  · exact mem_toDigits (by decide) digit

theorem isHexDigit_of_mem_lower {width value : Nat} {c : Char}
    (member : c ∈ (Hex.lower width value).toList) : isHexDigit c = true := by
  obtain ⟨digit, small, rfl⟩ := exists_digit_of_mem_lower member
  exact isHexDigit_digitChar digit small

theorem toList_upper (width value : Nat) :
    (Hex.upper width value).toList = (Hex.lower width value).toList.map Char.toUpper := by
  rw [Hex.upper, String.toList_map]

theorem digitValue_toUpper : ∀ digit < 16,
    digitValue (Nat.digitChar digit).toUpper = digitValue (Nat.digitChar digit) := by
  decide

theorem isHexDigit_toUpper : ∀ digit < 16,
    isHexDigit (Nat.digitChar digit).toUpper = true := by
  decide

/-- Capital letters stand for the same digits. -/
theorem numberOf_map_toUpper {digits : List Char}
    (each : ∀ c ∈ digits, ∃ digit < 16, c = Nat.digitChar digit) :
    numberOf base (digits.map Char.toUpper) = numberOf base digits := by
  rw [numberOf, numberOf, List.foldl_map]
  refine List.foldl_ext _ _ _ fun value c member => ?_
  obtain ⟨digit, small, rfl⟩ := each c member
  rw [digitValue_toUpper digit small]

/-- **So it does with capital letters.** -/
theorem numberOf_upper (width value : Nat) :
    numberOf 16 (Hex.upper width value).toList = value := by
  rw [toList_upper, numberOf_map_toUpper fun _ => exists_digit_of_mem_lower, numberOf_lower]

theorem isHexDigit_of_mem_upper {width value : Nat} {c : Char}
    (member : c ∈ (Hex.upper width value).toList) : isHexDigit c = true := by
  rw [toList_upper] at member
  obtain ⟨original, listed, rfl⟩ := List.mem_map.1 member
  obtain ⟨digit, small, rfl⟩ := exists_digit_of_mem_lower listed
  exact isHexDigit_toUpper digit small

theorem toList_upper_ne_nil {width : Nat} (wide : 0 < width) (value : Nat) :
    (Hex.upper width value).toList ≠ [] := by
  refine List.ne_nil_of_length_pos ?_
  rw [toList_upper, List.length_map, toList_lower, List.length_append, List.length_replicate]
  omega

end Cartridge.Literal
