import Cartridge.Source.Data
import Cartridge.Text.Line

/-!
# Texts in lines

* `append_cons_inj`: what stands before the first separator is told apart from what follows it.
* `IsWhole`: a text within one line.
* `lines_append_cons`: a line ends at its line feed.
* `lines_joinLines`: lines are read as they were written.
* `IsLine`, `mem_zipIdx_lines_iff`: the lines of any text, and their numbers.
* `Trims`, `trim_eq_iff`: trimming a line takes the blanks at its ends away.
-/

namespace Cartridge

/-- What stands before the first separator is told apart from what follows it. -/
theorem append_cons_inj {α : Type} {separator : α} {first second rest others : List α}
    (clear : separator ∉ first) (alsoClear : separator ∉ second)
    (same : first ++ separator :: rest = second ++ separator :: others) :
    first = second ∧ rest = others := by
  induction first generalizing second with
  | nil =>
    cases second with
    | nil => exact ⟨rfl, (List.cons.inj same).2⟩
    | cons item second =>
      cases same
      exact absurd List.mem_cons_self alsoClear
  | cons item first ih =>
    cases second with
    | nil =>
      cases same
      exact absurd List.mem_cons_self clear
    | cons other second =>
      obtain ⟨rfl, tail⟩ := List.cons.inj same
      obtain ⟨rfl, tails⟩ := ih (mt (List.mem_cons_of_mem _) clear)
        (mt (List.mem_cons_of_mem _) alsoClear) tail
      exact ⟨rfl, tails⟩

/-- A text within one line. -/
def IsWhole (text : String) : Prop := '\n' ∉ text.toList

instance (text : String) : Decidable (IsWhole text) :=
  inferInstanceAs (Decidable ('\n' ∉ text.toList))

theorem isWhole_append_iff {first second : String} :
    IsWhole (first ++ second) ↔ IsWhole first ∧ IsWhole second := by
  rw [IsWhole, String.toList_append, List.mem_append, not_or]
  rfl

theorem isWhole_toString (number : Nat) : IsWhole (toString number) := by
  intro feed
  rw [Nat.toString_eq_repr, Nat.toList_repr] at feed
  exact absurd (Nat.isDigit_of_mem_toDigits (by decide) (by decide) feed) (by decide)

theorem isWhole_intercalate {between : String} {texts : List String} (clear : IsWhole between)
    (each : ∀ text ∈ texts, IsWhole text) : IsWhole (between.intercalate texts) := by
  induction texts with
  | nil =>
    rw [String.intercalate_nil]
    decide
  | cons text texts ih =>
    have later := ih fun other member => each other (List.mem_cons_of_mem _ member)
    have first := each text List.mem_cons_self
    cases texts with
    | nil => rwa [String.intercalate_singleton]
    | cons next texts =>
      rw [String.intercalate_cons_cons, isWhole_append_iff, isWhole_append_iff]
      exact ⟨⟨first, clear⟩, later⟩

/-! ### Lines that were written -/

theorem linesOnto_append_cons {line : List Char} (whole : '\n' ∉ line)
    (before : List (List Char)) (current rest : List Char) :
    linesOnto before current (line ++ '\n' :: rest)
      = linesOnto ((current.reverse ++ line) :: before) [] rest := by
  induction line generalizing current with
  | nil =>
    rw [List.nil_append, linesOnto, List.append_nil]
  | cons c line ih =>
    rw [List.mem_cons, not_or] at whole
    obtain ⟨other, whole⟩ := whole
    rw [List.cons_append, linesOnto, ih whole, List.reverse_cons, List.append_assoc,
      List.singleton_append]
    exact fun same => other same.symm

/-- The lines before do not matter. -/
theorem linesOnto_eq (before : List (List Char)) (current text : List Char) :
    linesOnto before current text = before.reverse ++ linesOnto [] current text := by
  induction text generalizing before current with
  | nil => by_cases none : current.isEmpty = true <;> simp [linesOnto, none]
  | cons first text ih =>
    by_cases feed : first = '\n'
    · subst feed
      rw [linesOnto, linesOnto, ih, ih [current.reverse]]
      simp
    · rw [linesOnto, linesOnto, ih]
      · exact feed
      · exact feed

/-- A line ends at its line feed. -/
theorem lines_append_cons {line : List Char} (whole : '\n' ∉ line) (rest : List Char) :
    lines (line ++ '\n' :: rest) = line :: lines rest := by
  rw [lines, linesOnto_append_cons whole, linesOnto_eq]
  rfl

theorem toList_joinLines_cons (line : String) (written : List String) :
    (joinLines (line :: written)).toList = line.toList ++ '\n' :: (joinLines written).toList := by
  simp [joinLines]

theorem lines_joinLines_cons {line : String} (whole : IsWhole line) (written : List String) :
    lines (joinLines (line :: written)).toList
      = line.toList :: lines (joinLines written).toList := by
  rw [toList_joinLines_cons, lines_append_cons whole]

/-- **Lines are read as they were written.** -/
theorem lines_joinLines {written : List String} (whole : ∀ line ∈ written, IsWhole line) :
    lines (joinLines written).toList = written.map String.toList := by
  induction written with
  | nil => rfl
  | cons line written ih =>
    rw [lines_joinLines_cons (whole line List.mem_cons_self),
      ih fun other member => whole other (List.mem_cons_of_mem _ member), List.map_cons]

/-! ### The lines of any text -/

/-- **A line of a text**: it stands at the beginning or behind a line feed, and it is followed by a
line feed, or it is the rest of the text and holds something. Its number is by one greater than the
number of the line feeds before it. -/
structure IsLine (text : List Char) (number : Nat) (before line after : List Char) : Prop where
  whole : text = before ++ line ++ after
  clear : '\n' ∉ line
  starts : before = [] ∨ before.getLast? = some '\n'
  ends : after.head? = some '\n' ∨ after = [] ∧ line ≠ []
  number_eq : number = before.count '\n' + 1

theorem lines_of_notMem {line : List Char} (whole : '\n' ∉ line) :
    lines line = if line = [] then [] else [line] := by
  have run : ∀ current, linesOnto [] current line
      = if current = [] ∧ line = [] then [] else [current.reverse ++ line] := by
    induction line with
    | nil => intro current; cases current <;> simp [linesOnto]
    | cons c line ih =>
      intro current
      obtain ⟨other, whole⟩ := not_or.1 (mt List.mem_cons.2 whole)
      rw [linesOnto, ih whole]
      · simp
      · exact fun same => other same.symm
  rw [lines, run]
  simp

variable {text first rest before line after : List Char} {number : Nat}

/-- Behind the first line, the lines are those of the rest. -/
theorem isLine_append_cons_iff (clear : '\n' ∉ first) :
    (∃ before after, IsLine (first ++ '\n' :: rest) number before line after)
      ↔ number = 1 ∧ line = first
        ∨ ∃ earlier, number = earlier + 1 ∧ ∃ before after, IsLine rest earlier before line after := by
  have none : first.count '\n' = 0 := List.count_eq_zero_of_not_mem clear
  constructor
  · rintro ⟨before, after, whole, lineClear, starts, ends, number_eq⟩
    rcases starts with rfl | ended
    · left
      rcases ends with feed | ⟨rfl, -⟩
      · obtain ⟨after, rfl⟩ := List.head?_eq_some_iff.1 feed
        obtain ⟨same, -⟩ := append_cons_inj clear lineClear whole
        exact ⟨number_eq, same.symm⟩
      · rw [List.nil_append, List.append_nil] at whole
        rw [← whole] at lineClear
        exact absurd (List.mem_append_right _ List.mem_cons_self) lineClear
    · right
      obtain ⟨opening, behind, rfl, openingClear⟩ :=
        List.eq_append_cons_of_mem (List.mem_of_getLast? ended)
      rw [List.append_assoc, List.append_assoc, List.cons_append] at whole
      obtain ⟨rfl, rfl⟩ := append_cons_inj clear openingClear whole
      rw [List.count_append, List.count_cons_self, none, Nat.zero_add] at number_eq
      refine ⟨_, number_eq, behind, after, (List.append_assoc _ _ _).symm, lineClear, ?_, ends, rfl⟩
      cases behind with
      | nil => exact .inl rfl
      | cons c behind =>
        right
        simpa using ended
  · rintro (⟨rfl, rfl⟩ | ⟨earlier, rfl, before, after, whole, lineClear, starts, ends, number_eq⟩)
    · exact ⟨[], _, rfl, clear, .inl rfl, .inl rfl, rfl⟩
    · refine ⟨first ++ '\n' :: before, after, ?_, lineClear, .inr ?_, ends, ?_⟩
      · rw [whole]
        simp
      · rcases starts with rfl | ended
        · simp
        · simp [List.getLast?_cons, ended]
      · rw [List.count_append, List.count_cons_self, none, Nat.zero_add, number_eq]

/-- A text without a line feed is a line if it holds something. -/
theorem isLine_of_notMem_iff (clear : '\n' ∉ text) :
    (∃ before after, IsLine text number before line after)
      ↔ number = 1 ∧ line = text ∧ text ≠ [] := by
  constructor
  · rintro ⟨before, after, rfl, -, starts, ends, number_eq⟩
    rw [List.mem_append, List.mem_append, not_or, not_or] at clear
    obtain rfl := starts.resolve_right fun ended => clear.1.1 (List.mem_of_getLast? ended)
    obtain ⟨rfl, filled⟩ := ends.resolve_left fun feed => clear.2 (List.mem_of_head? feed)
    rw [List.nil_append, List.append_nil]
    exact ⟨number_eq, rfl, filled⟩
  · rintro ⟨rfl, rfl, filled⟩
    exact ⟨[], [], by simp, clear, .inl rfl, .inr ⟨rfl, filled⟩, rfl⟩

/-- **The lines of a text, with their numbers.** -/
theorem mem_zipIdx_lines_iff :
    (line, number) ∈ (lines text).zipIdx 1 ↔ ∃ before after, IsLine text number before line after := by
  induction text using (measure List.length).wf.induction generalizing number with
  | _ text ih =>
    by_cases feed : '\n' ∈ text
    · obtain ⟨first, rest, rfl, clear⟩ := List.eq_append_cons_of_mem feed
      have shorter : rest.length < (first ++ '\n' :: rest).length := by
        rw [List.length_append, List.length_cons]
        omega
      rw [isLine_append_cons_iff clear, lines_append_cons clear, List.zipIdx_cons, List.mem_cons,
        List.zipIdx_succ, List.mem_map]
      refine or_congr (by rw [Prod.mk.injEq, and_comm]) ⟨?_, ?_⟩
      · rintro ⟨⟨_, earlier⟩, member, same⟩
        cases same
        exact ⟨earlier, rfl, (ih rest shorter).1 member⟩
      · rintro ⟨earlier, rfl, standing⟩
        exact ⟨(line, earlier), (ih rest shorter).2 standing, rfl⟩
    · rw [isLine_of_notMem_iff feed, lines_of_notMem feed]
      split
      · next empty => simp [empty]
      · next filled => simp [filled, and_comm]

/-! ### Blanks at the ends -/

/-- **A line without the blanks at its ends.** -/
structure Trims (line front note back : List Char) : Prop where
  whole : line = front ++ note ++ back
  front_blank : ∀ c ∈ front, isWhiteSpace c = true
  back_blank : ∀ c ∈ back, isWhiteSpace c = true
  starts : ∀ c, note.head? = some c → isWhiteSpace c = false
  ends : ∀ c, note.getLast? = some c → isWhiteSpace c = false

theorem dropWhile_eq_iff {α : Type} {holds : α → Bool} {items rest : List α} :
    items.dropWhile holds = rest ↔ ∃ front, items = front ++ rest
      ∧ (∀ item ∈ front, holds item = true) ∧ ∀ item, rest.head? = some item → holds item = false := by
  constructor
  · rintro rfl
    refine ⟨items.takeWhile holds, List.takeWhile_append_dropWhile.symm, ?_, ?_⟩
    · exact List.all_eq_true.1 List.all_takeWhile
    · intro item first
      have stopped := List.head?_dropWhile_not holds items
      rw [first] at stopped
      simpa using stopped
  · rintro ⟨front, rfl, dropped, stopped⟩
    rw [List.dropWhile_append_of_pos dropped]
    cases rest with
    | nil => rfl
    | cons item rest => rw [List.dropWhile_cons_of_neg (by simp [stopped item rfl])]

/-- **Trimming a line takes the blanks at its ends away.** -/
theorem trim_eq_iff {line note : List Char} :
    trim line = note ↔ ∃ front back, Trims line front note back := by
  rw [trim, List.reverse_eq_iff, dropWhile_eq_iff]
  constructor
  · rintro ⟨back, rest, blank, ends⟩
    rw [List.reverse_eq_iff, List.reverse_append, List.reverse_reverse, dropWhile_eq_iff] at rest
    obtain ⟨front, whole, dropped, stopped⟩ := rest
    refine ⟨front, back.reverse, ?_, dropped, ?_, ?_, ?_⟩
    · rw [whole, List.append_assoc]
    · simpa using blank
    · intro c first
      exact stopped c (by rw [List.head?_append, first]; rfl)
    · intro c last
      exact ends c (by rwa [List.head?_reverse])
  · rintro ⟨front, back, whole, front_blank, back_blank, starts, ends⟩
    by_cases none : note = []
    · subst none
      refine ⟨[], ?_, by simp, by simp⟩
      rw [List.nil_append, List.reverse_inj, dropWhile_eq_iff]
      refine ⟨line, by simp, ?_, by simp⟩
      rw [whole, List.append_nil]
      intro c member
      exact (List.mem_append.1 member).elim (front_blank c) (back_blank c)
    · refine ⟨back.reverse, ?_, by simpa using back_blank, ?_⟩
      · rw [List.reverse_eq_iff, List.reverse_append, List.reverse_reverse, List.reverse_reverse,
          dropWhile_eq_iff]
        refine ⟨front, by rw [whole, List.append_assoc], front_blank, ?_⟩
        intro c first
        obtain ⟨head, rest, rfl⟩ := List.exists_cons_of_ne_nil none
        exact starts c first
      · intro c last
        rw [List.head?_reverse] at last
        exact ends c last

end Cartridge
